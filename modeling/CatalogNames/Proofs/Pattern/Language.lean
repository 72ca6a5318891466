import CatalogNames.Pattern
import Mathlib.Data.List.Infix

/-! The texts that a pattern stands for, and that matching finds exactly these. Pieces may be placed in a
text in many ways. The leftmost way leaves the longest rest, so what any way leaves is a suffix of what
the leftmost one leaves, and a later piece that can be placed at all can be placed after it. -/

namespace CatalogNames.Pattern

/-- Each wildcard gives way to a text of its own, which may be empty, and every other character stays. -/
inductive Expands : Text → Text → Prop where
  | nil : Expands [] []
  | fill (filling : Text) {pattern text : Text} (later : Expands pattern text) :
      Expands (wildcard :: pattern) (filling ++ text)
  | keep {char : Char} (plain : char ≠ wildcard) {pattern text : Text}
      (later : Expands pattern text) : Expands (char :: pattern) (char :: text)

/-- The pieces stand in the text in order and without overlap, each after a gap, and the rest of the text
follows the last of them. -/
inductive Placed : List Text → Text → Text → Prop where
  | nil (text : Text) : Placed [] text text
  | cons (gap piece : Text) {pieces : List Text} {text rest : Text}
      (later : Placed pieces text rest) : Placed (piece :: pieces) (gap ++ piece ++ text) rest

theorem placed_nil_iff (text rest : Text) : Placed [] text rest ↔ text = rest := by
  constructor
  · intro placed
    cases placed
    rfl
  · intro same
    exact same ▸ .nil text

theorem placed_cons_iff (piece : Text) (pieces : List Text) (text rest : Text) :
    Placed (piece :: pieces) text rest ↔
      ∃ gap after, text = gap ++ piece ++ after ∧ Placed pieces after rest := by
  constructor
  · intro placed
    cases placed
    next gap after later => exact ⟨gap, after, rfl, later⟩
  · intro parts
    obtain ⟨gap, after, rfl, later⟩ := parts
    exact .cons gap piece later

theorem placed_append_iff (first second : List Text) (text rest : Text) :
    Placed (first ++ second) text rest ↔
      ∃ between, Placed first text between ∧ Placed second between rest := by
  induction first generalizing text with
  | nil => simp [placed_nil_iff]
  | cons piece pieces ih =>
      simp only [List.cons_append, placed_cons_iff, ih]
      constructor
      · intro parts
        obtain ⟨gap, after, same, between, early, late⟩ := parts
        exact ⟨between, ⟨gap, after, same, early⟩, late⟩
      · intro parts
        obtain ⟨between, ⟨gap, after, same, early⟩, late⟩ := parts
        exact ⟨gap, after, same, between, early, late⟩

/-- A piece that nothing may follow has to end the text. -/
theorem placed_last_iff (last text : Text) : Placed [last] text [] ↔ last <:+ text := by
  simp only [placed_cons_iff, placed_nil_iff]
  constructor
  · intro placed
    obtain ⟨gap, after, same, rfl⟩ := placed
    exact ⟨gap, by simpa using same.symm⟩
  · intro ends
    obtain ⟨gap, same⟩ := ends
    exact ⟨gap, [], by simpa using same.symm, rfl⟩

theorem eq_append_of_afterFirst? (piece text rest : Text) (found : afterFirst? piece text = some rest) :
    ∃ gap, text = gap ++ piece ++ rest := by
  induction text with
  | nil => exact ⟨[], afterStart?_eq_some_iff.mp found⟩
  | cons head tail ih =>
      rw [afterFirst?, Option.or_eq_some_iff] at found
      rcases found with here | ⟨-, later⟩
      · exact ⟨[], afterStart?_eq_some_iff.mp here⟩
      · obtain ⟨gap, same⟩ := ih later
        exact ⟨head :: gap, by rw [same]; rfl⟩

theorem afterFirst?_of_afterStart? (piece text rest : Text)
    (starts : afterStart? piece text = some rest) : afterFirst? piece text = some rest := by
  cases text with
  | nil => exact starts
  | cons head tail => rw [afterFirst?, starts, Option.some_or]

/-- The leftmost place of a piece leaves at least what any other place leaves. -/
theorem afterFirst?_leftmost (piece gap rest : Text) :
    ∃ longest, afterFirst? piece (gap ++ piece ++ rest) = some longest ∧ rest <:+ longest := by
  induction gap with
  | nil =>
      have starts : afterStart? piece ([] ++ piece ++ rest) = some rest :=
        afterStart?_eq_some_iff.mpr rfl
      exact ⟨rest, afterFirst?_of_afterStart? piece _ rest starts, List.suffix_refl rest⟩
  | cons head gap ih =>
      cases here : afterStart? piece (head :: gap ++ piece ++ rest) with
      | none =>
          obtain ⟨longest, found, ends⟩ := ih
          refine ⟨longest, ?_, ends⟩
          change (afterStart? piece (head :: gap ++ piece ++ rest)).or
            (afterFirst? piece (gap ++ piece ++ rest)) = _
          rw [here, Option.none_or, found]
      | some longest =>
          refine ⟨longest, afterFirst?_of_afterStart? piece _ longest here, ?_⟩
          -- Both are suffixes of the same text, and the place further left leaves more of it.
          have whole := afterStart?_eq_some_iff.mp here
          have left : longest <:+ head :: gap ++ piece ++ rest := ⟨piece, whole.symm⟩
          have right : rest <:+ head :: gap ++ piece ++ rest := List.suffix_append _ rest
          apply List.suffix_of_suffix_length_le right left
          have lengths := congrArg List.length whole
          simp only [List.length_append, List.length_cons] at lengths
          omega

theorem placed_of_afterEach? (pieces : List Text) (text rest : Text)
    (found : afterEach? pieces text = some rest) : Placed pieces text rest := by
  induction pieces generalizing text with
  | nil =>
      cases found
      exact .nil _
  | cons piece pieces ih =>
      obtain ⟨after, first, later⟩ := Option.bind_eq_some_iff.mp found
      obtain ⟨gap, rfl⟩ := eq_append_of_afterFirst? piece text after first
      exact .cons gap piece (ih after later)

/-- Placing each piece leftmost succeeds wherever the pieces can be placed, also after more text, and
leaves at least what any other placement leaves. -/
theorem afterEach?_leftmost (pieces : List Text) (text rest whole : Text)
    (placed : Placed pieces text rest) (part : text <:+ whole) :
    ∃ longest, afterEach? pieces whole = some longest ∧ rest <:+ longest := by
  induction placed generalizing whole with
  | nil text => exact ⟨whole, rfl, part⟩
  | cons gap piece later ih =>
      next pieces after rest =>
        obtain ⟨more, rfl⟩ := part
        obtain ⟨left, first, ends⟩ := afterFirst?_leftmost piece (more ++ gap) after
        obtain ⟨longest, found, longer⟩ := ih left ends
        refine ⟨longest, ?_, longer⟩
        rw [afterEach?, ← List.append_assoc, ← List.append_assoc, first, Option.bind_some, found]

theorem expands_nil_iff (text : Text) : Expands [] text ↔ text = [] := by
  constructor
  · intro expands
    cases expands
    rfl
  · intro same
    exact same ▸ .nil

theorem expands_wildcard_iff (pattern text : Text) : Expands (wildcard :: pattern) text ↔
    ∃ filling rest, text = filling ++ rest ∧ Expands pattern rest := by
  constructor
  · intro expands
    cases expands with
    | fill filling later => exact ⟨filling, _, rfl, later⟩
    | keep plain => contradiction
  · intro parts
    obtain ⟨filling, rest, rfl, later⟩ := parts
    exact .fill filling later

theorem expands_plain_iff (char : Char) (pattern text : Text) (plain : char ≠ wildcard) :
    Expands (char :: pattern) text ↔ ∃ rest, text = char :: rest ∧ Expands pattern rest := by
  constructor
  · intro expands
    cases expands with
    | fill => contradiction
    | keep _ later => exact ⟨_, rfl, later⟩
  · intro parts
    obtain ⟨rest, rfl, later⟩ := parts
    exact .keep plain later

theorem splitOn_cons (char : Char) (pattern : Text) : (char :: pattern).splitOn wildcard =
    if char = wildcard then [] :: pattern.splitOn wildcard
    else (pattern.splitOn wildcard).modifyHead (List.cons char) := by
  simp only [List.splitOn_eq_splitOnP, List.splitOnP_cons_eq_if_modifyHead, beq_iff_eq]

/-- A text that the pattern stands for starts with the first piece, and the others are placed after it
so that the last one ends the text. -/
theorem expands_iff_placed (pattern start text : Text) (pieces : List Text)
    (split : pattern.splitOn wildcard = start :: pieces) :
    Expands pattern text ↔ ∃ rest, text = start ++ rest ∧ Placed pieces rest [] := by
  induction pattern generalizing start pieces text with
  | nil =>
      cases split
      simp [expands_nil_iff, placed_nil_iff]
  | cons char pattern ih =>
      obtain ⟨first, others, inner⟩ :=
        List.exists_cons_of_ne_nil (List.splitOnP_ne_nil (· == wildcard) pattern)
      change pattern.splitOn wildcard = first :: others at inner
      rw [splitOn_cons, inner] at split
      by_cases wild : char = wildcard
      · rw [if_pos wild] at split
        cases split
        subst wild
        simp only [expands_wildcard_iff, ih first _ others inner, placed_cons_iff, List.nil_append]
        constructor
        · intro parts
          obtain ⟨filling, _, rfl, after, rfl, placed⟩ := parts
          exact ⟨_, rfl, filling, after, by simp, placed⟩
        · intro parts
          obtain ⟨_, rfl, filling, after, rfl, placed⟩ := parts
          exact ⟨filling, first ++ after, by simp, after, rfl, placed⟩
      · rw [if_neg wild, List.modifyHead_cons] at split
        cases split
        simp only [expands_plain_iff char pattern text wild, ih first _ pieces inner]
        constructor
        · intro parts
          obtain ⟨_, rfl, after, rfl, placed⟩ := parts
          exact ⟨after, rfl, placed⟩
        · intro parts
          obtain ⟨after, rfl, placed⟩ := parts
          exact ⟨first ++ after, rfl, after, rfl, placed⟩

/-- The pieces can be placed up to the end of the text exactly if the last one ends what the leftmost
placement of those before it leaves. -/
theorem placed_iff_afterEach? (middle : List Text) (last text : Text) :
    Placed (middle ++ [last]) text [] ↔
      ∃ rest, afterEach? middle text = some rest ∧ last <:+ rest := by
  simp only [placed_append_iff, placed_last_iff]
  constructor
  · intro parts
    obtain ⟨rest, placed, ends⟩ := parts
    obtain ⟨longest, found, longer⟩ :=
      afterEach?_leftmost middle text rest text placed (List.suffix_refl text)
    exact ⟨longest, found, ends.trans longer⟩
  · intro parts
    obtain ⟨rest, found, ends⟩ := parts
    exact ⟨rest, placed_of_afterEach? middle text rest found, ends⟩

/-- Matching decides which texts a pattern stands for. -/
theorem matchesText_iff_expands (pattern : Pattern) (text : Text) :
    pattern.matchesText text = true ↔ Expands pattern.text text := by
  obtain ⟨start, pieces, split⟩ :=
    List.exists_cons_of_ne_nil (List.splitOnP_ne_nil (· == wildcard) pattern.text)
  change pattern.text.splitOn wildcard = start :: pieces at split
  rw [expands_iff_placed pattern.text start text pieces split]
  simp only [← afterStart?_eq_some_iff]
  unfold matchesText
  rw [split]
  cases after : afterStart? start text with
  | none => simp [after]
  | some rest =>
      rcases List.eq_nil_or_concat pieces with only | ⟨middle, last, several⟩
      · subst only
        simp [after, placed_nil_iff]
      · rw [List.concat_eq_append] at several
        subst several
        simp only [after, List.getLast?_concat, List.dropLast_concat, Option.some.injEq,
          exists_eq_left', placed_iff_afterEach?]
        cases found : afterEach? middle rest with
        | none => simp
        | some longest => simp

/-- The last piece may not use characters that a piece before it has taken. -/
example : matchesText ⟨"%ab%b".toList⟩ "ab".toList = false := rfl

end CatalogNames.Pattern
