import CatalogNames.Proofs.Pattern.Language

/-! Patterns that are open at the end, where their last wildcard stands. Such a pattern is matched by every
text that begins as the rest of the pattern says, so it is enough to look at the start of the text, piece
by piece. -/

namespace CatalogNames.Pattern

theorem expands_append_iff (first second text : Text) : Expands (first ++ second) text ↔
    ∃ front rest, text = front ++ rest ∧ Expands first front ∧ Expands second rest := by
  induction first generalizing text with
  | nil => simp [expands_nil_iff]
  | cons char pattern ih =>
      by_cases wild : char = wildcard
      · subst wild
        simp only [List.cons_append, expands_wildcard_iff, ih]
        constructor
        · intro parts
          obtain ⟨filling, _, rfl, front, rest, rfl, early, late⟩ := parts
          exact ⟨filling ++ front, rest, by simp, ⟨filling, front, rfl, early⟩, late⟩
        · intro parts
          obtain ⟨_, rest, rfl, ⟨filling, front, rfl, early⟩, late⟩ := parts
          exact ⟨filling, front ++ rest, by simp, front, rest, rfl, early, late⟩
      · simp only [List.cons_append, expands_plain_iff char _ _ wild, ih]
        constructor
        · intro parts
          obtain ⟨_, rfl, front, rest, rfl, early, late⟩ := parts
          exact ⟨char :: front, rest, rfl, ⟨front, rfl, early⟩, late⟩
        · intro parts
          obtain ⟨_, rest, rfl, ⟨front, rfl, early⟩, late⟩ := parts
          exact ⟨front ++ rest, rfl, front, rest, rfl, early, late⟩

/-- Without wildcards a pattern stands for itself. -/
theorem expands_literal_iff (literal text : Text) (plain : wildcard ∉ literal) :
    Expands literal text ↔ text = literal := by
  induction literal generalizing text with
  | nil => exact expands_nil_iff text
  | cons char literal ih =>
      simp only [List.mem_cons, not_or] at plain
      rw [expands_plain_iff char literal text (Ne.symm plain.1)]
      simp only [ih _ plain.2, exists_eq_right]

theorem expands_wildcard (text : Text) : Expands [wildcard] text :=
  (expands_wildcard_iff [] text).mpr ⟨text, [], by simp, .nil⟩

/-- Some start of the text is one that the pattern stands for. -/
def Begins (pattern text : Text) : Prop := ∃ front, front <+: text ∧ Expands pattern front

theorem begins_append_iff (first second text : Text) : Begins (first ++ second) text ↔
    ∃ front rest, text = front ++ rest ∧ Expands first front ∧ Begins second rest := by
  simp only [Begins, expands_append_iff]
  constructor
  · intro parts
    obtain ⟨_, ⟨more, rfl⟩, front, rest, rfl, early, late⟩ := parts
    exact ⟨front, rest ++ more, by simp, early, rest, List.prefix_append rest more, late⟩
  · intro parts
    obtain ⟨front, _, rfl, early, rest, ⟨more, rfl⟩, late⟩ := parts
    exact ⟨front ++ rest, ⟨more, by simp⟩, front, rest, rfl, early, late⟩

theorem begins_literal_iff (literal text : Text) (plain : wildcard ∉ literal) :
    Begins literal text ↔ literal <+: text := by
  simp only [Begins, expands_literal_iff literal _ plain, exists_eq_right]

theorem begins_wildcard (text : Text) : Begins [wildcard] text :=
  ⟨[], List.nil_prefix, expands_wildcard []⟩

/-- What follows the last piece has no part in placing the pieces. -/
theorem placed_iff_front (pieces : List Text) (text rest : Text) :
    Placed pieces text rest ↔ ∃ front, text = front ++ rest ∧ Placed pieces front [] := by
  induction pieces generalizing text with
  | nil => simp [placed_nil_iff]
  | cons piece pieces ih =>
      simp only [placed_cons_iff, ih]
      constructor
      · intro parts
        obtain ⟨gap, _, rfl, front, rfl, placed⟩ := parts
        exact ⟨gap ++ piece ++ front, by simp, gap, front, rfl, placed⟩
      · intro parts
        obtain ⟨_, rfl, gap, front, rfl, placed⟩ := parts
        exact ⟨gap, front ++ rest, by simp, front, rfl, placed⟩

/-- The leftmost placement succeeds exactly if there is one in some start of the text. -/
theorem isSome_afterEach?_iff (pieces : List Text) (text : Text) :
    (afterEach? pieces text).isSome ↔ ∃ front, front <+: text ∧ Placed pieces front [] := by
  rw [Option.isSome_iff_exists]
  constructor
  · intro found
    obtain ⟨rest, found⟩ := found
    have placed := placed_of_afterEach? pieces text rest found
    obtain ⟨front, rfl, inner⟩ := (placed_iff_front pieces text rest).mp placed
    exact ⟨front, List.prefix_append front rest, inner⟩
  · intro parts
    obtain ⟨front, ⟨rest, rfl⟩, inner⟩ := parts
    have placed := (placed_iff_front pieces (front ++ rest) rest).mpr ⟨front, rfl, inner⟩
    obtain ⟨longest, found, -⟩ :=
      afterEach?_leftmost pieces _ rest _ placed (List.suffix_refl (front ++ rest))
    exact ⟨longest, found⟩

/-- A pattern with a wildcard at its end is matched by what begins as the pattern before it says. -/
theorem matchesText_open_iff (body text : Text) :
    (Pattern.mk (body ++ [wildcard])).matchesText text = true ↔ Begins body text := by
  obtain ⟨start, pieces, split⟩ :=
    List.exists_cons_of_ne_nil (List.splitOn_ne_nil wildcard body)
  have splitOpen : (body ++ [wildcard]).splitOn wildcard = start :: (pieces ++ [[]]) := by
    rw [List.splitOn_append_cons_self, split, List.splitOn_nil, List.cons_append]
  have found : (Pattern.mk (body ++ [wildcard])).matchesText text = true ↔
      ∃ rest, afterStart? start text = some rest ∧ (afterEach? pieces rest).isSome := by
    unfold matchesText
    simp only [splitOpen, List.getLast?_concat, List.dropLast_concat]
    cases afterStart? start text with
    | none => simp
    | some rest => cases placed : afterEach? pieces rest <;> simp [placed]
  rw [found]
  simp only [afterStart?_eq_some_iff, isSome_afterEach?_iff, Begins,
    expands_iff_placed body start _ pieces split]
  constructor
  · intro parts
    obtain ⟨_, rfl, front, ⟨more, rfl⟩, placed⟩ := parts
    exact ⟨start ++ front, ⟨more, by simp⟩, front, rfl, placed⟩
  · intro parts
    obtain ⟨_, ⟨more, rfl⟩, front, rfl, placed⟩ := parts
    exact ⟨front ++ more, by simp, front, List.prefix_append front more, placed⟩

end CatalogNames.Pattern
