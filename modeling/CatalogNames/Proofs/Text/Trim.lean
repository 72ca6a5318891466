import CatalogNames.Text.Basic
import Mathlib

/-! Trimming takes blanks off both ends and nothing else. Folding changes letters and nothing else, so it
neither makes a blank nor removes one, and the two commute. -/

namespace CatalogNames.Text

/-- No blank stands at either end. -/
def Trimmed (text : Text) : Prop :=
  (∀ char ∈ text.head?, isBlank char = false) ∧ ∀ char ∈ text.getLast?, isBlank char = false

theorem trimStart_eq_self (text : Text) (visible : ∀ char ∈ text.head?, isBlank char = false) :
    trimStart text = text := by
  cases text with
  | nil => rfl
  | cons head rest =>
      have first : isBlank head = false := visible head rfl
      simp [trimStart, first]

theorem trimEnd_eq_self (text : Text) (visible : ∀ char ∈ text.getLast?, isBlank char = false) :
    trimEnd text = text := by
  have mirrored := trimStart_eq_self text.reverse (by simpa using visible)
  unfold trimStart at mirrored
  rw [trimEnd, mirrored, List.reverse_reverse]

theorem trim_eq_self (text : Text) (trimmed : Trimmed text) : trim text = text := by
  rw [trim, trimStart_eq_self text trimmed.1, trimEnd_eq_self text trimmed.2]

theorem head?_trimStart (text : Text) : ∀ char ∈ (trimStart text).head?, isBlank char = false := by
  intro char first
  have dropped := List.head?_dropWhile_not isBlank text
  unfold trimStart at first
  rw [Option.mem_def] at first
  simpa only [first] using dropped

theorem getLast?_trimEnd (text : Text) : ∀ char ∈ (trimEnd text).getLast?, isBlank char = false := by
  intro char last
  rw [trimEnd, List.getLast?_reverse] at last
  exact head?_trimStart text.reverse char last

theorem trimEnd_prefix (text : Text) : trimEnd text <+: text := List.rdropWhile_prefix isBlank text

theorem trimmed_trim (text : Text) : Trimmed (trim text) := by
  refine ⟨?_, getLast?_trimEnd (trimStart text)⟩
  intro char first
  apply head?_trimStart text char
  obtain ⟨blanks, whole⟩ := trimEnd_prefix (trimStart text)
  rw [← whole]
  unfold trim at first
  simp [Option.mem_def.mp first]

theorem trim_trim (text : Text) : trim (trim text) = trim text :=
  trim_eq_self (trim text) (trimmed_trim text)

theorem trim_eq_self_iff (text : Text) : trim text = text ↔ Trimmed text := by
  constructor
  · intro same
    exact same ▸ trimmed_trim text
  · exact trim_eq_self text

/-- What trimming takes off is blank. -/
theorem trim_pad (text : Text) : ∃ before after, text = before ++ trim text ++ after ∧
    (∀ char ∈ before, isBlank char = true) ∧ ∀ char ∈ after, isBlank char = true := by
  refine ⟨text.takeWhile isBlank, ((trimStart text).reverse.takeWhile isBlank).reverse, ?_, ?_, ?_⟩
  · have ends : trim text ++ ((trimStart text).reverse.takeWhile isBlank).reverse = trimStart text := by
      rw [trim, trimEnd, ← List.reverse_append, List.takeWhile_append_dropWhile,
        List.reverse_reverse]
    rw [List.append_assoc, ends, trimStart, List.takeWhile_append_dropWhile]
  · exact fun char found => List.mem_takeWhile_imp found
  · exact fun char found => List.mem_takeWhile_imp (List.mem_reverse.mp found)

/-- Only a text of blanks is trimmed away. -/
theorem trim_eq_nil_iff (text : Text) : trim text = [] ↔ ∀ char ∈ text, isBlank char = true := by
  constructor
  · intro empty
    obtain ⟨before, after, whole, blankBefore, blankAfter⟩ := trim_pad text
    rw [empty, List.append_nil] at whole
    intro char found
    rw [whole, List.mem_append] at found
    exact found.elim (blankBefore char) (blankAfter char)
  · intro blank
    have started : trimStart text = [] := List.dropWhile_eq_nil_iff.mpr blank
    rw [trim, started]
    rfl

theorem trim_blanks_append (blanks text : Text) (blank : ∀ char ∈ blanks, isBlank char = true) :
    trim (blanks ++ text) = trim text := by
  have dropped : trimStart (blanks ++ text) = trimStart text := List.dropWhile_append_of_pos blank
  rw [trim, dropped, trim]

theorem trim_append_blanks (text blanks : Text) (blank : ∀ char ∈ blanks, isBlank char = true) :
    trim (text ++ blanks) = trim text := by
  have mirrored : ∀ char ∈ blanks.reverse, isBlank char = true :=
    fun char found => blank char (List.mem_reverse.mp found)
  rw [trim, trim, trimStart, List.dropWhile_append]
  split
  next empty =>
    have nothing : trimStart text = [] := List.isEmpty_iff.mp empty
    rw [nothing, List.dropWhile_eq_nil_iff.mpr blank]
  next =>
    rw [trimEnd, List.reverse_append, List.dropWhile_append_of_pos mirrored]
    rfl

theorem length_trim_le (text : Text) : (trim text).length ≤ text.length := by
  obtain ⟨before, after, whole, -, -⟩ := trim_pad text
  have lengths := congrArg List.length whole
  simp only [List.length_append] at lengths
  omega

theorem mem_trim_iff (text : Text) (char : Char) (visible : isBlank char = false) :
    char ∈ trim text ↔ char ∈ text := by
  obtain ⟨before, after, whole, blankBefore, blankAfter⟩ := trim_pad text
  have outside : char ∉ before ∧ char ∉ after := by
    constructor <;> intro found
    · simp [blankBefore char found] at visible
    · simp [blankAfter char found] at visible
  conv_rhs => rw [whole]
  simp [outside.1, outside.2]

theorem isBlank_of_isAlpha (char : Char) (letter : char.isAlpha) : isBlank char = false := by
  simp only [Char.isAlpha, Char.isUpper, Char.isLower, Char.reduceVal, UInt32.le_iff_toNat_le,
    Bool.decide_and, Bool.or_eq_true, Bool.and_eq_true, decide_eq_true_eq, UInt32.reduceToNat,
    Char.toNat_val] at letter
  simp only [isBlank, inRanges, blankRanges, List.any_cons, List.any_nil, Bool.or_false,
    Bool.or_eq_false_iff, Bool.and_eq_false_iff, decide_eq_false_iff_not]
  omega

theorem toLower_eq_self (char : Char) (letterless : char.isAlpha = false) : char.toLower = char := by
  apply Char.toLower_eq_of_not_isUpper
  intro upper
  simp [Char.isAlpha, upper] at letterless

theorem toLower_eq_iff (char mark : Char) (letterless : mark.isAlpha = false) :
    char.toLower = mark ↔ char = mark := by
  constructor
  · intro same
    have fixed : char.toLower = char := by
      apply toLower_eq_self
      rw [← Char.isAlpha_toLower_eq_isAlpha, same, letterless]
    rw [← same, fixed]
  · intro same
    rw [same, toLower_eq_self mark letterless]

/-- Folding neither makes a blank nor removes one. -/
theorem isBlank_toLower (char : Char) : isBlank char.toLower = isBlank char := by
  by_cases letter : char.isAlpha
  · rw [isBlank_of_isAlpha char letter]
    exact isBlank_of_isAlpha char.toLower (by simpa using letter)
  · rw [toLower_eq_self char (by simpa using letter)]

theorem fold_fold (text : Text) : fold (fold text) = fold text := by
  simp [fold]

theorem fold_eq_self_iff (text : Text) : fold text = text ↔ ∀ char ∈ text, char.toLower = char := by
  simpa [fold] using List.map_inj_left (l := text) (f := Char.toLower) (g := id)

theorem length_fold (text : Text) : (fold text).length = text.length := List.length_map _

theorem trimStart_fold (text : Text) : trimStart (fold text) = fold (trimStart text) := by
  have same : isBlank ∘ Char.toLower = isBlank := funext isBlank_toLower
  rw [trimStart, fold, List.dropWhile_map, same]
  rfl

theorem trimEnd_fold (text : Text) : trimEnd (fold text) = fold (trimEnd text) := by
  have mirrored := trimStart_fold text.reverse
  unfold trimStart fold at mirrored
  rw [trimEnd, fold, ← List.map_reverse, mirrored, ← List.map_reverse]
  rfl

theorem trim_fold (text : Text) : trim (fold text) = fold (trim text) := by
  calc
    trim (fold text) = trimEnd (fold (trimStart text)) := congrArg trimEnd (trimStart_fold text)
    _ = fold (trim text) := trimEnd_fold (trimStart text)

theorem mem_fold_iff (text : Text) (char : Char) (letterless : char.isAlpha = false) :
    char ∈ fold text ↔ char ∈ text := by
  unfold fold
  rw [List.mem_map]
  simp only [toLower_eq_iff _ char letterless, exists_eq_right]

end CatalogNames.Text
