import CatalogNames.Proofs.Name.Checks
import CatalogNames.Proofs.Name.Written
import CatalogNames.Proofs.Text.Padding

/-! What is stored of a segment. Trimming takes characters off both ends and folding replaces characters one by
one, but neither touches a delimiter or an equals sign. So the stored text is cut into the same segments and
read as the same kind as the given one, and storing it again changes nothing. Where letters are folded,
two segments are stored alike if only blanks at their ends and the case of ASCII letters tell them apart. -/

namespace CatalogNames

namespace Text

/-- The same character, or the same ASCII letter in the other case. -/
inductive SameLetter : Char → Char → Prop where
  | same (char : Char) : SameLetter char char
  | lowered {upper lower : Char} (capital : upper.isUpper = true)
      (code : lower.toNat = upper.toNat + 32) : SameLetter upper lower
  | raised {lower upper : Char} (capital : upper.isUpper = true)
      (code : lower.toNat = upper.toNat + 32) : SameLetter lower upper

theorem eq_toLower_iff (upper lower : Char) (capital : upper.isUpper = true) :
    lower = upper.toLower ↔ lower.toNat = upper.toNat + 32 := by
  have range := capital
  simp only [Char.isUpper, Char.reduceVal, ge_iff_le, UInt32.le_iff_toNat_le, UInt32.reduceToNat,
    Char.toNat_val, Bool.decide_and, Bool.and_eq_true, decide_eq_true_eq] at range
  have valid : (upper.toNat + 32).isValidChar := by
    left
    omega
  rw [Char.toLower_eq_of_isUpper capital, ← Char.toNat_inj, Char.toNat_ofNat, if_pos valid]

theorem SameLetter.symm {first second : Char} (alike : SameLetter first second) :
    SameLetter second first := by
  cases alike with
  | same => exact .same first
  | lowered capital code => exact .raised capital code
  | raised capital code => exact .lowered capital code

theorem sameLetter_of_isUpper (first second : Char) (capital : first.isUpper = true)
    (folded : first.toLower = second.toLower) : SameLetter first second := by
  have code := (eq_toLower_iff first _ capital).mp rfl
  by_cases also : second.isUpper = true
  · have other := (eq_toLower_iff second _ also).mp rfl
    rw [folded] at code
    have same : first = second := Char.toNat_inj.mp (by omega)
    exact same ▸ .same first
  · rw [folded, Char.toLower_eq_of_not_isUpper also] at code
    exact .lowered capital code

theorem toLower_eq_toLower_iff (first second : Char) :
    first.toLower = second.toLower ↔ SameLetter first second := by
  constructor
  · intro folded
    by_cases firstCapital : first.isUpper = true
    · exact sameLetter_of_isUpper first second firstCapital folded
    by_cases secondCapital : second.isUpper = true
    · exact (sameLetter_of_isUpper second first secondCapital folded.symm).symm
    · rw [Char.toLower_eq_of_not_isUpper firstCapital,
        Char.toLower_eq_of_not_isUpper secondCapital] at folded
      exact folded ▸ .same first
  · intro alike
    cases alike with
    | same => rfl
    | lowered capital code =>
        rw [(eq_toLower_iff first second capital).mpr code, Char.toLower_toLower_eq_toLower]
    | raised capital code =>
        rw [(eq_toLower_iff second first capital).mpr code, Char.toLower_toLower_eq_toLower]

theorem fold_eq_fold_iff (first second : Text) :
    fold first = fold second ↔ List.Forall₂ SameLetter first second := by
  calc
    fold first = fold second ↔
        List.Forall₂ (· = ·) (first.map Char.toLower) (second.map Char.toLower) := by
      rw [List.forall₂_eq_eq_eq]
      rfl
    _ ↔ List.Forall₂ (fun one other => one.toLower = other.toLower) first second := by
      rw [List.forall₂_map_left_iff, List.forall₂_map_right_iff]
    _ ↔ List.Forall₂ SameLetter first second := by
      simp only [toLower_eq_toLower_iff]

theorem filter_trim (keep : Char → Bool) (visible : ∀ char, keep char = true → isBlank char = false)
    (text : Text) : (trim text).filter keep = text.filter keep := by
  obtain ⟨before, after, whole, blankBefore, blankAfter⟩ := trim_pad text
  have dropped (blanks : Text) (blank : ∀ char ∈ blanks, isBlank char = true) :
      blanks.filter keep = [] := by
    rw [List.filter_eq_nil_iff]
    intro char found kept
    exact not_mem_blanks char (visible char kept) blanks blank found
  conv_rhs => rw [whole]
  rw [List.filter_append, List.filter_append, dropped before blankBefore, dropped after blankAfter,
    List.nil_append, List.append_nil]

theorem filter_fold (keep : Char → Bool)
    (letterless : ∀ char, keep char = true → char.isAlpha = false) (text : Text) :
    (fold text).filter keep = text.filter keep := by
  have dropped (char : Char) (letter : char.isAlpha = true) : keep char = false := by
    by_contra kept
    rw [letterless char (by simpa using kept)] at letter
    contradiction
  have same : keep ∘ Char.toLower = keep := by
    funext char
    by_cases letter : char.isAlpha = true
    · rw [Function.comp_apply, dropped char letter, dropped char.toLower (by simpa using letter)]
    · rw [Function.comp_apply, toLower_eq_self char (by simpa using letter)]
  rw [fold, List.filter_map, same]
  apply (fold_eq_self_iff _).mpr
  intro char found
  exact toLower_eq_self char (letterless char (List.mem_filter.mp found).2)

end Text

namespace Level
open Text

theorem normalize_fold_of_foldsCase (level : Level) (folds : level.foldsCase = true) (segment : Text) :
    level.normalize (fold segment) = level.normalize segment := by
  rw [normalize_fold, normalize, if_pos folds, fold_fold]

theorem filter_normalize (level : Level) (keep : Char → Bool)
    (visible : ∀ char, keep char = true → isBlank char = false)
    (letterless : ∀ char, keep char = true → char.isAlpha = false) (segment : Text) :
    (level.normalize segment).filter keep = segment.filter keep := by
  unfold normalize
  split
  next => rw [filter_fold keep letterless, filter_trim keep visible]
  next => rw [filter_trim keep visible]

/-- The parts of a segment are stored in the same way whether or not the whole is trimmed before the cut. -/
theorem map_normalize_splitAtMost_trim (level : Level) (separator : Char)
    (visible : isBlank separator = false) (cuts : Nat) (segment : Text) :
    (splitAtMost separator cuts segment.trim).map level.normalize =
      (splitAtMost separator cuts segment).map level.normalize := by
  have untrimmed (text : Text) : (splitAtMost separator cuts text).map level.normalize =
      (trimmedParts separator cuts text).map level.normalize := by
    rw [trimmedParts, List.map_map]
    exact List.map_congr_left fun part _ => (level.normalize_trim part).symm
  rw [untrimmed, untrimmed, trimmedParts_trim separator visible]

/-- Nor does it matter whether the whole is stored before the cut. -/
theorem map_normalize_splitAtMost (level : Level) (separator : Char)
    (visible : isBlank separator = false) (letterless : separator.isAlpha = false) (cuts : Nat)
    (segment : Text) :
    (splitAtMost separator cuts (level.normalize segment)).map level.normalize =
      (splitAtMost separator cuts segment).map level.normalize := by
  rw [← level.map_normalize_splitAtMost_trim separator visible cuts segment]
  by_cases folds : level.foldsCase = true
  · rw [normalize, if_pos folds, splitAtMost_fold separator letterless, List.map_map]
    exact List.map_congr_left fun part _ => level.normalize_fold_of_foldsCase folds part
  · rw [normalize, if_neg folds]

/-- Two segments are stored alike if they are the same once trimmed, at a level that folds case up to the
case of ASCII letters. -/
theorem normalize_eq_normalize_iff (level : Level) (first second : Text) :
    level.normalize first = level.normalize second ↔
      if level.foldsCase then List.Forall₂ SameLetter first.trim second.trim
      else first.trim = second.trim := by
  unfold normalize
  split
  next => exact fold_eq_fold_iff first.trim second.trim
  next => rfl

/-- The characters that tell where a segment is cut and what it is read as. -/
def marks : List Char := [Name.delimiter, '=']

theorem isBlank_of_mem_marks (mark : Char) (found : mark ∈ marks) : isBlank mark = false := by
  rcases List.mem_pair.mp found with rfl | rfl
  · decide
  · decide

theorem isAlpha_of_mem_marks (mark : Char) (found : mark ∈ marks) : mark.isAlpha = false := by
  rcases List.mem_pair.mp found with rfl | rfl
  · decide
  · decide

/-- How a stored text stands to the segment that it is stored for. -/
structure Normalized (level : Level) (segment stored : Text) : Prop where
  blank : stored = [] ↔ ∀ char ∈ segment, isBlank char = true
  again : level.normalize stored = stored
  trimmed : Trimmed stored
  count : ∀ mark ∈ marks, stored.count mark = segment.count mark
  order : stored.filter marks.contains = segment.filter marks.contains
  /-- Cutting the one gives as many parts as cutting the other, and these are stored alike. -/
  parts : ∀ cuts, (splitAtMost Name.delimiter cuts stored).map level.normalize =
    (splitAtMost Name.delimiter cuts segment).map level.normalize
  kind : ∀ reading : Reading, reading.readsAsView stored = reading.readsAsView segment

theorem normalized_normalize (level : Level) (segment : Text) :
    level.Normalized segment (level.normalize segment) := by
  have order : (level.normalize segment).filter marks.contains = segment.filter marks.contains :=
    level.filter_normalize marks.contains
      (fun mark kept => isBlank_of_mem_marks mark (List.contains_iff_mem.mp kept))
      (fun mark kept => isAlpha_of_mem_marks mark (List.contains_iff_mem.mp kept)) segment
  refine {
    blank := (level.normalize_eq_nil_iff segment).trans (trim_eq_nil_iff segment)
    again := level.normalize_normalize segment
    trimmed := (trim_eq_self_iff _).mp (level.trim_normalize segment)
    count := ?_
    order
    parts := fun cuts =>
      level.map_normalize_splitAtMost Name.delimiter (by decide) (by decide) cuts segment
    kind := fun reading => reading.readsAsView_normalize level segment }
  intro mark found
  have kept := List.contains_iff_mem.mpr found
  rw [← List.count_filter kept, order, List.count_filter kept]

/-- Storing a segment is a projection that keeps its marks. It tells segments apart by what is left when they
are trimmed, and where letters are folded, by that up to the case of ASCII letters. -/
theorem normalize_projects (level : Level) (segment : Text) :
    level.Normalized segment (level.normalize segment) ∧
      ∀ other, level.normalize segment = level.normalize other ↔
        if level.foldsCase then List.Forall₂ SameLetter segment.trim other.trim
        else segment.trim = other.trim :=
  ⟨level.normalized_normalize segment, level.normalize_eq_normalize_iff segment⟩

/-- Blanks and capitals that are not ASCII: the first are taken off, the others stay. -/
example : Level.table.normalize "\u2003\u00C9 =A/B\u3000".toList = "\u00C9 =a/b".toList := by decide

end Level

end CatalogNames
