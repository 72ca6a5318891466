import CatalogNames.Proofs.Text.Split

/-! The parts of a text without the blanks around them. Blanks at the ends of the text, or around a separator
that is cut at, are blanks around a part, so it makes no difference whether they are there. -/

namespace CatalogNames.Text

def trimmedParts (separator : Char) (cuts : Nat) (text : Text) : List Text :=
  (splitAtMost separator cuts text).map trim

theorem length_trimmedParts (separator : Char) (cuts : Nat) (text : Text) :
    (trimmedParts separator cuts text).length = min (text.count separator) cuts + 1 := by
  rw [trimmedParts, List.length_map, length_splitAtMost]

theorem trimmedParts_append_of_count (separator : Char) (cuts : Nat) (before after : Text)
    (early : before.count separator < cuts) :
    trimmedParts separator cuts (before ++ separator :: after) =
      trimmedParts separator cuts before ++
        trimmedParts separator (cuts - before.count separator - 1) after := by
  simp only [trimmedParts, splitAtMost_append_of_count separator cuts before after early,
    List.map_append]

/-- The part behind the last possible cut is there only if the text is cut so often. -/
theorem getElem?_trimmedParts_of_count (separator : Char) (cuts : Nat) (text : Text)
    (few : text.count separator < cuts) : (trimmedParts separator cuts text)[cuts]? = none := by
  rw [List.getElem?_eq_none_iff, length_trimmedParts]
  omega

theorem getElem?_trimmedParts_append (separator : Char) (cuts : Nat) (before after : Text)
    (early : before.count separator < cuts) :
    (trimmedParts separator cuts (before ++ separator :: after))[cuts]? =
      (trimmedParts separator (cuts - before.count separator - 1)
        after)[cuts - before.count separator - 1]? := by
  have length : (trimmedParts separator cuts before).length = before.count separator + 1 := by
    rw [length_trimmedParts]
    omega
  rw [trimmedParts_append_of_count separator cuts before after early,
    List.getElem?_append_right (by omega), length]
  rfl

/-- The last part does not depend on a start behind which the text is still cut, but on the number of its
separators. -/
theorem getElem?_trimmedParts_of_start (separator : Char) (cuts : Nat) (start other rest : Text)
    (same : start.count separator = other.count separator) (early : start.count separator < cuts) :
    (trimmedParts separator cuts (start ++ rest))[cuts]? =
      (trimmedParts separator cuts (other ++ rest))[cuts]? := by
  cases found : cut? separator rest with
  | none =>
      have absent := List.count_eq_zero.mpr ((cut?_eq_none_iff separator rest).mp found)
      rw [getElem?_trimmedParts_of_count separator cuts (start ++ rest)
          (by rw [List.count_append]; omega),
        getElem?_trimmedParts_of_count separator cuts (other ++ rest)
          (by rw [List.count_append]; omega)]
  | some parts =>
      obtain ⟨middle, after⟩ := parts
      obtain ⟨rfl, uncut⟩ := cut?_eq_some found
      have absent := List.count_eq_zero.mpr uncut
      rw [← List.append_assoc, ← List.append_assoc,
        getElem?_trimmedParts_append separator cuts (start ++ middle) after
          (by rw [List.count_append]; omega),
        getElem?_trimmedParts_append separator cuts (other ++ middle) after
          (by rw [List.count_append]; omega),
        List.count_append, List.count_append, same]

theorem trimmedParts_fold (separator : Char) (letterless : separator.isAlpha = false) (cuts : Nat)
    (text : Text) :
    trimmedParts separator cuts (fold text) = (trimmedParts separator cuts text).map fold := by
  simp only [trimmedParts, splitAtMost_fold separator letterless, List.map_map]
  exact List.map_congr_left fun part _ => trim_fold part

section
variable (separator : Char) (visible : isBlank separator = false)
include visible

theorem not_mem_blanks (blanks : Text) (blank : ∀ char ∈ blanks, isBlank char = true) :
    separator ∉ blanks := by
  intro found
  rw [blank separator found] at visible
  contradiction

/-- Blanks before the text belong to its first part. -/
theorem trimmedParts_blanks_append (cuts : Nat) (blanks text : Text)
    (blank : ∀ char ∈ blanks, isBlank char = true) :
    trimmedParts separator cuts (blanks ++ text) = trimmedParts separator cuts text := by
  have outside := not_mem_blanks separator visible blanks blank
  unfold trimmedParts
  cases cuts with
  | zero => simp [splitAtMost, trim_blanks_append blanks text blank]
  | succ cuts =>
      cases found : cut? separator text with
      | none =>
          have absent := (cut?_eq_none_iff separator text).mp found
          rw [splitAtMost_of_not_mem separator _ (blanks ++ text) (by simp [outside, absent]),
            splitAtMost_of_not_mem separator _ text absent]
          simp [trim_blanks_append blanks text blank]
      | some parts =>
          obtain ⟨before, after⟩ := parts
          obtain ⟨rfl, absent⟩ := cut?_eq_some found
          rw [← List.append_assoc,
            splitAtMost_append separator cuts (blanks ++ before) after (by simp [outside, absent]),
            splitAtMost_append separator cuts before after absent]
          simp [trim_blanks_append blanks before blank]

/-- Blanks after the text belong to its last part. -/
theorem trimmedParts_append_blanks (cuts : Nat) (text blanks : Text)
    (blank : ∀ char ∈ blanks, isBlank char = true) :
    trimmedParts separator cuts (text ++ blanks) = trimmedParts separator cuts text := by
  have outside := not_mem_blanks separator visible blanks blank
  unfold trimmedParts
  induction cuts generalizing text with
  | zero => simp [splitAtMost, trim_append_blanks text blanks blank]
  | succ cuts ih =>
      cases found : cut? separator text with
      | none =>
          have absent := (cut?_eq_none_iff separator text).mp found
          rw [splitAtMost_of_not_mem separator _ (text ++ blanks) (by simp [outside, absent]),
            splitAtMost_of_not_mem separator _ text absent]
          simp [trim_append_blanks text blanks blank]
      | some parts =>
          obtain ⟨before, after⟩ := parts
          obtain ⟨rfl, absent⟩ := cut?_eq_some found
          rw [List.append_assoc, List.cons_append,
            splitAtMost_append separator cuts before (after ++ blanks) absent,
            splitAtMost_append separator cuts before after absent, List.map_cons, List.map_cons, ih]

theorem trimmedParts_trim (cuts : Nat) (text : Text) :
    trimmedParts separator cuts text.trim = trimmedParts separator cuts text := by
  obtain ⟨before, after, whole, blankBefore, blankAfter⟩ := trim_pad text
  conv_rhs => rw [whole]
  rw [trimmedParts_append_blanks separator visible cuts _ after blankAfter,
    trimmedParts_blanks_append separator visible cuts before _ blankBefore]

/-- Where a cut is possible, blanks around the separator belong to the parts beside it. -/
theorem trimmedParts_around (cuts : Nat) (front before after rest : Text)
    (early : front.count separator < cuts) (blankBefore : ∀ char ∈ before, isBlank char = true)
    (blankAfter : ∀ char ∈ after, isBlank char = true) :
    trimmedParts separator cuts (front ++ before ++ separator :: (after ++ rest)) =
      trimmedParts separator cuts (front ++ separator :: rest) := by
  have outside := not_mem_blanks separator visible before blankBefore
  have count : (front ++ before).count separator = front.count separator := by
    rw [List.count_append, List.count_eq_zero.mpr outside, Nat.add_zero]
  rw [trimmedParts_append_of_count separator cuts (front ++ before) _ (count ▸ early), count,
    trimmedParts_append_of_count separator cuts front rest early,
    trimmedParts_append_blanks separator visible cuts front before blankBefore,
    trimmedParts_blanks_append separator visible _ after rest blankAfter]

end

end CatalogNames.Text
