import CatalogNames.Proofs.Text.Trim
import CatalogNames.Text.Split

/-! A bounded cut takes apart what joining puts together, as long as only the last part holds further
separators and no part is left over. It is the unbounded cut with the last parts joined again. Joining
keeps the ends of its first and last part. Folding changes nothing about where a text is cut. -/

namespace CatalogNames.Text

theorem join_singleton (separator : Char) (part : Text) : join separator [part] = part :=
  List.intercalate_singleton

theorem join_cons (separator : Char) (part : Text) (parts : List Text) (more : parts ≠ []) :
    join separator (part :: parts) = part ++ separator :: join separator parts := by
  unfold join
  rw [List.intercalate_cons_of_ne_nil more]
  simp

/-- A text of so many parts has one separator less than parts. -/
theorem length_join (separator : Char) (parts : List Text) (nonempty : parts ≠ []) :
    (join separator parts).length + 1 = (parts.map List.length).sum + parts.length := by
  induction parts with
  | nil => contradiction
  | cons part parts ih =>
      by_cases last : parts = []
      · simp [last, join_singleton]
      · have rest := ih last
        rw [join_cons separator part parts last]
        simp only [List.length_append, List.length_cons, List.map_cons, List.sum_cons]
        omega

/-- The characters of a joined text are those of its parts and, between two of them, the separator. -/
theorem mem_join_iff (separator : Char) (parts : List Text) (char : Char) :
    char ∈ join separator parts ↔
      (∃ part ∈ parts, char ∈ part) ∨ (char = separator ∧ 1 < parts.length) := by
  induction parts with
  | nil => simp [join]
  | cons part parts ih =>
      by_cases last : parts = []
      · simp [last, join_singleton]
      · have several : 0 < parts.length := List.length_pos_iff.mpr last
        rw [join_cons separator part parts last, List.mem_append, List.mem_cons, ih]
        simp only [List.mem_cons, exists_eq_or_imp, List.length_cons]
        grind

theorem cut?_eq_none_iff (separator : Char) (text : Text) :
    cut? separator text = none ↔ separator ∉ text := by
  induction text with
  | nil => simp [cut?]
  | cons head rest ih =>
      by_cases same : head = separator
      · simp [cut?, same]
      · simp [cut?, same, ih, Ne.symm same]

theorem cut?_append (separator : Char) (before after : Text) (absent : separator ∉ before) :
    cut? separator (before ++ separator :: after) = some (before, after) := by
  induction before with
  | nil => simp [cut?]
  | cons head rest ih =>
      simp only [List.mem_cons, not_or] at absent
      simp [cut?, Ne.symm absent.1, ih absent.2]

theorem splitAtMost_of_not_mem (separator : Char) (cuts : Nat) (text : Text)
    (absent : separator ∉ text) : splitAtMost separator cuts text = [text] := by
  cases cuts with
  | zero => rfl
  | succ cuts => simp only [splitAtMost, (cut?_eq_none_iff separator text).mpr absent]

theorem splitAtMost_append (separator : Char) (cuts : Nat) (before after : Text)
    (absent : separator ∉ before) : splitAtMost separator (cuts + 1) (before ++ separator :: after) =
      before :: splitAtMost separator cuts after := by
  simp only [splitAtMost, cut?_append separator before after absent]

/-- The parts of a joined text are found again when none of them is cut and none is left over. -/
theorem splitAtMost_join (separator : Char) (cuts : Nat) (parts : List Text) (nonempty : parts ≠ [])
    (few : parts.length ≤ cuts + 1) (whole : ∀ part ∈ parts.take cuts, separator ∉ part) :
    splitAtMost separator cuts (join separator parts) = parts := by
  induction cuts generalizing parts with
  | zero =>
      obtain ⟨part, rfl⟩ := List.length_eq_one_iff.mp
        (Nat.le_antisymm few (List.length_pos_iff.mpr nonempty))
      simp [splitAtMost, join_singleton]
  | succ cuts ih =>
      obtain ⟨part, parts, rfl⟩ := List.exists_cons_of_ne_nil nonempty
      simp only [List.take_succ_cons, List.mem_cons, forall_eq_or_imp] at whole
      by_cases last : parts = []
      · rw [last, join_singleton, splitAtMost_of_not_mem separator (cuts + 1) part whole.1]
      · rw [join_cons separator part parts last, splitAtMost_append separator cuts _ _ whole.1]
        rw [ih parts last (by simpa using few) whole.2]

/-- A separator that is cut at parts the cuts before it from those behind it. -/
theorem splitAtMost_append_of_count (separator : Char) (cuts : Nat) (before after : Text)
    (early : before.count separator < cuts) :
    splitAtMost separator cuts (before ++ separator :: after) =
      splitAtMost separator cuts before ++
        splitAtMost separator (cuts - before.count separator - 1) after := by
  induction cuts generalizing before with
  | zero => contradiction
  | succ cuts ih =>
      cases found : cut? separator before with
      | none =>
          have absent := (cut?_eq_none_iff separator before).mp found
          rw [splitAtMost_append separator cuts before after absent,
            splitAtMost_of_not_mem separator (cuts + 1) before absent, List.count_eq_zero.mpr absent]
          rfl
      | some parts =>
          obtain ⟨first, rest⟩ := parts
          obtain ⟨rfl, absent⟩ := cut?_eq_some found
          have count : (first ++ separator :: rest).count separator = rest.count separator + 1 := by
            rw [List.count_append, List.count_eq_zero.mpr absent, List.count_cons_self, Nat.zero_add]
          rw [count] at early ⊢
          rw [List.append_assoc, List.cons_append,
            splitAtMost_append separator cuts first _ absent,
            splitAtMost_append separator cuts first rest absent, ih rest (by omega),
            List.cons_append]
          congr 3
          omega

/-- The first parts as they are, and those after them joined into one. -/
def joinRest (separator : Char) : Nat → List Text → List Text
  | _, [] => []
  | 0, part :: parts => [join separator (part :: parts)]
  | cuts + 1, part :: parts => part :: joinRest separator cuts parts

theorem splitOn_append (separator : Char) (before after : Text) (absent : separator ∉ before) :
    (before ++ separator :: after).splitOn separator = before :: after.splitOn separator := by
  apply List.splitOnP_append_cons_of_forall_mem
  · intro char found
    exact beq_eq_false_iff_ne.mpr fun same => absent (same ▸ found)
  · exact beq_self_eq_true separator

/-- A bounded cut is the unbounded one with all parts after the last cut joined again. -/
theorem splitAtMost_eq_joinRest (separator : Char) (cuts : Nat) (text : Text) :
    splitAtMost separator cuts text = joinRest separator cuts (text.splitOn separator) := by
  induction cuts generalizing text with
  | zero =>
      obtain ⟨part, parts, cut⟩ := List.exists_cons_of_ne_nil (List.splitOn_ne_nil separator text)
      have whole : join separator (text.splitOn separator) = text :=
        List.intercalate_splitOn separator
      rw [splitAtMost, cut, joinRest, ← cut, whole]
  | succ cuts ih =>
      cases found : cut? separator text with
      | none =>
          have absent := (cut?_eq_none_iff separator text).mp found
          rw [splitAtMost_of_not_mem separator (cuts + 1) text absent,
            List.splitOn_eq_singleton absent, joinRest, joinRest]
      | some parts =>
          obtain ⟨before, after⟩ := parts
          obtain ⟨rfl, absent⟩ := cut?_eq_some found
          rw [splitAtMost_append separator cuts before after absent,
            splitOn_append separator before after absent, ih after]
          rfl

/-- A text has one part more than it has separators, unless there are more of them than cuts. -/
theorem length_splitAtMost (separator : Char) (cuts : Nat) (text : Text) :
    (splitAtMost separator cuts text).length = min (text.count separator) cuts + 1 := by
  induction cuts generalizing text with
  | zero => simp [splitAtMost]
  | succ cuts ih =>
      cases found : cut? separator text with
      | none =>
          have absent := (cut?_eq_none_iff separator text).mp found
          rw [splitAtMost_of_not_mem separator (cuts + 1) text absent, List.count_eq_zero.mpr absent]
          simp
      | some parts =>
          obtain ⟨before, after⟩ := parts
          obtain ⟨rfl, absent⟩ := cut?_eq_some found
          rw [splitAtMost_append separator cuts before after absent, List.length_cons, ih,
            List.count_append, List.count_eq_zero.mpr absent, List.count_cons_self]
          omega

theorem length_splitAtMost_le (separator : Char) (cuts : Nat) (text : Text) :
    (splitAtMost separator cuts text).length ≤ cuts + 1 := by
  rw [length_splitAtMost]
  omega

/-- A part before the last possible cut holds no separator. -/
theorem not_mem_of_mem_take_splitAtMost (separator : Char) (cuts : Nat) (text part : Text)
    (early : part ∈ (splitAtMost separator cuts text).take cuts) : separator ∉ part := by
  induction cuts generalizing text with
  | zero => simp at early
  | succ cuts ih =>
      cases found : cut? separator text with
      | none =>
          simp only [splitAtMost, found, List.take_succ_cons, List.take_nil,
            List.mem_singleton] at early
          exact early ▸ (cut?_eq_none_iff separator text).mp found
      | some parts =>
          simp only [splitAtMost, found, List.take_succ_cons, List.mem_cons] at early
          rcases early with first | later
          · exact first ▸ (cut?_eq_some found).2
          · exact ih parts.2 later

theorem join_ne_nil (separator : Char) (parts : List Text) (nonempty : parts ≠ [])
    (filled : ∀ part ∈ parts, part ≠ []) : join separator parts ≠ [] := by
  obtain ⟨part, parts, rfl⟩ := List.exists_cons_of_ne_nil nonempty
  by_cases last : parts = []
  · rw [last, join_singleton]
    exact filled part (by simp)
  · rw [join_cons separator part parts last]
    simp

/-- A separator that shows ends a text as well as a text that ends in no blank. -/
theorem getLast?_append_separator (separator : Char) (visible : isBlank separator = false)
    (before after : Text) (ends : ∀ char ∈ after.getLast?, isBlank char = false) :
    ∀ char ∈ (before ++ separator :: after).getLast?, isBlank char = false := by
  intro char last
  rw [List.getLast?_append_of_ne_nil _ (List.cons_ne_nil _ _)] at last
  by_cases empty : after = []
  · subst empty
    cases last
    exact visible
  · rw [List.getLast?_cons_of_ne_nil empty] at last
    exact ends char last

theorem trimmed_join (separator : Char) (parts : List Text) (nonempty : parts ≠ [])
    (filled : ∀ part ∈ parts, part ≠ []) (trimmed : ∀ part ∈ parts, Trimmed part) :
    Trimmed (join separator parts) := by
  induction parts with
  | nil => contradiction
  | cons part parts ih =>
      have first : part ≠ [] := filled part (by simp)
      by_cases last : parts = []
      · rw [last, join_singleton]
        exact trimmed part (by simp)
      · have rest := ih last (fun other found => filled other (List.mem_cons_of_mem part found))
          (fun other found => trimmed other (List.mem_cons_of_mem part found))
        have restFilled : join separator parts ≠ [] :=
          join_ne_nil separator parts last
            (fun other found => filled other (List.mem_cons_of_mem part found))
        rw [join_cons separator part parts last]
        constructor
        · intro char head
          apply (trimmed part (by simp)).1 char
          simpa [List.head?_append_of_ne_nil _ first] using head
        · intro char final
          apply rest.2 char
          rwa [List.getLast?_append_of_ne_nil _ (List.cons_ne_nil _ _),
            List.getLast?_cons_of_ne_nil restFilled] at final

theorem cut?_fold (separator : Char) (letterless : separator.isAlpha = false) (text : Text) :
    cut? separator (fold text) =
      (cut? separator text).map fun parts => (fold parts.1, fold parts.2) := by
  induction text with
  | nil => rfl
  | cons head rest ih =>
      change cut? separator (head.toLower :: fold rest) = _
      by_cases same : head = separator
      · rw [cut?, cut?, if_pos ((toLower_eq_iff head separator letterless).mpr same), if_pos same]
        rfl
      · rw [cut?, cut?, if_neg fun folded => same ((toLower_eq_iff head separator letterless).mp folded),
          if_neg same, ih, Option.map_map, Option.map_map]
        rfl

theorem splitAtMost_fold (separator : Char) (letterless : separator.isAlpha = false) (cuts : Nat)
    (text : Text) :
    splitAtMost separator cuts (fold text) = (splitAtMost separator cuts text).map fold := by
  induction cuts generalizing text with
  | zero => rfl
  | succ cuts ih =>
      rw [splitAtMost, splitAtMost, cut?_fold separator letterless text]
      cases cut? separator text with
      | none => rfl
      | some parts =>
          simp only [Option.map_some, List.map_cons, ih]

end CatalogNames.Text
