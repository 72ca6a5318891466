import CatalogNames.Proofs.Text.Split

/-! The parts of a text between all its separators. To take the text apart at one of them is to take the
row of its parts apart, and what starts the text without reaching the first separator starts the first
part. Joined parts start another text of joined parts exactly if they are its first parts. -/

namespace CatalogNames.Text

theorem join_append (separator : Char) (first second : List Text) (left : first ≠ [])
    (right : second ≠ []) : join separator (first ++ second) =
      join separator first ++ separator :: join separator second := by
  induction first with
  | nil => contradiction
  | cons part parts ih =>
      by_cases last : parts = []
      · rw [last, List.singleton_append, join_cons separator part second right, join_singleton]
      · rw [List.cons_append, join_cons separator part _ (List.append_ne_nil_of_left_ne_nil last second),
          ih last, join_cons separator part parts last, List.append_assoc, List.cons_append]

theorem not_mem_of_mem_splitOn (separator : Char) (text part : Text)
    (found : part ∈ text.splitOn separator) : separator ∉ part := by
  induction text generalizing part with
  | nil =>
      rw [List.splitOn_nil, List.mem_singleton] at found
      simp [found]
  | cons head rest ih =>
      obtain ⟨first, parts, cut⟩ := List.exists_cons_of_ne_nil (List.splitOn_ne_nil separator rest)
      rw [List.splitOn_cons_eq_if_modifyHead, cut, List.modifyHead_cons] at found
      rw [cut] at ih
      split at found
      next =>
        rcases List.mem_cons.mp found with same | inner
        · simp [same]
        · exact ih part inner
      next differs =>
        rcases List.mem_cons.mp found with same | inner
        · have absent := ih first List.mem_cons_self
          have visible : separator ≠ head := fun equal => differs (by simp [equal])
          simp [same, absent, visible]
        · exact ih part (List.mem_cons_of_mem first inner)

theorem splitOn_join (separator : Char) (parts : List Text) (nonempty : parts ≠ [])
    (whole : ∀ part ∈ parts, separator ∉ part) : (join separator parts).splitOn separator = parts :=
  List.splitOn_intercalate separator whole nonempty

/-- To take a text apart at a separator is to take its parts apart between two of them. -/
theorem exists_cut_iff (separator : Char) (text : Text) (holds : List Text → List Text → Prop) :
    (∃ before after, text = before ++ separator :: after ∧
      holds (before.splitOn separator) (after.splitOn separator)) ↔
    ∃ index, index + 1 < (text.splitOn separator).length ∧
      holds ((text.splitOn separator).take (index + 1)) ((text.splitOn separator).drop (index + 1)) := by
  constructor
  · intro cut
    obtain ⟨before, after, rfl, held⟩ := cut
    -- The text is cut behind the last part of what comes before.
    have left := List.length_pos_iff.mpr (List.splitOn_ne_nil separator before)
    have right := List.length_pos_iff.mpr (List.splitOn_ne_nil separator after)
    have last : (before.splitOn separator).length - 1 + 1 = (before.splitOn separator).length := by
      omega
    refine ⟨(before.splitOn separator).length - 1, ?_⟩
    rw [List.splitOn_append_cons_self, last, List.take_left, List.drop_left, List.length_append]
    exact ⟨by omega, held⟩
  · intro between
    obtain ⟨index, inside, held⟩ := between
    have whole := not_mem_of_mem_splitOn separator text
    have left : (text.splitOn separator).take (index + 1) ≠ [] := by simp
    have right : (text.splitOn separator).drop (index + 1) ≠ [] := by simpa using inside
    refine ⟨join separator ((text.splitOn separator).take (index + 1)),
      join separator ((text.splitOn separator).drop (index + 1)), ?_, ?_⟩
    · rw [← join_append separator _ _ left right, List.take_append_drop]
      exact (List.intercalate_splitOn separator).symm
    · rw [splitOn_join separator _ left fun part found => whole part (List.mem_of_mem_take found),
        splitOn_join separator _ right fun part found => whole part (List.mem_of_mem_drop found)]
      exact held

/-- A text without separators is its only part. -/
theorem splitOn_eq_singleton_iff (separator : Char) (text part : Text) (absent : separator ∉ part) :
    text.splitOn separator = [part] ↔ text = part := by
  constructor
  · intro only
    have whole : join separator (text.splitOn separator) = text := List.intercalate_splitOn separator
    rw [← whole, only, join_singleton]
  · intro same
    rw [same, List.splitOn_eq_singleton absent]

/-- What holds no separator ends before the first one. -/
theorem prefix_of_prefix_append (separator : Char) (start before after : Text)
    (absent : separator ∉ start) (starts : start <+: before ++ separator :: after) :
    start <+: before := by
  have marked : before ++ [separator] <+: before ++ separator :: after :=
    (List.prefix_append_right_inj before).mpr (List.prefix_append [separator] after)
  rcases List.prefix_or_prefix_of_prefix starts marked with short | long
  · rcases List.prefix_concat_iff.mp short with whole | inner
    · exact absurd (by simp [whole]) absent
    · exact inner
  · exact absurd (long.subset (by simp)) absent

theorem prefix_iff_head_splitOn (separator : Char) (start text : Text) (absent : separator ∉ start) :
    start <+: text ↔ ∃ part, (text.splitOn separator).head? = some part ∧ start <+: part := by
  cases found : cut? separator text with
  | none =>
      rw [List.splitOn_eq_singleton ((cut?_eq_none_iff separator text).mp found)]
      simp
  | some parts =>
      obtain ⟨before, after⟩ := parts
      obtain ⟨rfl, uncut⟩ := cut?_eq_some found
      rw [List.splitOn_append_cons_self_of_not_mem uncut, List.head?_cons]
      simp only [Option.some.injEq, exists_eq_left']
      constructor
      · exact prefix_of_prefix_append separator start before after absent
      · intro starts
        exact starts.trans (List.prefix_append before _)

/-- Texts with a separator start alike up to it exactly if they are the same up to it. -/
theorem append_separator_prefix_iff (separator : Char) (first second before after : Text)
    (uncutFirst : separator ∉ first) (uncutSecond : separator ∉ second) :
    first ++ separator :: before <+: second ++ separator :: after ↔
      first = second ∧ before <+: after := by
  constructor
  · intro starts
    obtain ⟨more, same⟩ := starts
    rw [List.append_assoc, List.cons_append] at same
    have cuts := congrArg (cut? separator) same
    rw [cut?_append separator first _ uncutFirst, cut?_append separator second _ uncutSecond,
      Option.some.injEq, Prod.mk.injEq] at cuts
    exact ⟨cuts.1, more, cuts.2⟩
  · intro agree
    obtain ⟨rfl, starts⟩ := agree
    exact (List.prefix_append_right_inj first).mpr ((List.prefix_cons_inj separator).mpr starts)

/-- Joined parts with a separator behind them start a joined text exactly if more parts follow the same
ones there. -/
theorem join_prefix_iff (separator : Char) (parts others : List Text) (filled : parts ≠ [])
    (uncut : ∀ part ∈ parts, separator ∉ part)
    (uncutOthers : ∀ part ∈ others.take parts.length, separator ∉ part) :
    join separator parts ++ [separator] <+: join separator others ↔
      ∃ rest, rest ≠ [] ∧ others = parts ++ rest := by
  induction parts generalizing others with
  | nil => contradiction
  | cons part parts ih =>
      have uncutPart : separator ∉ part := uncut part List.mem_cons_self
      cases others with
      | nil => simp [join]
      | cons other others =>
          have uncutOther : separator ∉ other := uncutOthers other (by simp)
          by_cases alone : others = []
          · subst alone
            -- A single part holds no separator, so nothing with one in it starts it.
            have absent : ¬join separator (part :: parts) ++ [separator] <+: other :=
              fun starts => uncutOther (starts.subset (by simp))
            simp [join_singleton, absent, eq_comm]
          · rw [join_cons separator other others alone]
            by_cases last : parts = []
            · subst last
              rw [join_singleton,
                append_separator_prefix_iff separator part other [] _ uncutPart uncutOther]
              simp [alone, eq_comm]
            · have later := ih others last
                (fun part found => uncut part (List.mem_cons_of_mem _ found))
                (fun part found => uncutOthers part (List.mem_cons_of_mem _ found))
              rw [join_cons separator part parts last, List.append_assoc, List.cons_append,
                append_separator_prefix_iff separator part other _ _ uncutPart uncutOther, later]
              simp [eq_comm, and_left_comm]

end CatalogNames.Text
