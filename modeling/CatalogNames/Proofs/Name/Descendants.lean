import CatalogNames.Proofs.Name.Order
import CatalogNames.Proofs.Name.Row

/-! The names within a catalog, a database or a table stand together in the order of names, and the one that
they lie within stands first. Between two names that agree down to some level all names agree with them, and
an absent level comes before every segment. -/

namespace CatalogNames.Name
open Text

/-- What lies between two names has their segments as far down as these agree. -/
theorem segment_eq_of_between (low middle high : Name) (lower : low ≤ middle) (upper : middle ≤ high)
    (level : Level) (agree : ∀ outer : Level, outer.depth ≤ level.depth →
      low.segment outer = high.segment outer) : middle.segment level = low.segment level := by
  induction depth : level.depth using Nat.strong_induction_on generalizing level with
  | _ depth ih =>
    subst depth
    have above : ∀ outer : Level, outer.depth < level.depth →
        middle.segment outer = low.segment outer := by
      intro outer higher
      exact ih outer.depth higher outer (fun next within => agree next (within.trans higher.le)) rfl
    have notBelow : ¬middle.segment level < low.segment level := by
      intro below
      apply lower.not_gt
      exact (lt_iff_precedes middle low).mpr ⟨level, above, (points_lt_iff _ _).mpr below⟩
    have notAbove : ¬low.segment level < middle.segment level := by
      intro below
      rw [agree level le_rfl] at below
      apply upper.not_gt
      refine (lt_iff_precedes high middle).mpr ⟨level, ?_, (points_lt_iff _ _).mpr below⟩
      intro outer higher
      rw [above outer higher, agree outer higher.le]
    exact List.le_antisymm (List.not_lt.mp notAbove) (List.not_lt.mp notBelow)

theorem Within.segment_eq {name root : Name} (within : name.Within root) (level : Level)
    (segment : Text) (stored : root.get? level = some segment) : name.segment level = segment := by
  rw [Name.segment, within level segment stored, Option.getD_some]

/-- Nothing within a name comes before it: it has the same segments, and more of them. -/
theorem Within.le {name root : Name} (within : name.Within root) : root ≤ name := by
  intro below
  obtain ⟨level, -, before⟩ := (lt_iff_precedes name root).mp below
  rw [points_lt_iff] at before
  cases stored : root.get? level with
  | none => simp [segment, stored] at before
  | some text =>
      rw [within.segment_eq level text stored, segment, stored, Option.getD_some] at before
      exact List.lt_irrefl text before

section
variable {root : Name} (formed : root.WellFormed) (outer : root.Outer)
include formed outer

/-- The levels of the name go down to some depth without a gap. -/
theorem WellFormed.exists_reach : ∃ reach, ∀ level : Level, root.has level ↔ level.depth < reach := by
  obtain ⟨partition, view⟩ := outer
  rcases formed.row_cases (by simp [view]) with ⟨c, rfl⟩ | ⟨c, d, rfl⟩ | ⟨c, d, t, p, v, rfl⟩
  · refine ⟨1, fun level => ?_⟩
    cases level <;> simp [has, get?, Level.depth]
  · refine ⟨2, fun level => ?_⟩
    cases level <;> simp [has, get?, Level.depth]
  · simp only at partition view
    subst partition view
    refine ⟨3, fun level => ?_⟩
    cases level <;> simp [has, get?, Level.depth]

theorem WellFormed.within_of_between {low middle high : Name} (lower : low ≤ middle)
    (upper : middle ≤ high) (lowWithin : low.Within root) (highWithin : high.Within root) :
    middle.Within root := by
  obtain ⟨reach, present⟩ := formed.exists_reach outer
  intro level text stored
  have deep : level.depth < reach := (present level).mp (by simp [has, stored])
  have agree : ∀ outer : Level, outer.depth ≤ level.depth →
      low.segment outer = high.segment outer := by
    intro above higher
    obtain ⟨other, held⟩ :=
      Option.isSome_iff_exists.mp ((present above).mpr (Nat.lt_of_le_of_lt higher deep))
    rw [lowWithin.segment_eq above other held, highWithin.segment_eq above other held]
  have same : middle.segment level = text := by
    rw [segment_eq_of_between low middle high lower upper level agree,
      lowWithin.segment_eq level text stored]
  cases given : middle.get? level with
  | none =>
      rw [segment, given, Option.getD_none] at same
      exact absurd same.symm (formed.stores level text stored).1
  | some other => simpa [segment, given] using same

end

/-- In an ascending list what a convex property holds of stands together. -/
theorem exists_run (inside : Name → Prop)
    (convex : ∀ low middle high : Name, low ≤ middle → middle ≤ high → inside low → inside high →
      inside middle) (names : List Name) (ascending : names.Pairwise (· ≤ ·)) :
    ∃ before run after, names = before ++ run ++ after ∧ (∀ name ∈ run, inside name) ∧
      ∀ name ∈ before ++ after, ¬inside name := by
  induction names with
  | nil => exact ⟨[], [], [], rfl, by simp, by simp⟩
  | cons first rest ih =>
      obtain ⟨above, ascending⟩ := List.pairwise_cons.mp ascending
      obtain ⟨before, run, after, rfl, within, outside⟩ := ih ascending
      by_cases here : inside first
      · cases run with
        | nil => exact ⟨[], [first], before ++ after, by simp, by simpa using here, by simpa using outside⟩
        | cons next run =>
            -- What stands between the first name and the run would belong to it.
            have none : before = [] := by
              rw [List.eq_nil_iff_forall_not_mem]
              intro name found
              have upper : name ≤ next := by
                rw [List.append_assoc, List.pairwise_append] at ascending
                exact ascending.2.2 name found next (by simp)
              exact outside name (by simp [found]) (convex first name next (above name (by simp [found]))
                upper here (within next (by simp)))
            subst none
            exact ⟨[], first :: next :: run, after, rfl, by simpa [here] using within, outside⟩
      · exact ⟨first :: before, run, after, rfl, within, by simpa [here] using outside⟩

/-- The names within the root are an interval of the order that starts with it, so in an ascending list
they stand together, the root before all others. -/
structure Contiguous (root : Name) : Prop where
  convex : ∀ low middle high : Name, low ≤ middle → middle ≤ high → low.Within root →
    high.Within root → middle.Within root
  least : ∀ name, Constructed name → name.Within root → root ≤ name ∧ (name ≤ root → name = root)
  together : ∀ names : List Name, (∀ name ∈ names, Constructed name) → names.Pairwise (· ≤ ·) →
    ∃ before run after, names = before ++ run ++ after ∧ (∀ name ∈ run, name.Within root) ∧
      (∀ name ∈ before ++ after, ¬name.Within root) ∧
      run.Pairwise fun earlier later => later = root → earlier = root

theorem contiguous_of_outer (root : Name) (rootMade : Constructed root) (outer : root.Outer) :
    root.Contiguous := by
  have formed := rootMade.wellFormed
  have convex : ∀ low middle high : Name, low ≤ middle → middle ≤ high → low.Within root →
      high.Within root → middle.Within root :=
    fun _ _ _ lower upper => formed.within_of_between outer lower upper
  have least : ∀ name, Constructed name → name.Within root → name ≤ root → name = root :=
    fun name made within above => made.wellFormed.eq_of_le formed above within.le
  refine ⟨convex, fun name made within => ⟨within.le, least name made within⟩, ?_⟩
  intro names made ascending
  obtain ⟨before, run, after, rfl, within, outside⟩ :=
    exists_run (Within · root) convex names ascending
  refine ⟨before, run, after, rfl, within, outside, ?_⟩
  have risen : run.Pairwise (· ≤ ·) :=
    (List.pairwise_append.mp (List.pairwise_append.mp ascending).1).2.1
  refine risen.imp_of_mem ?_
  intro earlier later found _ below same
  exact least earlier (made earlier (by simp [found])) (within earlier found) (same ▸ below)

/-- The text of the sibling comes between that of the database and those of the names below it. -/
theorem contiguous_at_database :
    let root : Name := ⟨['c'], some ['d'], none, none, none⟩
    let table : Name := ⟨['c'], some ['d'], some ['t'], none, none⟩
    let view : Name := ⟨['c'], some ['d'], some ['t'], none, some ['v']⟩
    let sibling : Name := ⟨['c'], some ['d', '!'], some ['t'], none, none⟩
    let names := [root, table, view, sibling]
    Constructed root ∧ root.Outer ∧ (∀ name ∈ names, Constructed name) ∧
      names.Pairwise (· ≤ ·) ∧ root.Contiguous := by
  intro root table view sibling names
  have rootMade : Constructed root := .composed (.ofDatabase ['c'] ['d'] rfl)
  have made : ∀ name ∈ names, Constructed name := by
    simp only [names, List.mem_cons, List.not_mem_nil, or_false]
    rintro name (rfl | rfl | rfl | rfl)
    · exact rootMade
    · exact .composed (.ofTable ['c'] ['d'] ['t'] rfl)
    · exact .composed (.ofView ['c'] ['d'] ['t'] ['v'] rfl)
    · exact .composed (.parse "C/D!/t".toList .heuristic rfl)
  exact ⟨rootMade, ⟨rfl, rfl⟩, made, by decide, contiguous_of_outer root rootMade ⟨rfl, rfl⟩⟩

end CatalogNames.Name
