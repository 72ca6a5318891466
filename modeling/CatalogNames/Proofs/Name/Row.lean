import CatalogNames.Proofs.Name.Representation

/-! The segments of a name in a row. Where a view has its table, no level is missing above another one, so
the place of an outer segment tells its level. A name with outer levels only therefore has its whole row at
the start of another one exactly if that one has the same segment at each of its levels. -/

namespace CatalogNames

theorem Level.mem_of_depth_lt (level : Level) (outer : level.depth < 3) :
    level ∈ [Level.catalog, .database, .table] := by
  cases level with
  | partition => exact absurd outer (by decide)
  | view => exact absurd outer (by decide)
  | _ => decide

namespace Name

/-- The name has each level of the other one, with the same segment. -/
def Within (name parent : Name) : Prop :=
  ∀ level segment, parent.get? level = some segment → name.get? level = some segment

/-- The name ends with its catalog, its database or its table. -/
def Outer (name : Name) : Prop := name.partition = none ∧ name.view = none

theorem Outer.depth_lt {name : Name} (outer : name.Outer) (level : Level) (segment : Text)
    (stored : name.get? level = some segment) : level.depth < 3 := by
  cases level with
  | partition => simp [get?, outer.1] at stored
  | view => simp [get?, outer.2] at stored
  | _ => decide

section
variable {name : Name} (formed : name.WellFormed) (below : name.view.isSome → name.table.isSome)
include formed below

/-- The row ends with the catalog or with the database, or it reaches the table. -/
theorem WellFormed.row_cases : (∃ c, name = ⟨c, none, none, none, none⟩) ∨
    (∃ c d, name = ⟨c, some d, none, none, none⟩) ∨ ∃ c d t p v, name = ⟨c, some d, some t, p, v⟩ := by
  obtain ⟨table, partition⟩ := (orphan?_eq_none_iff name).mp formed.supported
  obtain ⟨c, d, t, p, v⟩ := name
  cases t with
  | some t =>
      obtain ⟨d, rfl⟩ := Option.isSome_iff_exists.mp (table rfl)
      exact .inr (.inr ⟨c, d, t, p, v, rfl⟩)
  | none =>
      obtain rfl : p = none := by simpa [has, get?] using partition
      obtain rfl : v = none := by simpa using below
      cases d with
      | none => exact .inl ⟨c, rfl⟩
      | some d => exact .inr (.inl ⟨c, d, rfl⟩)

/-- The outer segments stand in the places of their levels. -/
theorem WellFormed.getElem?_present (level : Level) (above : level.depth < 3) :
    name.present[level.depth]? = name.get? level := by
  rcases formed.row_cases below with ⟨c, rfl⟩ | ⟨c, d, rfl⟩ | ⟨c, d, t, p, v, rfl⟩
  all_goals
    cases level with
    | partition => exact absurd above (by decide)
    | view => exact absurd above (by decide)
    | _ => rfl

/-- What stands below the table comes after the three outer segments. -/
theorem WellFormed.drop_present :
    name.present.drop 3 = [name.partition, name.view].reduceOption := by
  rcases formed.row_cases below with ⟨c, rfl⟩ | ⟨c, d, rfl⟩ | ⟨c, d, t, p, v, rfl⟩
  · rfl
  · rfl
  · cases p <;> cases v <;> rfl

/-- The first three segments are those of outer levels. -/
theorem WellFormed.outer_of_mem_take (segment : Text) (early : segment ∈ name.present.take 3) :
    ∃ level ∈ [Level.catalog, .database, .table], name.get? level = some segment := by
  obtain ⟨index, found⟩ := List.mem_iff_getElem?.mp early
  have above : index < 3 := by
    have inside := (List.getElem?_eq_some_iff.mp found).1
    rw [List.length_take] at inside
    omega
  obtain ⟨level, rfl⟩ := Level.exists_depth index (by omega)
  rw [List.getElem?_take_of_lt above, formed.getElem?_present below level above] at found
  exact ⟨level, level.mem_of_depth_lt above, found⟩

end

/-- A name with a table has a database, and its text goes on with the table after two delimiters. -/
theorem WellFormed.text_of_table {name : Name} (formed : name.WellFormed) (table : Text)
    (stored : name.table = some table) : ∃ database rest, name.database = some database ∧
      name.text = name.catalog ++ delimiter :: (database ++ delimiter :: rest) ∧ table <+: rest := by
  rcases formed.row_cases (by simp [stored]) with ⟨c, rfl⟩ | ⟨c, d, rfl⟩ | ⟨c, d, t, p, v, rfl⟩
  · cases stored
  · cases stored
  · cases stored
    have row : present ⟨c, some d, some table, p, v⟩ = c :: d :: table :: [p, v].reduceOption := by
      cases p <;> cases v <;> rfl
    refine ⟨d, Text.join delimiter (table :: [p, v].reduceOption), rfl, ?_, ?_⟩
    · change Text.join delimiter (present _) = _
      rw [row, Text.join_cons _ _ _ (by simp), Text.join_cons _ _ _ (by simp)]
    · by_cases last : [p, v].reduceOption = []
      · rw [last, Text.join_singleton]
      · rw [Text.join_cons _ _ _ last]
        exact List.prefix_append table _

section
variable {parent : Name} (parentFormed : parent.WellFormed) (outer : parent.Outer)
include parentFormed outer

theorem WellFormed.length_present_le : parent.present.length ≤ 3 := by
  have nothing := parentFormed.drop_present (by simp [outer.2])
  rw [outer.1, outer.2] at nothing
  exact List.drop_eq_nil_iff.mp nothing

variable {name : Name} (formed : name.WellFormed) (below : name.view.isSome → name.table.isSome)
include formed below

theorem present_prefix_iff : parent.present <+: name.present ↔ name.Within parent := by
  have places := parentFormed.getElem?_present (by simp [outer.2])
  constructor
  · intro starts level segment stored
    have above := outer.depth_lt level segment stored
    have found : parent.present[level.depth]? = some segment := by rw [places level above, stored]
    obtain ⟨rest, whole⟩ := starts
    rw [← formed.getElem?_present below level above, ← whole,
      List.getElem?_append_left (List.getElem?_eq_some_iff.mp found).1, found]
  · intro within
    rw [List.prefix_iff_getElem?]
    intro index inside
    have above := Nat.lt_of_lt_of_le inside (parentFormed.length_present_le outer)
    obtain ⟨level, rfl⟩ := Level.exists_depth index (by omega)
    have stored : parent.get? level = some parent.present[level.depth] := by
      rw [← places level above, List.getElem?_eq_getElem inside]
    rw [formed.getElem?_present below level above, within level _ stored]

/-- A row without segments below the table belongs to one name only. -/
theorem eq_of_present_eq (same : name.present = parent.present) : name = parent := by
  have nothing : [name.partition, name.view].reduceOption = [] := by
    rw [← formed.drop_present below, same, List.drop_eq_nil_iff]
    exact parentFormed.length_present_le outer
  have absent : name.partition = none ∧ name.view = none := by
    simpa [List.reduceOption, List.filterMap_eq_nil_iff] using nothing
  apply eq_of_get?
  intro level
  by_cases above : level.depth < 3
  · rw [← formed.getElem?_present below level above, same,
      parentFormed.getElem?_present (by simp [outer.2]) level above]
  · cases level with
    | partition => simp [get?, absent.1, outer.1]
    | view => simp [get?, absent.2, outer.2]
    | _ => exact absurd (by decide) above

/-- More segments follow the row of an outer name exactly if the name lies within it and is another one. -/
theorem exists_present_append_iff :
    (∃ rest, rest ≠ [] ∧ name.present = parent.present ++ rest) ↔
      name.Within parent ∧ name ≠ parent := by
  rw [← present_prefix_iff parentFormed outer formed below]
  constructor
  · intro more
    obtain ⟨rest, filled, whole⟩ := more
    refine ⟨⟨rest, whole.symm⟩, ?_⟩
    intro same
    rw [same] at whole
    exact filled (List.self_eq_append_right.mp whole)
  · intro inner
    obtain ⟨⟨rest, whole⟩, differs⟩ := inner
    refine ⟨rest, ?_, whole.symm⟩
    intro empty
    rw [empty, List.append_nil] at whole
    exact differs (eq_of_present_eq parentFormed outer formed below whole.symm)

end

end Name

end CatalogNames
