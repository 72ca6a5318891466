import CatalogNames.Proofs.Name.Row

/-! Which names have the same text. Where no level is missing above another one, the place of a segment in
the text tells its level, as long as it is an outer one. Below the table stands one segment, and whether
it is a partition or a view the text does not tell. -/

namespace CatalogNames.Name
open Text

/-- The segment below the table, which is a partition or a view. -/
def last? (name : Name) : Option Text := name.partition.or name.view

/-- The text shows where each segment of the name ends: no outer segment holds a delimiter, a view has
its table, and no partition stands before it. -/
structure Legible (name : Name) : Prop where
  uncut : ∀ level ∈ [Level.catalog, .database, .table], ∀ segment,
    name.get? level = some segment → delimiter ∉ segment
  below : name.view.isSome → name.table.isSome
  single : name.partition = none ∨ name.view = none

namespace Legible

variable {name : Name} (legible : name.Legible)
include legible

theorem reduceOption_last : [name.partition, name.view].reduceOption = name.last?.toList := by
  rcases legible.single with absent | absent
  · cases view : name.view <;> simp [last?, absent, view, List.reduceOption]
  · cases partition : name.partition <;> simp [last?, absent, partition, List.reduceOption]

theorem present_eq : name.present =
    [some name.catalog, name.database, name.table].reduceOption ++ name.last?.toList := by
  rw [← legible.reduceOption_last, ← List.reduceOption_append, present_eq_reduceOption]
  rfl

theorem segments_text (formed : name.WellFormed) : segments name.text = name.present :=
  Name.segments_text name formed (formed.unbroken legible.single legible.below) legible.uncut

end Legible

/-- Two names whose segments end where their texts show it have the same text exactly if they have the
same catalog, database and table and the same segment below the table. -/
theorem text_eq_iff (first second : Name) (firstMade : Constructed first)
    (secondMade : Constructed second) (firstLegible : first.Legible) (secondLegible : second.Legible) :
    first.text = second.text ↔ first.catalog = second.catalog ∧ first.database = second.database ∧
      first.table = second.table ∧ first.last? = second.last? := by
  have firstFormed := firstMade.wellFormed
  have secondFormed := secondMade.wellFormed
  constructor
  · intro same
    -- Each text is cut again where it was joined, so equal texts have equal rows.
    have rows : first.present = second.present := by
      rw [← firstLegible.segments_text firstFormed, same, secondLegible.segments_text secondFormed]
    have outer : ∀ level : Level, level.depth < 3 → first.get? level = second.get? level := by
      intro level above
      rw [← firstFormed.getElem?_present firstLegible.below level above, rows,
        secondFormed.getElem?_present secondLegible.below level above]
    have lasts : first.last?.toList = second.last?.toList := by
      rw [← firstLegible.reduceOption_last, ← secondLegible.reduceOption_last,
        ← firstFormed.drop_present firstLegible.below, rows,
        secondFormed.drop_present secondLegible.below]
    have last : first.last? = second.last? := by
      simpa only [Option.head?_toList] using congrArg List.head? lasts
    exact ⟨Option.some.inj (outer .catalog (by decide)), outer .database (by decide),
      outer .table (by decide), last⟩
  · intro agree
    obtain ⟨catalog, database, table, last⟩ := agree
    change join delimiter first.present = join delimiter second.present
    rw [firstLegible.present_eq, secondLegible.present_eq, catalog, database, table, last]

/-- A partition and a view that are told apart only by their levels. -/
theorem text_eq_iff_at_partition_and_view :
    let partition : Name := ⟨['c'], some ['d'], some ['t'], some ['a', '=', '/'], none⟩
    let view : Name := ⟨['c'], some ['d'], some ['t'], none, some ['a', '=', '/']⟩
    Constructed partition ∧ Constructed view ∧ partition.Legible ∧ view.Legible ∧
      (partition.text = view.text ↔ partition.catalog = view.catalog ∧
        partition.database = view.database ∧ partition.table = view.table ∧
        partition.last? = view.last?) := by
  have partitionMade : Constructed ⟨['c'], some ['d'], some ['t'], some ['a', '=', '/'], none⟩ :=
    .composed (.parse "c/d/t/a=/".toList .heuristic rfl)
  have viewMade : Constructed ⟨['c'], some ['d'], some ['t'], none, some ['a', '=', '/']⟩ :=
    .composed (.parse "c/d/t/a=/".toList .preferView rfl)
  have partitionLegible : Legible ⟨['c'], some ['d'], some ['t'], some ['a', '=', '/'], none⟩ := {
    uncut := by simp [get?, delimiter]
    below := by decide
    single := .inr rfl }
  have viewLegible : Legible ⟨['c'], some ['d'], some ['t'], none, some ['a', '=', '/']⟩ := {
    uncut := by simp [get?, delimiter]
    below := by decide
    single := .inl rfl }
  exact ⟨partitionMade, viewMade, partitionLegible, viewLegible,
    text_eq_iff _ _ partitionMade viewMade partitionLegible viewLegible⟩

end CatalogNames.Name
