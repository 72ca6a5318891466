import CatalogNames.Proofs.Name.Checks
import CatalogNames.Proofs.Name.Construction

/-! Placing a described partition in a table. The segments come from two names, so each is stored as it is
and none is blank: which rule of the checks is broken depends only on the levels that the table's name has.
Its own partition and its view are left behind, and of the descriptor only the partition is taken. -/

namespace CatalogNames

open Text

theorem Level.Stores.not_blank {level : Level} {text : Text} (stores : level.Stores text) :
    blank (some text) = false := by
  rw [Bool.eq_false_iff, ne_eq, blank_some_iff, ← level.normalize_eq_nil_iff, stores.2]
  exact stores.1

namespace Name

theorem WellFormed.blank_getD {name : Name} (formed : name.WellFormed) (level : Level) :
    blank (some ((name.get? level).getD [])) = (name.get? level).isNone := by
  cases stored : name.get? level with
  | none => rfl
  | some segment => exact (formed.stores level segment stored).not_blank

/-- The levels of a table's name with a partition below them. -/
def withPartition (table : Name) (partition : Text) : Name :=
  { table with partition := some partition, view := none }

/-- The segments for a partition in a table, as they are taken from the table's name. -/
def partitionDraft (table : Name) (partition : Text) : Draft := {
  catalog := table.catalog
  database := some (table.database.getD [])
  table := some (table.table.getD [])
  partition := some partition }

theorem WellFormed.stored_partitionDraft {table : Name} (formed : table.WellFormed) {partition : Text}
    (stores : Level.partition.Stores partition) :
    (table.partitionDraft partition).stored = table.withPartition partition := by
  have catalog := (formed.stores .catalog table.catalog rfl).2
  have database := Level.database.stored?_getD table.database (formed.stores .database)
  have inner := Level.table.stored?_getD table.table (formed.stores .table)
  simp only [Draft.stored, partitionDraft, withPartition, catalog, database, inner, stores.stored?,
    Level.stored?_none]

/-- A partition needs the database and the table of the name that it is put in, and asks for the database
first. -/
theorem WellFormed.check_partitionDraft {table : Name} (formed : table.WellFormed) {partition : Text}
    (stores : Level.partition.Stores partition) :
    (table.partitionDraft partition).check =
      if table.database = none then .error (.orphan .database .partition)
      else if table.table = none then .error (.orphan .table .partition)
      else .ok (table.withPartition partition) := by
  have catalog : blank (some table.catalog) = false := formed.blank_getD .catalog
  have database : blank (some (table.database.getD [])) = table.database.isNone :=
    formed.blank_getD .database
  have inner : blank (some (table.table.getD [])) = table.table.isNone := formed.blank_getD .table
  -- Without a database there is no table, so it is never the table that lacks the database.
  have supported := ((orphan?_eq_none_iff table).mp formed.supported).1
  rw [Draft.check_eq, formed.stored_partitionDraft stores]
  simp only [partitionDraft, Draft.get?, catalog, database, inner, stores.not_blank]
  cases above : table.database with
  | none =>
      have absent : table.table = none := by simpa [has, get?, above] using supported
      simp [absent]
  | some segment =>
      cases table.table with
      | none => simp
      | some segment => simp

end Name

namespace Descriptor
open Name

theorem placeIn_of_absent (descriptor : Descriptor) (table : Name)
    (absent : descriptor.name.partition = none) :
    descriptor.placeIn table = .error (.undefined .partition) := by
  have required : descriptor.name.require .partition = .error (.undefined .partition) := by
    simp only [Name.require, get?, absent]
  rw [placeIn, required]
  rfl

theorem placeIn_of_present (descriptor : Descriptor) (table : Name) (partition : Text)
    (present : descriptor.name.partition = some partition) :
    descriptor.placeIn table = (table.partitionDraft partition).check := by
  have required : descriptor.name.require .partition = .ok partition := by
    simp only [Name.require, get?, present]
  rw [placeIn, required]
  rfl

/-- A placed name has the outer levels of the table and the partition of the descriptor already. -/
theorem placeIn_placed (descriptor : Descriptor) (table placed : Name)
    (described : descriptor.name.WellFormed) (formed : table.WellFormed)
    (made : descriptor.placeIn table = .ok placed) : descriptor.placeIn placed = .ok placed := by
  have placedFormed := (Composed.placeIn descriptor table made).wellFormed
  cases held : descriptor.name.partition with
  | none =>
      rw [descriptor.placeIn_of_absent table held] at made
      contradiction
  | some partition =>
      have stores := described.stores .partition partition held
      rw [descriptor.placeIn_of_present table partition held, formed.check_partitionDraft stores] at made
      split_ifs at made with database inner
      cases made
      rw [descriptor.placeIn_of_present _ partition held, placedFormed.check_partitionDraft stores,
        if_neg (show (table.withPartition partition).database ≠ none from database),
        if_neg (show (table.withPartition partition).table ≠ none from inner)]
      rfl

/-- Placing fails for a descriptor without a partition, whatever the table, and then for a table's name
without a database or without a table. Otherwise it gives the outer levels of that name with the partition as
it is, and placing again changes nothing. What the descriptor says besides its name does not matter. -/
theorem placeIn_by_levels (descriptor : Descriptor) (table : Name)
    (described : Constructed descriptor.name) (constructed : Constructed table) :
    (descriptor.name.partition = none →
      descriptor.placeIn table = .error (.undefined .partition)) ∧
    (∀ partition, descriptor.name.partition = some partition → descriptor.placeIn table =
      if table.database = none then .error (.orphan .database .partition)
      else if table.table = none then .error (.orphan .table .partition)
      else .ok { table with partition := some partition, view := none }) ∧
    (∀ placed, descriptor.placeIn table = .ok placed → descriptor.placeIn placed = .ok placed) ∧
    ∀ other : Descriptor, other.name = descriptor.name →
      other.placeIn table = descriptor.placeIn table := by
  have formed := constructed.wellFormed
  refine ⟨descriptor.placeIn_of_absent table, ?_, ?_, ?_⟩
  · intro partition present
    rw [descriptor.placeIn_of_present table partition present]
    exact formed.check_partitionDraft (described.wellFormed.stores .partition partition present)
  · intro placed made
    exact descriptor.placeIn_placed table placed described.wellFormed formed made
  · intro other same
    rw [placeIn, placeIn, same]

/-- The table is given by the name of one of its partitions with a view, and neither of the two is kept. -/
theorem placeIn_by_levels_at_partition_and_view :
    let descriptor : Descriptor :=
      { name := ⟨['x'], some ['y'], some ['z'], some ['P', '=', 'A'], none⟩, location := some ['l'] }
    let table : Name := ⟨['c'], some ['d'], some ['t'], some ['q'], some ['v']⟩
    let placed : Name := ⟨['c'], some ['d'], some ['t'], some ['P', '=', 'A'], none⟩
    Constructed descriptor.name ∧ Constructed table ∧ descriptor.placeIn table = .ok placed ∧
      descriptor.placeIn placed = .ok placed :=
  have described := .composed (.parse "X/y/z/P=A".toList .heuristic rfl)
  have constructed := .ofSource ([(Level.catalog.field, ['c']), (Level.database.field, ['d']),
    (Level.table.field, ['t']), (Level.partition.field, ['q']), (Level.view.field, ['V'])] :
      Fields Text) rfl
  have laws := placeIn_by_levels
    { name := ⟨['x'], some ['y'], some ['z'], some ['P', '=', 'A'], none⟩, location := some ['l'] }
    ⟨['c'], some ['d'], some ['t'], some ['q'], some ['v']⟩ described constructed
  have made := laws.2.1 _ rfl
  ⟨described, constructed, made, laws.2.2.1 _ made⟩

end Descriptor

end CatalogNames
