import CatalogNames.Name.Error

/-! A name holds the segment of each level that is present. A draft holds the segments as they are
given; it becomes a name when its catalog is not blank and no level lacks one that it needs. A table
needs its database and a partition needs both; a view may stand anywhere below the catalog.

A name never changes, and its text and its record are functions of its levels. They are computed where
they are asked for and not kept in fields beside the levels, so no name can hold a text or a record of
another one. -/

namespace CatalogNames

structure Name where
  catalog : Text
  database : Option Text
  table : Option Text
  partition : Option Text
  view : Option Text
  deriving DecidableEq, Repr

namespace Name

def get? (name : Name) : Level → Option Text
  | .catalog => some name.catalog
  | .database => name.database
  | .table => name.table
  | .partition => name.partition
  | .view => name.view

/-- The levels that are present with their segments, outermost first. -/
def levels (name : Name) : List (Level × Text) :=
  Level.all.filterMap fun level => (name.get? level).map fun segment => (level, segment)

/-- The innermost level that is present. -/
def level (name : Name) : Level := (name.levels.getLast?.map Prod.fst).getD .catalog

def has (name : Name) (level : Level) : Bool := (name.get? level).isSome

def require (name : Name) (level : Level) : Except NameError Text :=
  match name.get? level with
  | some segment => .ok segment
  | none => .error (.undefined level)

/-- The pairs of a level and one that needs it, in the order in which they are checked. -/
def needs : List (Level × Level) :=
  [(.database, .table), (.database, .partition), (.table, .partition)]

/-- The first pair of a missing level and a present one that needs it. -/
def orphan? (name : Name) : Option (Level × Level) :=
  needs.find? fun pair => !name.has pair.1 && name.has pair.2

end Name

/-- The segments of a name as they are given, before any is trimmed, folded or checked. -/
structure Draft where
  catalog : Text
  database : Option Text := none
  table : Option Text := none
  partition : Option Text := none
  view : Option Text := none

def Draft.check (draft : Draft) : Except NameError Name :=
  match Level.catalog.stored? (some draft.catalog) with
  | none => .error (.blank .catalog)
  | some catalog =>
      let name : Name := {
        catalog
        database := Level.database.stored? draft.database
        table := Level.table.stored? draft.table
        partition := Level.partition.stored? draft.partition
        view := Level.view.stored? draft.view }
      match name.orphan? with
      | some (missing, present) => .error (.orphan missing present)
      | none => .ok name

namespace Name

def ofCatalog (catalog : Text) : Except NameError Name := Draft.check { catalog }

def ofDatabase (catalog database : Text) : Except NameError Name :=
  Draft.check { catalog, database := some database }

def ofTable (catalog database table : Text) : Except NameError Name :=
  Draft.check { catalog, database := some database, table := some table }

def ofPartition (catalog database table partition : Text) : Except NameError Name :=
  Draft.check {
    catalog, database := some database, table := some table, partition := some partition }

def ofView (catalog database table view : Text) : Except NameError Name :=
  Draft.check { catalog, database := some database, table := some table, view := some view }

/-- The name of a segment at a level whose outer levels are those of the parent. -/
def child (parent : Name) (level : Level) (segment : Text) : Except NameError Name :=
  match level with
  | .catalog => ofCatalog segment
  | .database => ofDatabase parent.catalog segment
  | .table => do ofTable parent.catalog (← parent.require .database) segment
  | .partition => do
      ofPartition parent.catalog (← parent.require .database) (← parent.require .table) segment
  | .view => do
      ofView parent.catalog (← parent.require .database) (← parent.require .table) segment

end Name

end CatalogNames
