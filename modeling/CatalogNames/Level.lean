import CatalogNames.Text.Basic

/-! The levels of a catalog, outermost first. Each level has a word that names it, a field that
holds it in a record, and a rule for the segment that is stored at it. -/

namespace CatalogNames

inductive Level where
  | catalog
  | database
  | table
  | partition
  | view
  deriving DecidableEq, Repr

namespace Level

def all : List Level := [.catalog, .database, .table, .partition, .view]

/-- How many levels lie above. -/
def depth : Level → Nat
  | .catalog => 0
  | .database => 1
  | .table => 2
  | .partition => 3
  | .view => 4

/-- Levels are ordered from the outermost inwards. -/
instance : Ord Level := ⟨fun first second => Ord.compare first.depth second.depth⟩

def word : Level → Text
  | .catalog => "catalog".toList
  | .database => "database".toList
  | .table => "table".toList
  | .partition => "partition".toList
  | .view => "view".toList

def field : Level → Text
  | .catalog => "catalogName".toList
  | .database => "databaseName".toList
  | .table => "tableName".toList
  | .partition => "partitionName".toList
  | .view => "viewName".toList

/-- Partitions keep their case, since their values may depend on it. -/
def foldsCase : Level → Bool
  | .partition => false
  | _ => true

/-- The text of a segment as it is stored at the level. -/
def normalize (level : Level) (segment : Text) : Text :=
  if level.foldsCase then segment.trim.fold else segment.trim

/-- The stored segment; a segment that is not given, or blank, is absent. -/
def stored? (level : Level) (segment : Option Text) : Option Text :=
  (segment.map level.normalize).filter fun text => !text.isEmpty

theorem mem_all (level : Level) : level ∈ all := by
  cases level <;> decide

end Level

end CatalogNames
