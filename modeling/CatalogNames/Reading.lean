import CatalogNames.Text.Basic

/-! The fourth segment of a written name is a partition or a view. A reading decides which: it takes
every such segment for a view, or only those that do not assign a value with an equals sign. -/

namespace CatalogNames

inductive Reading where
  | preferView
  | heuristic
  deriving DecidableEq, Repr

namespace Reading

instance : Inhabited Reading := ⟨.heuristic⟩

def all : List Reading := [.preferView, .heuristic]

def word : Reading → Text
  | .preferView => "prefer_view".toList
  | .heuristic => "heuristic".toList

def ofBool (isView : Bool) : Reading := if isView then .preferView else .heuristic

def readsAsView (reading : Reading) (segment : Text) : Bool :=
  match reading with
  | .preferView => true
  | .heuristic => !segment.contains '='

end Reading

end CatalogNames
