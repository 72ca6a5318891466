import CatalogNames.Name.Written
import CatalogNames.Source

/-! The record of a name: one field for each level that is present, and the canonical text of the
whole under a key of its own. A source that has a catalog is read level by level; only a source
without one is read by its whole name. -/

namespace CatalogNames.Name

/-- The field of the whole name. -/
def wholeField : Text := "qualifiedName".toList

def record (name : Name) : Fields Text :=
  Fields.ofList ((wholeField, name.text) ::
    name.levels.map fun present => (present.1.field, present.2))

def ofSource {σ : Type} [Source σ] (source : σ) : Except NameError Name :=
  match Source.text? source Level.catalog.field with
  | some catalog =>
      Draft.check {
        catalog
        database := Source.text? source Level.database.field
        table := Source.text? source Level.table.field
        partition := Source.text? source Level.partition.field
        view := Source.text? source Level.view.field }
  | none =>
      match Source.text? source wholeField with
      | some text => parse text .heuristic
      | none => .error (.fieldMissing .catalog)

end CatalogNames.Name
