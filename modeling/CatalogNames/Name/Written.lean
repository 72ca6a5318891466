import CatalogNames.Name.Basic
import CatalogNames.Reading
import CatalogNames.Text.Quoted
import CatalogNames.Text.Split

/-! The written form of a name: its segments, outermost first, with a delimiter between them. Reading
cuts a text at the first three delimiters only, so a fourth segment may hold further ones. -/

namespace CatalogNames.Name

def delimiter : Char := '/'

/-- The canonical text; a level that is absent leaves no gap. -/
def text (name : Name) : Text := Text.join delimiter (name.levels.map Prod.snd)

/-- The canonical text in a form that is fit for a message. -/
def debugText (name : Name) : Text := "QualifiedName(".toList ++ name.text.quoted ++ [')']

/-- The name that a text stands for, with the fourth segment taken as the reading says. -/
def parse (raw : Text) (reading : Reading) : Except NameError Name :=
  if raw.trim.isEmpty then .error (.unreadable raw .blank)
  else
    match raw.trim.splitAtMost delimiter 3 with
    | [catalog] => ofCatalog catalog
    | [catalog, database] => ofDatabase catalog database
    | [catalog, database, table] => ofTable catalog database table
    | [catalog, database, table, last] =>
        if reading.readsAsView last then ofView catalog database table last
        else ofPartition catalog database table last
    | _ => .error (.unreadable raw .segmentCount)

end CatalogNames.Name
