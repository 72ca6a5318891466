import CatalogNames.Name.Basic

/-! Names are ordered by the segments of their levels, outermost first, as texts are ordered by code
point. A level that is absent counts as the empty text, so a name comes before those below it. -/

namespace CatalogNames

/-- The bytes that a text gives to a hasher: those of its characters, and then one that is in none. -/
def Text.hashed (text : Text) : List UInt8 := text.flatMap String.utf8EncodeChar ++ [0xFF]

namespace Name

/-- The segments that names are compared by. -/
def key (name : Name) : List Text :=
  Level.all.map fun level => (name.get? level).getD []

instance : LT Name := ⟨fun first second => first.key < second.key⟩

instance : LE Name := ⟨fun first second => ¬second < first⟩

instance (first second : Name) : Decidable (first < second) :=
  inferInstanceAs (Decidable (first.key < second.key))

instance (first second : Name) : Decidable (first ≤ second) :=
  inferInstanceAs (Decidable (¬second < first))

instance : Ord Name := ⟨fun first second => compareOfLessAndEq first.key second.key⟩

/-- The bytes that a name gives to a hasher, one segment after the other. -/
def hashed (name : Name) : List UInt8 :=
  [name.catalog, name.database.getD [], name.table.getD [], name.partition.getD [],
    name.view.getD []].flatMap Text.hashed

instance : Hashable Name := ⟨fun name => hash name.hashed⟩

/-- The names in ascending order; equal names keep their places. -/
def sort (names : List Name) : List Name :=
  names.mergeSort fun first second => decide (first ≤ second)

end Name

end CatalogNames
