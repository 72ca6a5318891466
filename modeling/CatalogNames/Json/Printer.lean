import CatalogNames.Json.Escape
import CatalogNames.Json.Numeral
import CatalogNames.Text.Split

/-! Writing JSON. A layout says what stands before the items of a container and after the colon of a
field; both consist of spaces and line ends only, so every layout is read back alike. The two layouts are the
compact and the pretty one of serde_json, taken as documented. -/

namespace CatalogNames.Json

def quote (text : Text) : Text := '"' :: (text.flatMap escape ++ ['"'])

structure Layout where
  /-- What stands before an item, or before the closing mark, at the depth. -/
  gap : Nat → Text
  /-- What stands after a colon. -/
  afterColon : Text

def Layout.compact : Layout := ⟨fun _ => [], []⟩

/-- Each item on a line of its own, two spaces further in than its container. -/
def Layout.indented : Layout := ⟨fun depth => '\n' :: List.replicate (2 * depth) ' ', [' ']⟩

namespace Layout

/-- The items of a container between its marks; an empty container has no gaps. -/
def enclose (layout : Layout) (opening closing : Char) (depth : Nat) (items : List Text) : Text :=
  if items.isEmpty then [opening, closing]
  else
    opening :: (Text.join ',' (items.map fun item => layout.gap (depth + 1) ++ item) ++
      layout.gap depth ++ [closing])

mutual

/-- The value as it is written inside so many containers. -/
def write (layout : Layout) (depth : Nat) : Json → Text
  | .null => "null".toList
  | .boolean true => "true".toList
  | .boolean false => "false".toList
  | .number value => value.text
  | .string text => quote text
  | .array items => layout.enclose '[' ']' depth (layout.writeItems (depth + 1) items)
  | .object fields => layout.enclose '\x7b' '\x7d' depth (layout.writeFields (depth + 1) fields)

def writeItems (layout : Layout) (depth : Nat) : List Json → List Text
  | [] => []
  | item :: rest => layout.write depth item :: layout.writeItems depth rest

def writeFields (layout : Layout) (depth : Nat) : List (Text × Json) → List Text
  | [] => []
  | (key, value) :: rest =>
      (quote key ++ ':' :: (layout.afterColon ++ layout.write depth value)) ::
        layout.writeFields depth rest

end

end Layout

/-- The shortest layout: no space anywhere outside strings. -/
def compact (json : Json) : Text := Layout.compact.write 0 json

def indented (json : Json) : Text := Layout.indented.write 0 json

end CatalogNames.Json
