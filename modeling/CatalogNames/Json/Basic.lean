import CatalogNames.Source

/-! Values of the JSON data format. A number is kept exactly: a whole number that fits 64 bits, signed
or unsigned, is an integer, and any other number is a decimal fraction.

The program leaves JSON to serde_json. These modules state the rules of that library as it documents them;
they are taken as given, and what is proved of the program rests on them. -/

namespace CatalogNames

inductive Number where
  | integer (value : Int)
  /-- The digits times the power of ten. -/
  | decimal (negative : Bool) (digits : Nat) (exponent : Int)
  deriving DecidableEq, Repr

inductive Json where
  | null
  | boolean (value : Bool)
  | number (value : Number)
  | string (text : Text)
  | array (items : List Json)
  | object (fields : List (Text × Json))

namespace Json

def text? : Json → Option Text
  | .string text => some text
  | _ => none

/-- The value of a field; a value that is no object has no fields. -/
def get? : Json → Text → Option Json
  | .object fields, key => Fields.get? fields key
  | _, _ => none

def isNull : Json → Bool
  | .null => true
  | _ => false

def ofRecord (record : Fields Text) : Json :=
  .object (record.map fun field => (field.1, .string field.2))

end Json

instance : Source (Fields Json) := ⟨fun fields key => (fields.get? key).bind Json.text?⟩

instance : Source Json := ⟨fun json key => (json.get? key).bind Json.text?⟩

end CatalogNames
