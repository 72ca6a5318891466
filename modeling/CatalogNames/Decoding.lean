import CatalogNames.Json.Printer
import CatalogNames.Json.Reader
import CatalogNames.Name.Record

/-! Names, levels and readings as JSON. A name travels as its record. A level or a reading travels as
its word, or as an object whose only key is that word and whose value is null.

Names are decoded by a rule of their own. For levels and readings the program has the code that serde
derives: the forms it accepts and the messages of its errors are assumed as serde documents them. -/

namespace CatalogNames

inductive DecodeError where
  | unknownWord (word : Text) (expected : List Text)
  /-- The value is of another kind than the expected one. -/
  | wrongKind (found : Json) (expected : Text)
  /-- A word given as an object needs exactly one key. -/
  | notOneKey
  | fieldMissing (field : Text)
  /-- The array ends before the element that has to be there. -/
  | tooFew (length : Nat) (expected : Text)
  | tooMany (length : Nat)
  /-- The record is no name. -/
  | name (error : NameError)

/-- Why a JSON text does not stand for a value. -/
inductive TextError where
  | malformed
  | data (error : DecodeError)

namespace Json

def ticked (text : Text) : Text := '`' :: (text ++ ['`'])

/-- The kind of the value, with the value itself where that is short. -/
def describe : Json → Text
  | .null => "null".toList
  | .boolean true => "boolean `true`".toList
  | .boolean false => "boolean `false`".toList
  | .number (.integer value) => "integer ".toList ++ ticked (Number.integer value).text
  | .number value => "floating point ".toList ++ ticked value.text
  | .string text => "string ".toList ++ text.quoted
  | .array _ => "sequence".toList
  | .object _ => "map".toList

end Json

/-- The words as alternatives. -/
def alternatives (words : List Text) : Text :=
  match words.map Json.ticked with
  | [] => []
  | [only] => only
  | [first, second] => first ++ " or ".toList ++ second
  | several => "one of ".toList ++ ", ".toList.intercalate several

def DecodeError.message : DecodeError → Text
  | .unknownWord word expected =>
      "unknown variant ".toList ++ Json.ticked word ++ ", expected ".toList ++
        alternatives expected
  | .wrongKind found expected =>
      "invalid type: ".toList ++ found.describe ++ ", expected ".toList ++ expected
  | .notOneKey => "invalid value: map, expected map with a single key".toList
  | .fieldMissing field => "missing field ".toList ++ Json.ticked field
  | .tooFew length expected =>
      "invalid length ".toList ++ Number.natText length ++ ", expected ".toList ++ expected
  | .tooMany length =>
      "invalid length ".toList ++ Number.natText length ++
        ", expected fewer elements in array".toList
  | .name error => error.message

/-- The value that a word stands for among the choices. -/
def choose {α : Type} (choices : List (Text × α)) (word : Text) : Except DecodeError α :=
  match choices.lookup word with
  | some choice => .ok choice
  | none => .error (.unknownWord word (choices.map Prod.fst))

def decodeWord {α : Type} (choices : List (Text × α)) : Json → Except DecodeError α
  | .string word => choose choices word
  | .object [(word, value)] => do
      let choice ← choose choices word
      if value.isNull then .ok choice else .error (.wrongKind value "unit".toList)
  | .object _ => .error .notOneKey
  | json => .error (.wrongKind json "string or map".toList)

def Level.decode : Json → Except DecodeError Level :=
  decodeWord (Level.all.map fun level => (level.word, level))

def Reading.decode : Json → Except DecodeError Reading :=
  decodeWord (Reading.all.map fun reading => (reading.word, reading))

namespace Name

def toJson (name : Name) : Json := Json.ofRecord name.record

def decode (json : Json) : Except DecodeError Name := (ofSource json).mapError .name

/-- The name in a JSON text. The value is decoded before the text after it is looked at. -/
def ofJsonText (text : Text) : Except TextError Name :=
  match Json.readStart text with
  | none => .error .malformed
  | some (json, rest) =>
      match decode json with
      | .error error => .error (.data error)
      | .ok name => if (Json.skipSpace rest).isEmpty then .ok name else .error .malformed

end Name

end CatalogNames
