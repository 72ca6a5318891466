import CatalogNames.Decoding

/-! A descriptor of a partition: its name, where its data lies and whatever else is known of it. As JSON
it is an object whose optional fields may be missing or null; it is also read from an array of its
fields in order, the optional ones at the end. Both forms, the order of the checks and the messages are those
of the code that serde derives for a record with such fields; they are assumed as serde documents them. -/

namespace CatalogNames

structure Descriptor where
  name : Name
  location : Option Text := none
  metadata : Option Json := none

namespace Descriptor

def nameField : Text := "name".toList

def locationField : Text := "location".toList

def metadataField : Text := "definitionMetadata".toList

/-- Whether the descriptor says nothing but the name. -/
def isPlain (descriptor : Descriptor) : Bool :=
  descriptor.location.isNone && descriptor.metadata.isNone

/-- The name of the described partition inside a table. -/
def placeIn (descriptor : Descriptor) (table : Name) : Except NameError Name := do
  let partition ← descriptor.name.require .partition
  Name.ofPartition table.catalog (table.database.getD []) (table.table.getD []) partition

def toJson (descriptor : Descriptor) : Json :=
  let optional (field : Text) (value : Option Json) : List (Text × Json) :=
    value.toList.map fun value => (field, value)
  .object (Fields.ofList ((nameField, descriptor.name.toJson) ::
    (optional locationField (descriptor.location.map .string) ++
      optional metadataField descriptor.metadata)))

def decodeLocation : Option Json → Except DecodeError (Option Text)
  | none | some .null => .ok none
  | some (.string text) => .ok (some text)
  | some json => .error (.wrongKind json "a string".toList)

def decodeMetadata (json : Option Json) : Option Json := json.filter fun json => !json.isNull

/-- In an object the location is checked before the name, since the fields are visited in order. -/
def decode : Json → Except DecodeError Descriptor
  | .object fields => do
      let location ← decodeLocation (Fields.get? fields locationField)
      match Fields.get? fields nameField with
      | none => .error (.fieldMissing nameField)
      | some json => do
          let name ← Name.decode json
          .ok { name, location, metadata := decodeMetadata (Fields.get? fields metadataField) }
  | .array [] => .error (.tooFew 0 "struct PartitionSpec with 3 elements".toList)
  | .array (first :: rest) => do
      let name ← Name.decode first
      let location ← decodeLocation rest[0]?
      if 2 < rest.length then .error (.tooMany (rest.length + 1))
      else .ok { name, location, metadata := decodeMetadata rest[1]? }
  | json => .error (.wrongKind json "struct PartitionSpec".toList)

end Descriptor

end CatalogNames
