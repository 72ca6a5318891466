import CatalogNames.Proofs.Name.Record

/-! Descriptors as JSON. What is written has a field for the name and one for each part that is there, so the
fields are read back one by one; only metadata that is itself null cannot be told from metadata that is not
there. Decoding never gives such metadata, and gives names that are well formed, so whatever form a
descriptor is decoded from, its own form stands for it. -/

namespace CatalogNames.Descriptor

/-- The field of a part that may not be there. -/
def optional (field : Text) (value : Option Json) : List (Text × Json) :=
  value.toList.map fun value => (field, value)

theorem get?_optional (field key : Text) (value : Option Json) :
    Fields.get? (optional field value) key = if key = field then value else none := by
  cases value with
  | none => simp [optional, Fields.get?]
  | some json => exact Fields.get?_cons field key json []

/-- The fields in the order of their keys. -/
def fields (descriptor : Descriptor) : Fields Json :=
  optional metadataField descriptor.metadata ++
    (optional locationField (descriptor.location.map .string) ++
      [(nameField, descriptor.name.toJson)])

theorem toJson_eq (descriptor : Descriptor) : descriptor.toJson = .object descriptor.fields := by
  obtain ⟨name, location, metadata⟩ := descriptor
  cases location with
  | none => cases metadata <;> rfl
  | some text => cases metadata <;> rfl

theorem get?_fields_name (descriptor : Descriptor) :
    descriptor.fields.get? nameField = some descriptor.name.toJson := by
  rw [fields, Fields.get?_append, Fields.get?_append, get?_optional, get?_optional,
    if_neg (by decide), if_neg (by decide), Fields.get?_cons, if_pos rfl]
  rfl

theorem get?_fields_location (descriptor : Descriptor) :
    descriptor.fields.get? locationField = descriptor.location.map .string := by
  rw [fields, Fields.get?_append, Fields.get?_append, get?_optional, get?_optional,
    if_neg (by decide), if_pos rfl, Fields.get?_cons, if_neg (by decide)]
  exact Option.or_none

theorem get?_fields_metadata (descriptor : Descriptor) :
    descriptor.fields.get? metadataField = descriptor.metadata := by
  rw [fields, Fields.get?_append, Fields.get?_append, get?_optional, get?_optional, if_pos rfl,
    if_neg (by decide), Fields.get?_cons, if_neg (by decide)]
  exact Option.or_none

theorem decodeLocation_string (location : Option Text) :
    decodeLocation (location.map .string) = .ok location := by
  cases location with
  | none => rfl
  | some text => rfl

theorem decodeMetadata_eq_self_iff (metadata : Option Json) :
    decodeMetadata metadata = metadata ↔ metadata ≠ some .null := by
  cases metadata with
  | none => simp [decodeMetadata]
  | some json => cases json <;> simp [decodeMetadata, Option.filter, Json.isNull]

/-- The metadata is all that may change, and it does so only by being dropped. -/
theorem decode_toJson (descriptor : Descriptor) (formed : descriptor.name.WellFormed) :
    decode descriptor.toJson =
      .ok { descriptor with metadata := decodeMetadata descriptor.metadata } := by
  rw [toJson_eq, decode, get?_fields_location, get?_fields_name, get?_fields_metadata,
    decodeLocation_string]
  simp only [bind, Except.bind, formed.decode_toJson]

theorem decode_toJson_eq_self_iff (descriptor : Descriptor) (formed : descriptor.name.WellFormed) :
    decode descriptor.toJson = .ok descriptor ↔ descriptor.metadata ≠ some .null := by
  rw [descriptor.decode_toJson formed, ← decodeMetadata_eq_self_iff]
  obtain ⟨name, location, metadata⟩ := descriptor
  simp

/-- The name and the metadata of a decoded descriptor are what some part of its JSON comes to. -/
theorem parts_of_decode (json : Json) (descriptor : Descriptor)
    (decoded : decode json = .ok descriptor) :
    (∃ part, Name.decode part = .ok descriptor.name) ∧
      ∃ part, decodeMetadata part = descriptor.metadata := by
  unfold decode at decoded
  split at decoded
  next fields =>
    obtain ⟨location, -, later⟩ := (bind_eq_ok_iff _ _ descriptor).mp decoded
    split at later
    next => contradiction
    next part found =>
      obtain ⟨name, read, whole⟩ := (bind_eq_ok_iff _ _ descriptor).mp later
      cases whole
      exact ⟨⟨part, read⟩, _, rfl⟩
  next => contradiction
  next first rest =>
    obtain ⟨name, read, later⟩ := (bind_eq_ok_iff _ _ descriptor).mp decoded
    obtain ⟨location, -, last⟩ := (bind_eq_ok_iff _ _ descriptor).mp later
    split at last
    next => contradiction
    next =>
      cases last
      exact ⟨⟨first, read⟩, _, rfl⟩
  next => contradiction

theorem decodeMetadata_ne_null (part : Option Json) : decodeMetadata part ≠ some .null := by
  intro null
  have kept := (Option.filter_eq_some_iff.mp null).2
  contradiction

/-- A descriptor is read back from its JSON exactly if its metadata is not null. One that is decoded from any
JSON, an object or an array, with its name as a whole or level by level, is read back. -/
theorem json_stands_for_descriptor :
    (∀ descriptor : Descriptor, Name.Constructed descriptor.name →
      (decode descriptor.toJson = .ok descriptor ↔ descriptor.metadata ≠ some .null)) ∧
    ∀ json descriptor, decode json = .ok descriptor →
      decode descriptor.toJson = .ok descriptor := by
  refine ⟨?_, ?_⟩
  · intro descriptor constructed
    exact descriptor.decode_toJson_eq_self_iff constructed.wellFormed
  · intro json descriptor decoded
    obtain ⟨⟨part, read⟩, last, same⟩ := parts_of_decode json descriptor decoded
    have formed : descriptor.name.WellFormed := (Name.Constructed.decode part read).wellFormed
    rw [descriptor.decode_toJson_eq_self_iff formed, ← same]
    exact decodeMetadata_ne_null last

/-- An array with a whole name and metadata that holds null, and the descriptor that it stands for. -/
theorem json_stands_for_descriptor_at_array :
    let name : Name := ⟨['c'], some ['d'], some ['t'], some ['P', '=', '1'], none⟩
    let descriptor : Descriptor :=
      { name, metadata := some (.object [(['a'], .null), (['b'], .array [])]) }
    let json : Json := .array [.object [(['a'], .null), (Name.wholeField, .string "C/d/t/P=1".toList)],
      .null, .object [(['a'], .null), (['b'], .array [])]]
    Name.Constructed descriptor.name ∧
      (decode descriptor.toJson = .ok descriptor ↔ descriptor.metadata ≠ some .null) ∧
      decode json = .ok descriptor ∧ decode descriptor.toJson = .ok descriptor :=
  have constructed := .composed (.parse "C/d/t/P=1".toList .heuristic rfl)
  ⟨constructed, json_stands_for_descriptor.1 _ constructed, rfl,
    json_stands_for_descriptor.2 (.array [.object [(['a'], .null),
      (Name.wholeField, .string "C/d/t/P=1".toList)], .null,
        .object [(['a'], .null), (['b'], .array [])]]) _ rfl⟩

end CatalogNames.Descriptor
