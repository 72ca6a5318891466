import CatalogNames.Proofs.Json.Printed
import CatalogNames.Proofs.Name.Construction

/-! The record of a name holds each level under a field of its own and the text of the whole under
another. Whoever reads the levels out of these fields gets the segments of the name, and a well-formed
name passes the checks unchanged, so every form of the record stands for the name it was made from. -/

namespace CatalogNames

theorem Level.field_injective : Function.Injective Level.field := by
  intro first second
  cases first <;> cases second <;> decide

namespace Name

theorem field_ne_wholeField (level : Level) : level.field ≠ wholeField := by
  cases level <;> decide

theorem ascending_record (name : Name) : name.record.Ascending :=
  Fields.ascending_ofList _

/-- The field of a level holds the segment of the level. -/
theorem get?_record_field (name : Name) (level : Level) :
    name.record.get? level.field = name.get? level := by
  have listed : level ∈ Level.all.reverse := List.mem_reverse.mpr level.mem_all
  have fields := Fields.get?_filterMap Level.field Level.field_injective name.get?
    Level.all.reverse level
  have whole : Fields.get? [(wholeField, name.text)] level.field = none := by
    rw [Fields.get?_cons, if_neg (field_ne_wholeField level)]
    rfl
  rw [if_pos listed] at fields
  rw [record, Fields.get?_ofList, List.reverse_cons, Fields.get?_append, whole, Option.or_none,
    levels, List.map_filterMap, ← List.filterMap_reverse]
  simp only [Option.map_map]
  exact fields

/-- The fields of the levels that are present are all different. -/
theorem nodup_fields (name : Name) : (name.levels.map fun present => present.1.field).Nodup := by
  have separate := Fields.nodup_filterMap Level.field Level.field_injective name.get? Level.all
    (by decide)
  rw [List.map_filterMap] at separate
  rw [levels, List.map_filterMap]
  simpa only [Option.map_map, Function.comp_def] using separate

/-- A record holds the text of the name and the segments of its levels, and nothing else. -/
theorem mem_record_iff (name : Name) (key value : Text) : (key, value) ∈ name.record ↔
    key = wholeField ∧ value = name.text ∨
      ∃ level : Level, key = level.field ∧ name.get? level = some value := by
  have separate : (((wholeField, name.text) ::
      name.levels.map fun present => (present.1.field, present.2)).map Prod.fst).Nodup := by
    rw [List.map_cons, List.map_map]
    refine List.nodup_cons.mpr ⟨?_, name.nodup_fields⟩
    intro found
    obtain ⟨present, -, same⟩ := List.mem_map.mp found
    exact field_ne_wholeField present.1 same
  rw [record, Fields.mem_ofList_iff _ separate, List.mem_cons, Prod.mk.injEq]
  apply or_congr_right
  simp only [List.mem_map, Prod.exists, Prod.mk.injEq, mem_levels_iff]
  constructor
  · intro listed
    obtain ⟨level, segment, stored, rfl, rfl⟩ := listed
    exact ⟨level, rfl, stored⟩
  · intro listed
    obtain ⟨level, rfl, stored⟩ := listed
    exact ⟨level, value, stored, rfl, rfl⟩

/-- A source that holds the segments of a well-formed name under their fields stands for that name,
whatever it holds under other keys. -/
theorem WellFormed.ofSource {name : Name} (formed : name.WellFormed) {σ : Type} [Source σ]
    (source : σ) (same : ∀ level : Level, Source.text? source level.field = name.get? level) :
    ofSource source = .ok name := by
  rw [Name.ofSource, same .catalog]
  simp only [get?, same]
  exact formed.check_draft

theorem text?_toJson (name : Name) (key : Text) :
    Source.text? name.toJson key = name.record.get? key := by
  have held : name.toJson.get? key = (name.record.get? key).map Json.string :=
    Fields.get?_map name.record Json.string key
  change (name.toJson.get? key).bind Json.text? = name.record.get? key
  rw [held]
  cases name.record.get? key with
  | none => rfl
  | some text => rfl

theorem WellFormed.decode_toJson {name : Name} (formed : name.WellFormed) :
    decode name.toJson = .ok name := by
  rw [decode_eq_ok_iff]
  apply formed.ofSource
  intro level
  rw [text?_toJson, get?_record_field]

/-- A record in a spaced layout stands for its name. -/
theorem WellFormed.ofJsonText_write {name : Name} (formed : name.WellFormed) (layout : Json.Layout)
    (spaced : layout.Spaced) : ofJsonText (layout.write 0 name.toJson) = .ok name := by
  have read := Json.readValue_ofRecord layout spaced 126 0 name.record name.ascending_record []
  rw [List.append_nil] at read
  rw [ofJsonText, Json.readStart, toJson, Json.maxDepth, read]
  simp only
  rw [← toJson, formed.decode_toJson]
  rfl

/-- A name is read back from its record, from the JSON value of the record and from its shortest text. -/
theorem record_stands_for_name (name : Name) (constructed : Constructed name) :
    ofSource name.record = .ok name ∧ decode name.toJson = .ok name ∧
      ofJsonText name.toJson.compact = .ok name :=
  have formed := constructed.wellFormed
  ⟨formed.ofSource name.record name.get?_record_field, formed.decode_toJson,
    formed.ofJsonText_write Json.Layout.compact Json.Layout.spaced_compact⟩

theorem record_stands_for_name_marked :
    let name : Name :=
      ⟨['é', '/', 'ü'], some ['"'], some ['\\'], some ['P', '=', '\x01'], some ['v', '\n', 'w']⟩
    Constructed name ∧ ofSource name.record = .ok name ∧ decode name.toJson = .ok name ∧
      ofJsonText name.toJson.compact = .ok name :=
  have constructed := .ofSource ([(Level.catalog.field, " é/ü".toList),
    (Level.database.field, ['"']), (Level.table.field, ['\\']),
    (Level.partition.field, ['P', '=', '\x01']), (Level.view.field, "V\nw\t".toList)] :
      Fields Text) rfl
  ⟨constructed, record_stands_for_name _ constructed⟩

end Name

end CatalogNames
