import CatalogNames.Proofs.Name.Record
import CatalogNames.Proofs.Name.RoundTrip

/-! What can be relied on in every name that the library gives: the form of its segments, which levels go
with which, and what its text and its record say about them. The segments, texts and sources that a name
is made from are arbitrary, so they may as well be those of names made before. -/

namespace CatalogNames.Name
open Text

theorem present_eq_reduceOption (name : Name) :
    name.present = (Level.all.map name.get?).reduceOption := by
  rw [present, levels, List.map_filterMap, List.reduceOption, List.filterMap_map]
  simp [Function.comp_def]

/-- A name as it should be, together with its text and its record. -/
structure Regular (name : Name) : Prop where
  filled : ∀ level segment, name.get? level = some segment → segment ≠ []
  trimmed : ∀ level segment, name.get? level = some segment → Trimmed segment
  /-- Partitions keep their case, other levels have no upper case letters. -/
  lower : ∀ level segment, level ≠ .partition → name.get? level = some segment →
    ∀ char ∈ segment, char.isUpper = false
  catalog : name.catalog ≠ []
  database : name.database = none → name.table = none ∧ name.partition = none
  table : name.table = none → name.partition = none
  text : name.text = join delimiter
    [some name.catalog, name.database, name.table, name.partition, name.view].reduceOption
  textFilled : name.text ≠ []
  textTrimmed : Trimmed name.text
  /-- The record says no more than the text and the levels. -/
  record : ∀ key value, (key, value) ∈ name.record ↔
    key = wholeField ∧ value = name.text ∨
      ∃ level : Level, key = level.field ∧ name.get? level = some value
  recordKeys : (name.record.map Prod.fst).Nodup

theorem WellFormed.lower {name : Name} (formed : name.WellFormed) (level : Level) (segment : Text)
    (cased : level ≠ .partition) (stored : name.get? level = some segment) :
    ∀ char ∈ segment, char.isUpper = false := by
  intro char found
  have folds : level.foldsCase = true := by
    cases level with
    | partition => contradiction
    | _ => rfl
  have folded := (formed.stores level segment stored).folded folds
  rw [← (fold_eq_self_iff segment).mp folded char found]
  exact char.isUpper_toLower_eq_false

theorem WellFormed.regular {name : Name} (formed : name.WellFormed) : name.Regular := by
  obtain ⟨table, partition⟩ := (orphan?_eq_none_iff name).mp formed.supported
  have stores := formed.stores
  refine {
    filled := fun level segment stored => (stores level segment stored).1
    trimmed := fun level segment stored => (stores level segment stored).trimmed
    lower := formed.lower
    catalog := (stores .catalog name.catalog rfl).1
    database := ?_
    table := ?_
    text := congrArg (join delimiter) name.present_eq_reduceOption
    textFilled := formed.text_ne_nil
    textTrimmed := (trim_eq_self_iff name.text).mp formed.trim_text
    record := name.mem_record_iff
    recordKeys := Fields.nodup_of_ascending name.record name.ascending_record }
  · intro absent
    simp only [has, get?, absent] at table partition
    simpa using And.intro table fun has => (partition has).1
  · intro absent
    simp only [has, get?, absent] at partition
    simpa using fun has => (partition has).2

theorem regular_of_constructed (name : Name) (constructed : Constructed name) : name.Regular :=
  constructed.wellFormed.regular

theorem regular_of_placed_partition :
    let name : Name := ⟨['c'], some ['d'], some ['t'], some ['P', '=', ' ', '/'], none⟩
    Constructed name ∧ name.Regular :=
  have constructed := .composed (.placeIn
    { name := ⟨['x'], some ['y'], some ['z'], some ['P', '=', ' ', '/'], none⟩ }
    ⟨['c'], some ['d'], some ['t'], none, some ['v']⟩ rfl)
  ⟨constructed, regular_of_constructed _ constructed⟩

end CatalogNames.Name
