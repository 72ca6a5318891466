import CatalogNames.Proofs.Name.Construction

/-! Which names some text stands for. A text has a place for every level, and an empty place stands for a
level that is absent, so also a name that skips a level can be written, although its canonical text is
read otherwise. What cannot be written is a delimiter in an outer level, a partition together with a
view, and a last segment that the reading takes for the other kind. -/

namespace CatalogNames.Name
open Text

/-- The segments of the name with an empty one for each level that is absent, where a partition and a
view have the same place. -/
def places (name : Name) : List Text :=
  [name.catalog, name.database.getD [], name.table.getD [], (name.partition.or name.view).getD []]

/-- A written form that keeps the place of every level. -/
def placedText (name : Name) : Text := join delimiter name.places

theorem placedText_eq (name : Name) : name.placedText =
    name.catalog ++ delimiter :: (name.database.getD [] ++ delimiter :: (name.table.getD [] ++
      delimiter :: (name.partition.or name.view).getD [])) := by
  simp [placedText, places, join_cons, join_singleton]

theorem WellFormed.trim_placedText {name : Name} (formed : name.WellFormed) :
    name.placedText.trim = name.placedText := by
  have catalog := formed.stores .catalog name.catalog rfl
  have last : ∀ char ∈ ((name.partition.or name.view).getD []).getLast?, isBlank char = false := by
    cases partition : name.partition with
    | some segment => exact (formed.stores .partition segment partition).trimmed.2
    | none =>
        cases view : name.view with
        | some segment => exact (formed.stores .view segment view).trimmed.2
        | none => simp
  have visible : isBlank delimiter = false := by decide
  apply trim_eq_self
  rw [placedText_eq]
  constructor
  · intro char first
    apply catalog.trimmed.1 char
    rwa [List.head?_append_of_ne_nil _ catalog.1] at first
  · apply getLast?_append_separator delimiter visible
    apply getLast?_append_separator delimiter visible
    exact getLast?_append_separator delimiter visible _ _ last

theorem segments_placedText (name : Name) (formed : name.WellFormed)
    (uncut : ∀ level ∈ [Level.catalog, .database, .table], ∀ segment,
      name.get? level = some segment → delimiter ∉ segment) :
    segments name.placedText = name.places := by
  have undivided : ∀ level ∈ [Level.catalog, .database, .table],
      delimiter ∉ (name.get? level).getD [] := by
    intro level outer
    cases stored : name.get? level with
    | none => exact List.not_mem_nil
    | some segment => exact uncut level outer segment stored
  rw [segments, formed.trim_placedText]
  apply splitAtMost_join delimiter 3 name.places (List.cons_ne_nil _ _) (Nat.le_refl 4)
  intro segment early
  simp only [places, List.take_succ_cons, List.take_zero, List.mem_cons, List.not_mem_nil,
    or_false] at early
  rcases early with rfl | rfl | rfl
  · exact undivided .catalog (by decide)
  · exact undivided .database (by decide)
  · exact undivided .table (by decide)

/-- The last place goes to the level that the name has there. -/
theorem Writable.last_place {name : Name} {reading : Reading} (writable : name.Writable reading)
    (formed : name.WellFormed) :
    Level.partition.stored? ((Draft.ofSegments reading name.places).partition) = name.partition ∧
      Level.view.stored? ((Draft.ofSegments reading name.places).view) = name.view := by
  have place : name.places[3]? = some ((name.partition.or name.view).getD []) := rfl
  have keptPartition := formed.stores .partition
  have keptView := formed.stores .view
  simp only [Draft.ofSegments, place]
  cases partition : name.partition with
  | some segment =>
      have view : name.view = none := writable.single.resolve_left (by simp [partition])
      have kind := writable.partition segment partition
      simp [view, Option.filter, kind, (keptPartition segment partition).stored?, Level.stored?_none]
  | none =>
      cases view : name.view with
      | some segment =>
          have kind := writable.view segment view
          simp [Option.filter, kind, (keptView segment view).stored?, Level.stored?_none]
      | none =>
          have kind : reading.readsAsView [] = true := by cases reading <;> rfl
          simp [Option.filter, kind, Level.stored?_nil, Level.stored?_none]

theorem parse_placedText (name : Name) (reading : Reading) (formed : name.WellFormed)
    (writable : name.Writable reading) : parse name.placedText reading = .ok name := by
  have filled : name.placedText.trim ≠ [] := by
    rw [formed.trim_placedText, placedText_eq]
    simp
  rw [parse_eq_check name.placedText reading filled, segments_placedText name formed writable.uncut,
    Draft.check_eq_ok_iff]
  refine ⟨?_, formed.supported⟩
  intro level
  cases level with
  | catalog => exact (formed.stores .catalog name.catalog rfl).stored?.symm
  | database => exact (Level.stored?_getD .database _ (formed.stores .database)).symm
  | table => exact (Level.stored?_getD .table _ (formed.stores .table)).symm
  | partition => exact (writable.last_place formed).1.symm
  | view => exact (writable.last_place formed).2.symm

theorem writable_iff (reading : Reading) (name : Name) : name.Writable reading ↔
    (∀ level ∈ [Level.catalog, .database, .table], ∀ segment,
      name.get? level = some segment → delimiter ∉ segment) ∧
    (name.partition = none ∨ name.view = none) ∧
    (∀ partition, name.partition = some partition → reading = .heuristic ∧ '=' ∈ partition) ∧
    ∀ view, name.view = some view → reading = .preferView ∨ '=' ∉ view := by
  simp only [← reading.readsAsView_iff, ← reading.not_readsAsView_iff]
  constructor
  · intro writable
    exact ⟨writable.uncut, writable.single, writable.partition, writable.view⟩
  · intro conditions
    obtain ⟨uncut, single, partition, view⟩ := conditions
    exact ⟨uncut, partition, view, single⟩

/-- Some text stands for a name exactly if no outer segment holds a delimiter, the name does not have a
partition and a view at once, and the one it has is of the kind that the reading takes it for. -/
theorem exists_parse_iff (name : Name) (reading : Reading) (constructed : Constructed name) :
    (∃ raw, parse raw reading = .ok name) ↔
      (∀ level ∈ [Level.catalog, .database, .table], ∀ segment,
        name.get? level = some segment → delimiter ∉ segment) ∧
      (name.partition = none ∨ name.view = none) ∧
      (∀ partition, name.partition = some partition → reading = .heuristic ∧ '=' ∈ partition) ∧
      ∀ view, name.view = some view → reading = .preferView ∨ '=' ∉ view := by
  rw [← writable_iff]
  constructor
  · intro written
    obtain ⟨raw, read⟩ := written
    exact writable_of_parse raw reading name read
  · intro writable
    exact ⟨name.placedText, parse_placedText name reading constructed.wellFormed writable⟩

/-- A view below a catalog can be written, although its canonical text is refused. -/
theorem exists_parse_iff_at_lone_view :
    let name : Name := ⟨['c'], none, none, none, some ['/', 'v']⟩
    Constructed name ∧ ((∃ raw, parse raw .heuristic = .ok name) ↔
      (∀ level ∈ [Level.catalog, .database, .table], ∀ segment,
        name.get? level = some segment → delimiter ∉ segment) ∧
      (name.partition = none ∨ name.view = none) ∧
      (∀ partition, name.partition = some partition →
        Reading.heuristic = .heuristic ∧ '=' ∈ partition) ∧
      ∀ view, name.view = some view → Reading.heuristic = .preferView ∨ '=' ∉ view) :=
  have constructed := .ofSource ([(Level.catalog.field, " C".toList),
    (Level.view.field, "/V ".toList)] : Fields Text) rfl
  ⟨constructed, exists_parse_iff _ .heuristic constructed⟩

end CatalogNames.Name
