import CatalogNames.Proofs.Name.Construction

/-! Which names can be read back from their own text. The text of a well-formed name is trimmed, so it is
cut again where its segments were joined, provided that no outer segment holds a delimiter and no level
is skipped. Otherwise some segment read back is shorter than the one that was written. -/

namespace CatalogNames.Name
open Text

/-- The segments that are present, outermost first. -/
def present (name : Name) : List Text := name.levels.map Prod.snd

theorem mem_present (name : Name) (segment : Text) (found : segment ∈ name.present) :
    ∃ level, name.get? level = some segment := by
  obtain ⟨⟨level, _⟩, listed, rfl⟩ := List.mem_map.mp found
  exact ⟨level, (name.mem_levels_iff level _).mp listed⟩

theorem present_ne_nil (name : Name) : name.present ≠ [] := by
  simp [present, levels, Level.all, get?]

theorem WellFormed.stores_present {name : Name} (formed : name.WellFormed) (segment : Text)
    (found : segment ∈ name.present) : segment ≠ [] ∧ Trimmed segment := by
  obtain ⟨level, stored⟩ := mem_present name segment found
  have stores := formed.stores level segment stored
  exact ⟨stores.1, stores.trimmed⟩

theorem WellFormed.trim_text {name : Name} (formed : name.WellFormed) : name.text.trim = name.text :=
  trim_eq_self _ (trimmed_join delimiter name.present (present_ne_nil name)
    (fun segment found => (formed.stores_present segment found).1)
    fun segment found => (formed.stores_present segment found).2)

theorem WellFormed.text_ne_nil {name : Name} (formed : name.WellFormed) : name.text ≠ [] :=
  join_ne_nil delimiter name.present (present_ne_nil name)
    fun segment found => (formed.stores_present segment found).1

/-- The name has no level below a missing one, nor two levels below its table. -/
structure Unbroken (name : Name) : Prop where
  table : name.table.isSome → name.database.isSome
  partition : name.partition.isSome → name.table.isSome
  view : name.view.isSome → name.table.isSome
  single : name.partition = none ∨ name.view = none

/-- Only a view may break a well-formed name. -/
theorem WellFormed.unbroken {name : Name} (formed : name.WellFormed)
    (single : name.partition = none ∨ name.view = none)
    (view : name.view.isSome → name.table.isSome) : name.Unbroken := by
  have supported := (orphan?_eq_none_iff name).mp formed.supported
  exact ⟨supported.1, fun has => (supported.2 has).2, view, single⟩

/-- The levels of an unbroken name are the first ones in a row. -/
theorem Unbroken.cases {name : Name} (unbroken : name.Unbroken) :
    (∃ c, name = ⟨c, none, none, none, none⟩) ∨ (∃ c d, name = ⟨c, some d, none, none, none⟩) ∨
      (∃ c d t, name = ⟨c, some d, some t, none, none⟩) ∨
      (∃ c d t p, name = ⟨c, some d, some t, some p, none⟩) ∨
      ∃ c d t v, name = ⟨c, some d, some t, none, some v⟩ := by
  obtain ⟨table, partition, view, single⟩ := unbroken
  obtain ⟨c, d, t, p, v⟩ := name
  cases d <;> cases t <;> cases p <;> cases v <;> simp_all

theorem Unbroken.length_present_le {name : Name} (unbroken : name.Unbroken) :
    name.present.length ≤ 4 := by
  rcases unbroken.cases with ⟨_, rfl⟩ | ⟨_, _, rfl⟩ | ⟨_, _, _, rfl⟩ | ⟨_, _, _, _, rfl⟩ |
    ⟨_, _, _, _, rfl⟩ <;> simp [present, levels, Level.all, get?]

/-- The first three segments of an unbroken name are those of its outer levels. -/
theorem Unbroken.outer_of_mem_take {name : Name} (unbroken : name.Unbroken) (segment : Text)
    (early : segment ∈ name.present.take 3) :
    ∃ level ∈ [Level.catalog, .database, .table], name.get? level = some segment := by
  rcases unbroken.cases with ⟨_, rfl⟩ | ⟨_, _, rfl⟩ | ⟨_, _, _, rfl⟩ | ⟨_, _, _, _, rfl⟩ |
    ⟨_, _, _, _, rfl⟩ <;> simpa [present, levels, Level.all, get?, eq_comm] using early

/-- A name whose outer segments hold no delimiter is cut where it was joined. -/
theorem segments_text (name : Name) (formed : name.WellFormed) (unbroken : name.Unbroken)
    (uncut : ∀ level ∈ [Level.catalog, .database, .table], ∀ segment,
      name.get? level = some segment → delimiter ∉ segment) : segments name.text = name.present := by
  rw [segments, formed.trim_text]
  apply splitAtMost_join delimiter 3 name.present (present_ne_nil name) unbroken.length_present_le
  intro segment early
  obtain ⟨level, outer, stored⟩ := unbroken.outer_of_mem_take segment early
  exact uncut level outer segment stored

theorem ofSegments_present (name : Name) (reading : Reading) (unbroken : name.Unbroken)
    (writable : name.Writable reading) : Draft.ofSegments reading name.present = name.draft := by
  have partition := writable.partition
  have view := writable.view
  rcases unbroken.cases with ⟨_, rfl⟩ | ⟨_, _, rfl⟩ | ⟨_, _, _, rfl⟩ | ⟨_, _, _, _, rfl⟩ |
    ⟨_, _, _, _, rfl⟩ <;> simp_all [Draft.ofSegments, draft, present, levels, Level.all, get?,
      Option.filter]

theorem parse_text (name : Name) (reading : Reading) (formed : name.WellFormed)
    (unbroken : name.Unbroken) (writable : name.Writable reading) :
    parse name.text reading = .ok name := by
  have filled : name.text.trim ≠ [] := formed.trim_text.symm ▸ formed.text_ne_nil
  calc
    parse name.text reading = (Draft.ofSegments reading (segments name.text)).check :=
      parse_eq_check name.text reading filled
    _ = (Draft.ofSegments reading name.present).check := by
      rw [segments_text name formed unbroken writable.uncut]
    _ = name.draft.check := by rw [ofSegments_present name reading unbroken writable]
    _ = .ok name := formed.check_draft

theorem length_of_segments (text first second third last : Text) (trimmed : text.trim = text)
    (cut : segments text = [first, second, third, last]) :
    text.length = first.length + second.length + third.length + last.length + 3 := by
  have joined : join delimiter [first, second, third, last] = text := by
    rw [← cut, join_segments, trimmed]
  have lengths := length_join delimiter [first, second, third, last] (List.cons_ne_nil _ _)
  rw [joined] at lengths
  simp only [List.map_cons, List.map_nil, List.sum_cons, List.sum_nil, List.length_cons,
    List.length_nil] at lengths
  omega

/-- A view that is read back stands in a fourth segment. If the table were missing, fewer segments would
have been written than are read, and one of those would have to be longer than what it stands for. -/
theorem table_of_parse_text (name : Name) (reading : Reading) (formed : name.WellFormed)
    (read : parse name.text reading = .ok name) (view : Text) (viewed : name.view = some view) :
    name.table.isSome := by
  by_contra missing
  have table : name.table = none := by simpa using missing
  have partition : name.partition = none := by
    have supported := ((orphan?_eq_none_iff name).mp formed.supported).2
    simpa [has, get?, table] using supported
  obtain ⟨last, found, lastNormal⟩ := given_of_parse name.text reading name read .view view viewed
  obtain ⟨first, second, third, cut⟩ :=
    segments_of_fourth name.text last (Option.filter_eq_some_iff.mp found).1
  have viewLength := lastNormal ▸ Level.view.length_normalize_le last
  have catalogLength : name.catalog.length ≤ first.length :=
    length_le_of_parse name.text reading name read .catalog (by decide) _ first rfl (by rw [cut]; rfl)
  have parts := length_of_segments name.text first second third last formed.trim_text cut
  have written := length_join delimiter name.present (present_ne_nil name)
  change name.text.length + 1 = _ at written
  cases database : name.database with
  | none =>
      have two : name.present = [name.catalog, view] := by
        simp [present, levels, Level.all, get?, database, table, partition, viewed]
      simp only [two, List.map_cons, List.map_nil, List.sum_cons, List.sum_nil,
        List.length_cons, List.length_nil] at written
      omega
  | some text =>
      have three : name.present = [name.catalog, text, view] := by
        simp [present, levels, Level.all, get?, database, table, partition, viewed]
      have databaseLength : text.length ≤ second.length :=
        length_le_of_parse name.text reading name read .database (by decide) text second database
          (by rw [cut]; rfl)
      simp only [three, List.map_cons, List.map_nil, List.sum_cons, List.sum_nil,
        List.length_cons, List.length_nil] at written
      omega

/-- A name is read back from its text exactly if no outer segment holds a delimiter, a partition is one
that the reading takes for a partition and has no view beside it, and a view has its table, no partition
beside it and is one that the reading takes for a view. -/
theorem parse_text_iff (name : Name) (reading : Reading) (constructed : Constructed name) :
    parse name.text reading = .ok name ↔
      (∀ level ∈ [Level.catalog, .database, .table], ∀ segment,
        name.get? level = some segment → delimiter ∉ segment) ∧
      (∀ partition, name.partition = some partition →
        reading = .heuristic ∧ '=' ∈ partition ∧ name.view = none) ∧
      ∀ view, name.view = some view →
        name.table.isSome ∧ name.partition = none ∧ (reading = .preferView ∨ '=' ∉ view) := by
  have formed := constructed.wellFormed
  constructor
  · intro read
    have writable := writable_of_parse name.text reading name read
    refine ⟨writable.uncut, ?_, ?_⟩
    · intro partition stored
      have kind := (reading.not_readsAsView_iff partition).mp (writable.partition partition stored)
      exact ⟨kind.1, kind.2, writable.single.resolve_left (by simp [stored])⟩
    · intro view stored
      have kind := (reading.readsAsView_iff view).mp (writable.view view stored)
      have table := table_of_parse_text name reading formed read view stored
      exact ⟨table, writable.single.resolve_right (by simp [stored]), kind⟩
  · intro conditions
    obtain ⟨uncut, partition, view⟩ := conditions
    have single : name.partition = none ∨ name.view = none := by
      cases stored : name.partition with
      | none => exact .inl rfl
      | some segment => exact .inr (partition segment stored).2.2
    have supported := (orphan?_eq_none_iff name).mp formed.supported
    apply parse_text name reading formed
    · refine ⟨supported.1, fun has => (supported.2 has).2, ?_, single⟩
      intro has
      obtain ⟨segment, stored⟩ := Option.isSome_iff_exists.mp has
      exact (view segment stored).1
    · refine ⟨uncut, ?_, ?_, single⟩
      · intro segment stored
        obtain ⟨heuristic, assigns, -⟩ := partition segment stored
        exact (reading.not_readsAsView_iff segment).mpr ⟨heuristic, assigns⟩
      · intro segment stored
        exact (reading.readsAsView_iff segment).mpr (view segment stored).2.2

theorem parse_text_iff_at_partition :
    let name : Name := ⟨['c'], some ['d'], some ['t'], some ['P', '=', '/', 'x'], none⟩
    Constructed name ∧ (parse name.text .heuristic = .ok name ↔
      (∀ level ∈ [Level.catalog, .database, .table], ∀ segment,
        name.get? level = some segment → delimiter ∉ segment) ∧
      (∀ partition, name.partition = some partition →
        Reading.heuristic = .heuristic ∧ '=' ∈ partition ∧ name.view = none) ∧
      ∀ view, name.view = some view →
        name.table.isSome ∧ name.partition = none ∧ (Reading.heuristic = .preferView ∨ '=' ∉ view)) :=
  have constructed := .composed (.parse "C/d/t/P=/x ".toList .heuristic rfl)
  ⟨constructed, parse_text_iff _ .heuristic constructed⟩

end CatalogNames.Name
