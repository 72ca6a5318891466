import CatalogNames.Proofs.Name.RoundTrip

/-! Reading the canonical text of a name that was read before. The text is cut into segments again, and
reading it drops the empty ones and the blanks at the ends of the others. So the canonical text of a name
is its own canonical text exactly if there is nothing to drop. Only a view that skips its table can hold
delimiters that make such segments. -/

namespace CatalogNames.Name
open Text

theorem mem_of_get?_ofSegments (reading : Reading) (parts : List Text) (nonempty : parts ≠ [])
    (level : Level) (segment : Text)
    (given : (Draft.ofSegments reading parts).get? level = some segment) : segment ∈ parts := by
  obtain ⟨first, rest, rfl⟩ := List.exists_cons_of_ne_nil nonempty
  cases level with
  | catalog =>
      cases given
      exact List.mem_cons_self
  | database => exact List.mem_of_getElem? given
  | table => exact List.mem_of_getElem? given
  | partition => exact List.mem_of_getElem? (Option.filter_eq_some_iff.mp given).1
  | view => exact List.mem_of_getElem? (Option.filter_eq_some_iff.mp given).1

/-- Segments in a row are those of the levels that are present, and no level lacks one above it. -/
theorem ofSegments_row (reading : Reading) (parts : List Text) (nonempty : parts ≠ [])
    (few : parts.length ≤ 4) : (Draft.ofSegments reading parts).name.present = parts ∧
      (Draft.ofSegments reading parts).name.orphan? = none := by
  rcases parts with _ | ⟨catalog, _ | ⟨database, _ | ⟨table, _ | ⟨last, _ | ⟨extra, more⟩⟩⟩⟩⟩
  · contradiction
  · exact ⟨rfl, rfl⟩
  · exact ⟨rfl, rfl⟩
  · exact ⟨rfl, rfl⟩
  · cases kind : reading.readsAsView last <;>
      simp [Draft.ofSegments, Draft.name, present, levels, Level.all, get?, orphan?_eq_none_iff, has,
        Option.filter, kind]
  · simp only [List.length_cons] at few
    omega

/-- A text whose segments may stand at any level is read as it stands. -/
theorem parse_of_stores (raw : Text) (reading : Reading) (filled : raw.trim ≠ [])
    (stores : ∀ part ∈ segments raw, ∀ level : Level, level.Stores part) :
    ∃ name, parse raw reading = .ok name ∧ name.text = raw.trim := by
  have nonempty : segments raw ≠ [] := splitAtMost_ne_nil delimiter 3 raw.trim
  obtain ⟨row, supported⟩ :=
    ofSegments_row reading (segments raw) nonempty (length_splitAtMost_le delimiter 3 raw.trim)
  refine ⟨(Draft.ofSegments reading (segments raw)).name, ?_, ?_⟩
  · rw [parse_eq_check raw reading filled]
    apply Draft.check_of_stores _ _ supported
    intro level segment given
    exact stores segment (mem_of_get?_ofSegments reading _ nonempty level segment given) level
  · change join delimiter (Draft.ofSegments reading (segments raw)).name.present = raw.trim
    rw [row, join_segments]

/-- Only a partition may bring upper case letters into the text of a name. -/
theorem WellFormed.fold_text {name : Name} (formed : name.WellFormed)
    (absent : name.partition = none) : fold name.text = name.text := by
  rw [fold_eq_self_iff]
  intro char found
  change char ∈ join delimiter name.present at found
  rcases (mem_join_iff delimiter name.present char).mp found with inner | ⟨same, -⟩
  · obtain ⟨segment, member, inside⟩ := inner
    obtain ⟨level, stored⟩ := mem_present name segment member
    have folds : level.foldsCase = true := by
      cases level with
      | partition => simp [get?, absent] at stored
      | _ => rfl
    have folded := (formed.stores level segment stored).folded folds
    exact (fold_eq_self_iff segment).mp folded char inside
  · subst same
    decide

/-- The segments of a text hold no characters but those of the text. -/
theorem fold_segment (text part : Text) (trimmed : text.trim = text) (folded : fold text = text)
    (member : part ∈ segments text) : fold part = part := by
  rw [fold_eq_self_iff] at folded ⊢
  intro char found
  apply folded char
  rw [← trimmed, ← join_segments, mem_join_iff]
  exact .inl ⟨part, member, found⟩

/-- No level is missing above another one in a name that is read from its own text. -/
theorem unbroken_of_parse_text (name : Name) (reading : Reading) (formed : name.WellFormed)
    (read : parse name.text reading = .ok name) : name.Unbroken := by
  apply formed.unbroken (writable_of_parse name.text reading name read).single
  intro has
  obtain ⟨view, stored⟩ := Option.isSome_iff_exists.mp has
  exact table_of_parse_text name reading formed read view stored

/-- What is read from a canonical text and has that text for its own is read from its own text, so its
segments are those that the text is cut into. -/
theorem filled_of_parse_again (name other : Name) (reading : Reading)
    (again : parse name.text reading = .ok other) (stable : other.text = name.text) :
    ∀ part ∈ segments name.text, part ≠ [] ∧ Trimmed part := by
  have own : parse other.text reading = .ok other := stable ▸ again
  have formed := (Composed.parse name.text reading again).wellFormed
  have unbroken := unbroken_of_parse_text other reading formed own
  have uncut := (writable_of_parse other.text reading other own).uncut
  rw [← stable, segments_text other formed unbroken uncut]
  exact formed.stores_present

/-- The canonical text of a name that was read is its own canonical text exactly if no segment of it is
empty or has a blank at an end. A name without a view, or with a table, is read again itself. -/
theorem canonical_again_iff (raw : Text) (reading : Reading) (name : Name)
    (read : parse raw reading = .ok name) :
    ((∃ other, parse name.text reading = .ok other ∧ other.text = name.text) ↔
      ∀ part ∈ segments name.text, part ≠ [] ∧ Trimmed part) ∧
    (name.view = none ∨ name.table.isSome → parse name.text reading = .ok name) := by
  have formed := (Composed.parse raw reading read).wellFormed
  have writable := writable_of_parse raw reading name read
  have same : name.view = none ∨ name.table.isSome → parse name.text reading = .ok name := by
    intro below
    have unbroken : name.Unbroken := by
      apply formed.unbroken writable.single
      intro has
      exact below.resolve_left (Option.isSome_iff_ne_none.mp has)
    exact parse_text name reading formed unbroken writable
  refine ⟨⟨?_, ?_⟩, same⟩
  · intro again
    obtain ⟨other, again, stable⟩ := again
    exact filled_of_parse_again name other reading again stable
  · intro kept
    cases partition : name.partition with
    | some segment =>
        have supported := ((orphan?_eq_none_iff name).mp formed.supported).2
        have table : name.has .table := (supported (by simp [has, get?, partition])).2
        exact ⟨name, same (.inr table), rfl⟩
    | none =>
        have filled : name.text.trim ≠ [] := formed.trim_text.symm ▸ formed.text_ne_nil
        have stores : ∀ part ∈ segments name.text, ∀ level : Level, level.Stores part := by
          intro part member level
          have folded := fold_segment name.text part formed.trim_text (formed.fold_text partition) member
          exact level.stores_of_folded part (kept part member).1 (kept part member).2 folded
        obtain ⟨other, again, whole⟩ := parse_of_stores name.text reading filled stores
        exact ⟨other, again, whole.trans formed.trim_text⟩

/-- A view without a table whose text is read as a table. -/
theorem canonical_again_iff_at_lone_view :
    let name : Name := ⟨['c'], none, none, none, some ['v', '/', 'w']⟩
    parse "C///V/w".toList .heuristic = .ok name ∧
      ((∃ other, parse name.text .heuristic = .ok other ∧ other.text = name.text) ↔
        ∀ part ∈ segments name.text, part ≠ [] ∧ Trimmed part) ∧
      (name.view = none ∨ name.table.isSome → parse name.text .heuristic = .ok name) :=
  ⟨rfl, canonical_again_iff "C///V/w".toList .heuristic _ rfl⟩

/-- The canonical text of a name that was read may be refused, or may have another canonical text. -/
theorem canonical_text_not_stable :
    (∃ name, parse "c////v".toList .heuristic = .ok name ∧
      parse name.text .heuristic = .error (.orphan .database .table)) ∧
    ∃ name other, parse "c////".toList .heuristic = .ok name ∧
      parse name.text .heuristic = .ok other ∧ other.text ≠ name.text :=
  ⟨⟨⟨['c'], none, none, none, some ['/', 'v']⟩, rfl, rfl⟩,
    ⟨['c'], none, none, none, some ['/']⟩, ⟨['c'], none, none, none, none⟩, rfl, rfl, by decide⟩

end CatalogNames.Name
