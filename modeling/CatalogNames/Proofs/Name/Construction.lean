import CatalogNames.Descriptor
import CatalogNames.Proofs.Name.Written

/-! Every way of making a name ends in the check of a draft, so every name is well formed. Segments and
written names never give a partition and a view at once. A source that is read level by level may. -/

namespace CatalogNames

section
variable {ε δ α β : Type}

theorem bind_eq_ok_iff (result : Except ε α) (next : α → Except ε β) (value : β) :
    (result >>= next) = .ok value ↔ ∃ first, result = .ok first ∧ next first = .ok value := by
  cases result with
  | error error => simp [bind, Except.bind]
  | ok first => simp [bind, Except.bind]

theorem mapError_eq_ok_iff (result : Except ε α) (convert : ε → δ) (value : α) :
    result.mapError convert = .ok value ↔ result = .ok value := by
  cases result with
  | error error => simp [Except.mapError]
  | ok first => simp [Except.mapError]

end

namespace Name

/-- Names made of segments that are given one by one, taken from another name or cut out of a text. -/
inductive Composed (name : Name) : Prop where
  | ofCatalog (catalog : Text) (made : ofCatalog catalog = .ok name)
  | ofDatabase (catalog database : Text) (made : ofDatabase catalog database = .ok name)
  | ofTable (catalog database table : Text) (made : ofTable catalog database table = .ok name)
  | ofPartition (catalog database table partition : Text)
      (made : ofPartition catalog database table partition = .ok name)
  | ofView (catalog database table view : Text)
      (made : ofView catalog database table view = .ok name)
  | child (parent : Name) (level : Level) (segment : Text)
      (made : parent.child level segment = .ok name)
  | placeIn (descriptor : Descriptor) (table : Name) (made : descriptor.placeIn table = .ok name)
  | parse (raw : Text) (reading : Reading) (made : parse raw reading = .ok name)

/-- Names that the library gives: composed ones and those that stand in a source or in JSON. -/
inductive Constructed (name : Name) : Prop where
  | composed (composed : Composed name)
  | ofSource {σ : Type} [Source σ] (source : σ) (made : ofSource source = .ok name)
  | decode (json : Json) (made : decode json = .ok name)
  | ofJsonText (text : Text) (made : ofJsonText text = .ok name)

/-- The name comes out of a draft without a partition or without a view. -/
def OfSingle (name : Name) : Prop :=
  ∃ draft : Draft, (draft.partition = none ∨ draft.view = none) ∧ draft.check = .ok name

theorem ofSingle_child (parent name : Name) (level : Level) (segment : Text)
    (made : parent.child level segment = .ok name) : name.OfSingle := by
  cases level with
  | catalog => exact ⟨_, .inl rfl, made⟩
  | database => exact ⟨_, .inl rfl, made⟩
  | table =>
      obtain ⟨database, -, built⟩ := (bind_eq_ok_iff _ _ name).mp made
      exact ⟨_, .inl rfl, built⟩
  | partition =>
      obtain ⟨database, -, later⟩ := (bind_eq_ok_iff _ _ name).mp made
      obtain ⟨table, -, built⟩ := (bind_eq_ok_iff _ _ name).mp later
      exact ⟨_, .inr rfl, built⟩
  | view =>
      obtain ⟨database, -, later⟩ := (bind_eq_ok_iff _ _ name).mp made
      obtain ⟨table, -, built⟩ := (bind_eq_ok_iff _ _ name).mp later
      exact ⟨_, .inl rfl, built⟩

theorem Composed.ofSingle {name : Name} (composed : Composed name) : name.OfSingle := by
  cases composed with
  | ofCatalog catalog made => exact ⟨_, .inl rfl, made⟩
  | ofDatabase catalog database made => exact ⟨_, .inl rfl, made⟩
  | ofTable catalog database table made => exact ⟨_, .inl rfl, made⟩
  | ofPartition catalog database table partition made => exact ⟨_, .inr rfl, made⟩
  | ofView catalog database table view made => exact ⟨_, .inl rfl, made⟩
  | child parent level segment made => exact ofSingle_child parent name level segment made
  | placeIn descriptor table made =>
      obtain ⟨partition, -, built⟩ := (bind_eq_ok_iff _ _ name).mp made
      exact ⟨_, .inr rfl, built⟩
  | parse raw reading made =>
      obtain ⟨-, passed⟩ := (parse_eq_ok_iff raw reading name).mp made
      exact ⟨_, Draft.single_ofSegments reading (segments raw), passed⟩

theorem Composed.wellFormed {name : Name} (composed : Composed name) : name.WellFormed := by
  obtain ⟨draft, -, passed⟩ := composed.ofSingle
  exact wellFormed_of_check draft name passed

/-- A source without a catalog is read by its whole name. -/
theorem ofSource_whole {σ : Type} [Source σ] (source : σ) (name : Name)
    (absent : Source.text? source Level.catalog.field = none) (made : ofSource source = .ok name) :
    ∃ whole, Source.text? source wholeField = some whole ∧ parse whole .heuristic = .ok name := by
  rw [ofSource, absent] at made
  cases whole : Source.text? source wholeField with
  | none => simp [whole] at made
  | some text =>
      rw [whole] at made
      exact ⟨text, rfl, made⟩

theorem wellFormed_ofSource {σ : Type} [Source σ] (source : σ) (name : Name)
    (made : ofSource source = .ok name) : name.WellFormed := by
  cases catalog : Source.text? source Level.catalog.field with
  | none =>
      obtain ⟨whole, -, read⟩ := ofSource_whole source name catalog made
      exact (Composed.parse whole .heuristic read).wellFormed
  | some text =>
      rw [ofSource, catalog] at made
      exact wellFormed_of_check _ name made

theorem decode_eq_ok_iff (json : Json) (name : Name) :
    decode json = .ok name ↔ ofSource json = .ok name :=
  mapError_eq_ok_iff (ofSource json) DecodeError.name name

theorem decode_of_ofJsonText (text : Text) (name : Name) (made : ofJsonText text = .ok name) :
    ∃ json, decode json = .ok name := by
  unfold ofJsonText at made
  split at made
  next => contradiction
  next json rest read =>
    split at made
    next => contradiction
    next other decoded =>
      split at made
      next =>
        cases made
        exact ⟨json, decoded⟩
      next => contradiction

theorem Constructed.wellFormed {name : Name} (constructed : Constructed name) : name.WellFormed := by
  cases constructed with
  | composed composed => exact composed.wellFormed
  | ofSource source made => exact wellFormed_ofSource source name made
  | decode json made =>
      exact wellFormed_ofSource json name ((decode_eq_ok_iff json name).mp made)
  | ofJsonText text made =>
      obtain ⟨json, decoded⟩ := decode_of_ofJsonText text name made
      exact wellFormed_ofSource json name ((decode_eq_ok_iff json name).mp decoded)

/-- A name as the levels are documented: each one below the catalog stands inside the one above it, and
a table holds partitions or views, so that no name ends in both. -/
def Hierarchical (name : Name) : Prop :=
  (name.has .table → name.has .database) ∧
    (name.has .partition ∨ name.has .view → name.has .database ∧ name.has .table) ∧
    ¬(name.has .partition ∧ name.has .view)

instance (name : Name) : Decidable name.Hierarchical := inferInstanceAs (Decidable (_ ∧ _ ∧ _))

/-- A written name may skip the levels between its catalog and its view, and a source may hold both a
partition and a view. -/
theorem not_hierarchical :
    (∃ name, parse "c///v".toList .heuristic = .ok name ∧ ¬name.Hierarchical) ∧
      ∃ name, ofSource ([(Level.catalog.field, ['c']), (Level.database.field, ['d']),
        (Level.partition.field, ['p']), (Level.table.field, ['t']), (Level.view.field, ['v'])] :
          Fields Text) = .ok name ∧ ¬name.Hierarchical :=
  ⟨⟨⟨['c'], none, none, none, some ['v']⟩, rfl, by decide⟩,
    ⟨⟨['c'], some ['d'], some ['t'], some ['p'], some ['v']⟩, rfl, by decide⟩⟩

/-- Tables and partitions always stand inside the levels above them, and a partition goes together with a
view only in a name that is read level by level from a source. -/
theorem levels_of_constructed (name : Name) (constructed : Constructed name) :
    (name.has .table → name.has .database) ∧
      (name.has .partition → name.has .database ∧ name.has .table) ∧
      (name.has .partition ∧ name.has .view → ¬Composed name) := by
  obtain ⟨table, partition⟩ := (orphan?_eq_none_iff name).mp constructed.wellFormed.supported
  refine ⟨table, partition, ?_⟩
  intro both composed
  obtain ⟨hasPartition, hasView⟩ := both
  obtain ⟨draft, single, passed⟩ := composed.ofSingle
  rcases single_of_check draft name passed single with absent | absent
  · simp [has, get?, absent] at hasPartition
  · simp [has, get?, absent] at hasView

/-- A partition that is written has its table and database, and a source with both a partition and a view
gives a name that cannot be composed. -/
theorem levels_of_written_partition :
    let written : Name := ⟨['c'], some ['d'], some ['t'], some ['P', '=', '1'], none⟩
    let double : Name := ⟨['c'], some ['d'], some ['t'], some ['p'], some ['v']⟩
    Constructed written ∧ (written.has .database ∧ written.has .table) ∧
      Constructed double ∧ ¬Composed double :=
  let source : Fields Text := [(Level.catalog.field, ['c']), (Level.database.field, ['d']),
    (Level.partition.field, ['p']), (Level.table.field, ['t']), (Level.view.field, ['v'])]
  have written := .composed (.parse " C/d/t/ P=1".toList .heuristic rfl)
  have double := .ofSource source rfl
  ⟨written, (levels_of_constructed _ written).2.1 rfl, double,
    (levels_of_constructed _ double).2.2 ⟨rfl, rfl⟩⟩

end Name

end CatalogNames
