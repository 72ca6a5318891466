import CatalogNames.Proofs.Name.Checks
import CatalogNames.Proofs.Name.Record

/-! What becomes of a source. Only its texts count: those under the fields of the levels if there is one for
the catalog, blank or not, and that of the whole name if there is none. So every kind of source gives the
same result for the same texts, and a JSON object is as good as a map of its texts. -/

namespace CatalogNames

theorem Fields.getElem?_hashMap {α : Type} [Hashable Text] (fields : Fields α)
    (separate : (fields.map Prod.fst).Nodup) (key : Text) :
    (Std.HashMap.ofList fields)[key]? = fields.get? key := by
  cases found : fields.get? key with
  | some value =>
      have distinct : fields.Pairwise fun first second => (first.1 == second.1) = false :=
        (List.pairwise_map.mp separate).imp beq_eq_false_iff_ne.mpr
      exact Std.HashMap.getElem?_ofList_of_mem (beq_self_eq_true key) distinct
        ((get?_eq_some_iff fields separate key value).mp found)
  | none =>
      apply Std.HashMap.getElem?_ofList_of_contains_eq_false
      rw [Bool.eq_false_iff, ne_eq, List.contains_iff_mem, List.mem_map]
      intro held
      obtain ⟨field, member, rfl⟩ := held
      rw [(get?_eq_some_iff fields separate field.1 field.2).mpr member] at found
      contradiction

namespace Json

def keys : Json → List Text
  | .object fields => fields.map Prod.fst
  | _ => []

/-- The texts in the fields of an object, under the same keys. -/
def texts (json : Json) : Fields Text :=
  Fields.ofList (json.keys.filterMap fun key =>
    ((json.get? key).bind text?).map fun text => (key, text))

theorem get?_of_not_mem_keys (json : Json) (key : Text) (absent : key ∉ json.keys) :
    json.get? key = none := by
  cases json with
  | object fields => exact Fields.get?_of_not_mem fields key absent
  | _ => rfl

theorem get?_texts (json : Json) (key : Text) :
    json.texts.get? key = (json.get? key).bind text? := by
  have held := Fields.get?_filterMap id Function.injective_id (fun key => (json.get? key).bind text?)
    json.keys.reverse key
  rw [texts, Fields.get?_ofList, ← List.filterMap_reverse]
  refine held.trans ?_
  split
  next => rfl
  next absent =>
    rw [List.mem_reverse] at absent
    rw [json.get?_of_not_mem_keys key absent]
    rfl

theorem nodup_texts (json : Json) : (json.texts.map Prod.fst).Nodup :=
  Fields.nodup_of_ascending _ (Fields.ascending_ofList _)

theorem mem_texts_iff (json : Json) (key text : Text) :
    (key, text) ∈ json.texts ↔ json.get? key = some (.string text) := by
  rw [← Fields.get?_eq_some_iff json.texts json.nodup_texts, get?_texts, Option.bind_eq_some_iff]
  constructor
  · intro held
    obtain ⟨value, found, textual⟩ := held
    cases value with
    | string other =>
        cases textual
        exact found
    | _ => contradiction
  · intro held
    exact ⟨.string text, held, rfl⟩

end Json

namespace Name
open Text

/-- The text that a source gives for a level. -/
def given {σ : Type} [Source σ] (source : σ) (level : Level) : Option Text :=
  Source.text? source level.field

/-- A source is known by its texts. -/
theorem ofSource_congr {σ τ : Type} [Source σ] [Source τ] (first : σ) (second : τ)
    (same : ∀ key, Source.text? first key = Source.text? second key) :
    ofSource first = ofSource second := by
  simp only [ofSource, same]

theorem ofSource_eq_check {σ : Type} [Source σ] (source : σ) (present : given source .catalog ≠ none) :
    ∃ draft : Draft, (∀ level, draft.get? level = given source level) ∧
      ofSource source = draft.check := by
  obtain ⟨catalog, found⟩ := Option.ne_none_iff_exists'.mp present
  refine ⟨{
    catalog
    database := given source .database
    table := given source .table
    partition := given source .partition
    view := given source .view }, ?_, ?_⟩
  · intro level
    cases level with
    | catalog => exact found.symm
    | _ => rfl
  · unfold given at found
    rw [ofSource, found]
    rfl

/-- A source without a catalog is read by its whole name and by nothing else. A source with a catalog, be it
blank, is read by its levels, so the whole name does not matter: the first rule that its segments break gives
the error, and if they break none, each level has the normal form of its segment unless that is blank. -/
theorem ofSource_by_rules {σ : Type} [Source σ] (source : σ) :
    (given source .catalog = none →
      (∀ whole, Source.text? source wholeField = some whole →
        ofSource source = parse whole .heuristic) ∧
      (Source.text? source wholeField = none →
        ofSource source = .error (.fieldMissing .catalog))) ∧
    (given source .catalog ≠ none →
      (∀ other : Text → Option Text, (∀ level, given other level = given source level) →
        ofSource other = ofSource source) ∧
      if blank (given source .catalog) then ofSource source = .error (.blank .catalog)
      else if blank (given source .database) ∧ ¬blank (given source .table) then
        ofSource source = .error (.orphan .database .table)
      else if blank (given source .database) ∧ blank (given source .table) ∧
          ¬blank (given source .partition) then
        ofSource source = .error (.orphan .database .partition)
      else if blank (given source .table) ∧ ¬blank (given source .partition) then
        ofSource source = .error (.orphan .table .partition)
      else ∃ name, ofSource source = .ok name ∧ ∀ level, name.get? level =
        if blank (given source level) then none else (given source level).map level.normalize) := by
  refine ⟨?_, ?_⟩
  · intro absent
    unfold given at absent
    refine ⟨?_, ?_⟩
    · intro whole found
      rw [ofSource, absent, found]
    · intro missing
      rw [ofSource, absent, missing]
  · intro present
    obtain ⟨draft, same, made⟩ := ofSource_eq_check source present
    refine ⟨?_, ?_⟩
    · intro other agree
      obtain ⟨also, alike, again⟩ := ofSource_eq_check other ((agree .catalog).symm ▸ present)
      rw [made, again]
      apply Draft.check_congr
      intro level
      rw [alike, agree, same]
    · have rules := draft.check_eq
      rw [same .catalog, same .database, same .table, same .partition, ← made] at rules
      -- The conditions are those of the checks, so each branch has its own outcome.
      split_ifs at rules ⊢
      · exact rules
      · exact rules
      · exact rules
      · exact rules
      · refine ⟨draft.stored, rules, ?_⟩
        intro level
        have passed := made.symm.trans rules
        rw [((Draft.check_eq_ok_iff draft _).mp passed).1 level, level.stored?_eq, same]

/-- A blank catalog is not replaced by the one in the whole name. -/
example : ofSource ([(Level.catalog.field, [' ']), (wholeField, ['c', '/', 'd'])] : Fields Text) =
    .error (.blank .catalog) := rfl

theorem ofJsonText_of_read (text : Text) (json : Json) (read : Json.read text = some json) :
    ofJsonText text = (decode json).mapError .data := by
  obtain ⟨⟨first, rest⟩, start, whole⟩ := Option.bind_eq_some_iff.mp read
  dsimp only at whole
  split at whole
  next ended =>
    cases whole
    rw [ofJsonText, start]
    cases decoded : decode json with
    | error error => simp [decoded, Except.mapError]
    | ok name => simp [decoded, ended, Except.mapError]
  next => contradiction

theorem decode_eq_error_iff (json : Json) (error : DecodeError) :
    decode json = .error error ↔ ∃ cause, ofSource json = .error cause ∧ error = .name cause := by
  unfold decode
  cases ofSource json with
  | ok name => simp [Except.mapError]
  | error cause => simp [Except.mapError, @eq_comm _ error]

theorem ofSource_of_no_object (json : Json) (other : ∀ fields, json ≠ .object fields) :
    ofSource json = .error (.fieldMissing .catalog) := by
  have empty : ∀ key, json.get? key = none := by
    intro key
    cases json with
    | object fields => exact absurd rfl (other fields)
    | _ => rfl
  have silent : ∀ key, Source.text? json key = none := by
    intro key
    change (json.get? key).bind Json.text? = none
    rw [empty]
    rfl
  simp only [ofSource, silent]

/-- An object gives the same name or the same error as its fields, as a function that looks its texts up,
and as an ordered or hashed map that holds its texts and nothing else. What is no object has no texts.
Decoding gives what the value gives as a source, with the wording of its error, and so does the text of
the value. -/
theorem sources_agree [Hashable Text] (json : Json) :
    (∀ fields : Fields Json, json = .object fields →
      ofSource fields = ofSource json ∧ ofSource (Source.text? json) = ofSource json ∧
      ofSource (Source.text? fields) = ofSource json ∧
      (∀ key text, (key, text) ∈ json.texts ↔ json.get? key = some (.string text)) ∧
      ofSource json.texts = ofSource json ∧
      ofSource (Std.HashMap.ofList json.texts) = ofSource json) ∧
    ((∀ fields, json ≠ .object fields) → ofSource json = .error (.fieldMissing .catalog)) ∧
    (∀ name, decode json = .ok name ↔ ofSource json = .ok name) ∧
    (∀ error, decode json = .error error ↔ ∃ cause, ofSource json = .error cause ∧
      error = .name cause ∧ error.message = cause.message) ∧
    ∀ text, Json.read text = some json → ofJsonText text = (decode json).mapError .data := by
  refine ⟨?_, ?_, decode_eq_ok_iff json, ?_, fun text => ofJsonText_of_read text json⟩
  · intro fields same
    refine ⟨?_, rfl, ?_, json.mem_texts_iff, ofSource_congr json.texts json json.get?_texts, ?_⟩
    · rw [same]
      rfl
    · rw [same]
      rfl
    · apply ofSource_congr
      intro key
      exact (Fields.getElem?_hashMap json.texts json.nodup_texts key).trans (json.get?_texts key)
  · exact ofSource_of_no_object json
  · intro error
    rw [decode_eq_error_iff]
    constructor
    · intro refused
      obtain ⟨cause, refused, rfl⟩ := refused
      exact ⟨cause, refused, rfl, rfl⟩
    · intro refused
      obtain ⟨cause, refused, same, -⟩ := refused
      exact ⟨cause, refused, same⟩

end Name

end CatalogNames
