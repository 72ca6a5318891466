import CatalogNames.Proofs.Name.WellFormed

/-! The outcome of the checks for every draft. It depends on which segments are blank, and on nothing else
of what they hold: the first rule that is broken gives the error, and if none is, each level has the normal
form of its segment. So the case of what is given matters to no rule, and is kept at most in a partition. -/

namespace CatalogNames

namespace Text

/-- Nothing is given, or nothing but white space. -/
def blank (given : Option Text) : Bool := given.all fun text => text.all isBlank

theorem blank_some_iff (text : Text) : blank (some text) = true ↔ trim text = [] := by
  rw [trim_eq_nil_iff, blank, Option.all_some, List.all_eq_true]

end Text

open Text

theorem Level.stored?_eq (level : Level) (given : Option Text) :
    level.stored? given = if blank given then none else given.map level.normalize := by
  cases given with
  | none => rfl
  | some segment =>
      by_cases empty : segment.trim = []
      · have normal := (level.normalize_eq_nil_iff segment).mpr empty
        rw [if_pos ((blank_some_iff segment).mpr empty)]
        simp [stored?, Option.filter, normal]
      · have normal := mt (level.normalize_eq_nil_iff segment).mp empty
        rw [if_neg (mt (blank_some_iff segment).mp empty)]
        simp [stored?, Option.filter, normal]

/-- The segments as they are stored, whether or not they pass the checks. -/
def Draft.stored (draft : Draft) : Name := {
  catalog := Level.catalog.normalize draft.catalog
  database := Level.database.stored? draft.database
  table := Level.table.stored? draft.table
  partition := Level.partition.stored? draft.partition
  view := Level.view.stored? draft.view }

theorem Draft.has_stored (draft : Draft) (level : Level) (inner : level ≠ .catalog) :
    draft.stored.has level = !blank (draft.get? level) := by
  have kept : draft.stored.get? level = level.stored? (draft.get? level) := by
    cases level with
    | catalog => contradiction
    | _ => rfl
  rw [Name.has, kept, level.stored?_eq]
  cases draft.get? level with
  | none => rfl
  | some segment => cases blank (some segment) <;> rfl

/-- The rules in the order in which they are applied. -/
theorem Draft.check_eq (draft : Draft) : draft.check =
    if blank (draft.get? .catalog) then .error (.blank .catalog)
    else if blank (draft.get? .database) ∧ ¬blank (draft.get? .table) then
      .error (.orphan .database .table)
    else if blank (draft.get? .database) ∧ blank (draft.get? .table) ∧
        ¬blank (draft.get? .partition) then
      .error (.orphan .database .partition)
    else if blank (draft.get? .table) ∧ ¬blank (draft.get? .partition) then
      .error (.orphan .table .partition)
    else .ok draft.stored := by
  have catalog : Level.catalog.stored? (some draft.catalog) =
      if blank (draft.get? .catalog) then none else some (Level.catalog.normalize draft.catalog) :=
    Level.catalog.stored?_eq (some draft.catalog)
  have orphan := draft.stored.orphan?_eq
  rw [draft.has_stored .database (by decide), draft.has_stored .table (by decide),
    draft.has_stored .partition (by decide)] at orphan
  unfold Draft.check
  by_cases empty : blank (draft.get? .catalog) = true
  · rw [if_pos empty] at catalog
    rw [catalog, if_pos empty]
  · rw [if_neg empty] at catalog
    unfold Draft.stored at orphan ⊢
    rw [catalog, if_neg empty]
    dsimp only
    rw [orphan]
    cases blank (draft.get? .database) <;> cases blank (draft.get? .table) <;>
      cases blank (draft.get? .partition) <;> rfl

/-- Drafts with the same blank segments break the same rule or none. -/
theorem Draft.check_alike (first second : Draft)
    (alike : ∀ level, blank (first.get? level) = blank (second.get? level)) :
    (∃ error, first.check = .error error ∧ second.check = .error error) ∨
      first.check = .ok first.stored ∧ second.check = .ok second.stored := by
  rw [first.check_eq, second.check_eq]
  simp only [alike]
  split_ifs <;> simp

theorem Draft.check_congr (first second : Draft)
    (same : ∀ level : Level, level.stored? (first.get? level) = level.stored? (second.get? level)) :
    first.check = second.check := by
  have catalog := same .catalog
  have database := same .database
  have table := same .table
  have partition := same .partition
  have view := same .view
  simp only [get?] at catalog database table partition view
  rw [check, check, catalog, database, table, partition, view]

theorem Text.blank_map_fold (given : Option Text) : blank (given.map fold) = blank given := by
  cases given with
  | none => rfl
  | some segment =>
      rw [Option.map_some, Bool.eq_iff_iff, blank_some_iff, blank_some_iff, trim_fold, fold,
        List.map_eq_nil_iff]

theorem Level.normalize_fold (level : Level) (segment : Text) :
    level.normalize (fold segment) = fold (level.normalize segment) := by
  unfold normalize
  split
  next => rw [trim_fold]
  next => rw [trim_fold]

theorem Level.stored?_map_fold (level : Level) (given : Option Text) :
    level.stored? (given.map fold) = (level.stored? given).map fold := by
  rw [level.stored?_eq, level.stored?_eq, blank_map_fold]
  split
  next => rfl
  next =>
    rw [Option.map_map, Option.map_map]
    exact congrArg (fun convert => given.map convert) (funext level.normalize_fold)

theorem Level.stored?_map_trim (level : Level) (given : Option Text) :
    level.stored? (given.map trim) = level.stored? given := by
  cases given with
  | none => rfl
  | some segment => simp only [stored?, Option.map_some, normalize_trim]

namespace Name

theorem WellFormed.map_fold_get? {name : Name} (formed : name.WellFormed) (level : Level)
    (folds : level.foldsCase = true) : (name.get? level).map fold = name.get? level := by
  cases stored : name.get? level with
  | none => rfl
  | some segment => rw [Option.map_some, (formed.stores level segment stored).folded folds]

/-- Drafts whose segments differ in case only give names that differ in the case of the partition only,
or break the same rule. -/
theorem check_of_folded (first second : Draft)
    (folded : ∀ level, (first.get? level).map fold = (second.get? level).map fold) :
    (∃ error, first.check = .error error ∧ second.check = .error error) ∨
      ∃ one other, first.check = .ok one ∧ second.check = .ok other ∧
        (∀ level : Level, level.foldsCase → one.get? level = other.get? level) ∧
        one.partition.map fold = other.partition.map fold := by
  have blanks : ∀ level, blank (first.get? level) = blank (second.get? level) := by
    intro level
    rw [← blank_map_fold (first.get? level), folded level, blank_map_fold]
  rcases first.check_alike second blanks with refused | accepted
  · exact .inl refused
  · obtain ⟨made, also⟩ := accepted
    have agree : ∀ level, (first.stored.get? level).map fold = (second.stored.get? level).map fold := by
      intro level
      rw [((Draft.check_eq_ok_iff _ _).mp made).1 level, ((Draft.check_eq_ok_iff _ _).mp also).1 level,
        ← level.stored?_map_fold, ← level.stored?_map_fold, folded level]
    refine .inr ⟨first.stored, second.stored, made, also, ?_, agree .partition⟩
    intro level folds
    rw [← (wellFormed_of_check _ _ made).map_fold_get? level folds, agree level,
      (wellFormed_of_check _ _ also).map_fold_get? level folds]

end Name

end CatalogNames
