import CatalogNames.Name.Basic
import CatalogNames.Proofs.Text.Trim

/-! What the checks make of a draft. Normalising a segment twice is the same as doing it once, so the
segments of a checked name are stored as they are, and checking them again gives the name back. -/

namespace CatalogNames

namespace Level
open Text

theorem depth_lt (level : Level) : level.depth < 5 := by
  cases level <;> decide

theorem exists_depth (depth : Nat) (inside : depth < 5) : ∃ level : Level, level.depth = depth := by
  have listed : ∀ index < 5, ∃ level ∈ all, level.depth = index := by decide
  obtain ⟨level, -, same⟩ := listed depth inside
  exact ⟨level, same⟩

theorem trim_normalize (level : Level) (segment : Text) :
    (level.normalize segment).trim = level.normalize segment := by
  unfold normalize
  split
  · rw [trim_fold, trim_trim]
  · rw [trim_trim]

theorem normalize_trim (level : Level) (segment : Text) :
    level.normalize segment.trim = level.normalize segment := by
  unfold normalize
  rw [trim_trim]

theorem normalize_normalize (level : Level) (segment : Text) :
    level.normalize (level.normalize segment) = level.normalize segment := by
  have trimmed := trim_normalize level segment
  by_cases folds : level.foldsCase
  · simp only [normalize, if_pos folds] at trimmed ⊢
    rw [trimmed, fold_fold]
  · simp only [normalize, if_neg folds] at trimmed ⊢
    exact trimmed

theorem length_normalize_le (level : Level) (segment : Text) :
    (level.normalize segment).length ≤ segment.length := by
  unfold normalize
  split
  · rw [length_fold]
    exact length_trim_le segment
  · exact length_trim_le segment

theorem normalize_eq_nil_iff (level : Level) (segment : Text) :
    level.normalize segment = [] ↔ segment.trim = [] := by
  unfold normalize fold
  split
  next => rw [List.map_eq_nil_iff]
  next => rfl

/-- Normalising keeps every mark that is neither blank nor a letter. -/
theorem mem_normalize_iff (level : Level) (segment : Text) (mark : Char)
    (visible : isBlank mark = false) (letterless : mark.isAlpha = false) :
    mark ∈ level.normalize segment ↔ mark ∈ segment := by
  unfold normalize
  split
  · rw [mem_fold_iff _ mark letterless, mem_trim_iff segment mark visible]
  · rw [mem_trim_iff segment mark visible]

/-- The text may stand at the level as it is. -/
def Stores (level : Level) (text : Text) : Prop := text ≠ [] ∧ level.normalize text = text

theorem Stores.trimmed {level : Level} {text : Text} (stores : level.Stores text) : text.Trimmed := by
  rw [← trim_eq_self_iff]
  rw [← stores.2]
  exact trim_normalize level text

theorem Stores.folded {level : Level} {text : Text} (stores : level.Stores text)
    (folds : level.foldsCase = true) : fold text = text := by
  have normal : fold (trim text) = text := by simpa [normalize, folds] using stores.2
  rw [← normal, fold_fold]

/-- A trimmed and folded text may stand at every level. -/
theorem stores_of_folded (level : Level) (text : Text) (filled : text ≠ []) (trimmed : Trimmed text)
    (folded : fold text = text) : level.Stores text := by
  refine ⟨filled, ?_⟩
  unfold normalize
  split
  · rw [trim_eq_self text trimmed, folded]
  · exact trim_eq_self text trimmed

theorem stored?_none (level : Level) : level.stored? none = none := rfl

theorem stored?_nil (level : Level) : level.stored? (some []) = none := by
  cases level <;> rfl

theorem stored?_eq_some_iff (level : Level) (given : Option Text) (text : Text) :
    level.stored? given = some text ↔
      ∃ segment, given = some segment ∧ level.normalize segment = text ∧ text ≠ [] := by
  simp only [stored?, Option.filter_eq_some_iff, Option.map_eq_some_iff, Bool.not_eq_true',
    List.isEmpty_eq_false_iff]
  constructor
  · intro passes
    obtain ⟨⟨segment, same, normal⟩, filled⟩ := passes
    exact ⟨segment, same, normal, filled⟩
  · intro given
    obtain ⟨segment, same, normal, filled⟩ := given
    exact ⟨⟨segment, same, normal⟩, filled⟩

theorem stores_of_stored? (level : Level) (given : Option Text) (text : Text)
    (stored : level.stored? given = some text) : level.Stores text := by
  obtain ⟨segment, -, normal, filled⟩ := (stored?_eq_some_iff level given text).mp stored
  exact ⟨filled, normal ▸ normalize_normalize level segment⟩

theorem Stores.stored? {level : Level} {text : Text} (stores : level.Stores text) :
    level.stored? (some text) = some text :=
  (stored?_eq_some_iff level (some text) text).mpr ⟨text, rfl, stores.2, stores.1⟩

/-- An empty segment is as good as none. -/
theorem stored?_getD (level : Level) (given : Option Text)
    (stores : ∀ segment, given = some segment → level.Stores segment) :
    level.stored? (some (given.getD [])) = given := by
  cases given with
  | none => exact level.stored?_nil
  | some segment => exact (stores segment rfl).stored?

end Level

/-- The segment that is given for a level. -/
def Draft.get? (draft : Draft) : Level → Option Text
  | .catalog => some draft.catalog
  | .database => draft.database
  | .table => draft.table
  | .partition => draft.partition
  | .view => draft.view

namespace Name

theorem eq_of_get? (first second : Name) (same : ∀ level, first.get? level = second.get? level) :
    first = second := by
  have catalog := same .catalog
  have database := same .database
  have table := same .table
  have partition := same .partition
  have view := same .view
  cases first
  cases second
  simp_all [get?]

theorem mem_levels_iff (name : Name) (level : Level) (segment : Text) :
    (level, segment) ∈ name.levels ↔ name.get? level = some segment := by
  simp only [levels, List.mem_filterMap, Option.map_eq_some_iff, Prod.mk.injEq]
  constructor
  · intro listed
    obtain ⟨_, -, _, stored, rfl, rfl⟩ := listed
    exact stored
  · intro stored
    exact ⟨level, level.mem_all, segment, stored, rfl, rfl⟩

theorem orphan?_eq (name : Name) : name.orphan? =
    if !name.has .database && name.has .table then some (.database, .table)
    else if !name.has .database && name.has .partition then some (.database, .partition)
    else if !name.has .table && name.has .partition then some (.table, .partition)
    else none := by
  unfold orphan? needs
  simp only [List.find?_cons, List.find?_nil]
  cases name.has .database <;> cases name.has .table <;> cases name.has .partition <;> rfl

theorem orphan?_eq_none_iff (name : Name) : name.orphan? = none ↔
    (name.has .table → name.has .database) ∧
      (name.has .partition → name.has .database ∧ name.has .table) := by
  rw [name.orphan?_eq]
  cases name.has .database <;> cases name.has .table <;> cases name.has .partition <;> simp

/-- Every segment may stand at its level, and no level lacks one that it needs. -/
structure WellFormed (name : Name) : Prop where
  stores : ∀ level segment, name.get? level = some segment → level.Stores segment
  supported : name.orphan? = none

/-- The name taken apart again. -/
def draft (name : Name) : Draft := {
  catalog := name.catalog
  database := name.database
  table := name.table
  partition := name.partition
  view := name.view }

theorem get?_draft (name : Name) (level : Level) : name.draft.get? level = name.get? level := by
  cases level <;> rfl

end Name

/-- A draft passes exactly as the name of its stored segments, and only if that name has no orphan. -/
theorem Draft.check_eq_ok_iff (draft : Draft) (name : Name) : draft.check = .ok name ↔
    (∀ level, name.get? level = level.stored? (draft.get? level)) ∧ name.orphan? = none := by
  unfold Draft.check
  constructor
  · intro passed
    split at passed
    next => contradiction
    next catalog stored =>
      simp only at passed
      split at passed
      next => contradiction
      next supported =>
        cases passed
        refine ⟨?_, supported⟩
        intro level
        cases level <;> simp [Name.get?, Draft.get?, stored]
  · intro passes
    obtain ⟨same, supported⟩ := passes
    have catalog : Level.catalog.stored? (some draft.catalog) = some name.catalog :=
      (same .catalog).symm
    have whole : name = {
        catalog := name.catalog
        database := Level.database.stored? draft.database
        table := Level.table.stored? draft.table
        partition := Level.partition.stored? draft.partition
        view := Level.view.stored? draft.view } := by
      apply Name.eq_of_get?
      intro level
      cases level <;> first | rfl | exact same _
    simp only [catalog, ← whole, supported]

namespace Name

theorem wellFormed_of_check (draft : Draft) (name : Name) (passed : draft.check = .ok name) :
    name.WellFormed := by
  obtain ⟨same, supported⟩ := (Draft.check_eq_ok_iff draft name).mp passed
  refine ⟨?_, supported⟩
  intro level segment present
  exact Level.stores_of_stored? level _ segment ((same level).symm.trans present)

/-- A level that is not given is not there. -/
theorem get?_of_check (draft : Draft) (name : Name) (passed : draft.check = .ok name) (level : Level)
    (absent : draft.get? level = none) : name.get? level = none := by
  rw [((Draft.check_eq_ok_iff draft name).mp passed).1 level, absent]
  rfl

theorem single_of_check (draft : Draft) (name : Name) (passed : draft.check = .ok name)
    (single : draft.partition = none ∨ draft.view = none) :
    name.partition = none ∨ name.view = none :=
  single.imp (get?_of_check draft name passed .partition) (get?_of_check draft name passed .view)

/-- Checking the segments of a well-formed name changes nothing. -/
theorem WellFormed.check_draft {name : Name} (formed : name.WellFormed) :
    name.draft.check = .ok name := by
  rw [Draft.check_eq_ok_iff]
  refine ⟨?_, formed.supported⟩
  intro level
  rw [get?_draft]
  cases present : name.get? level with
  | none => rfl
  | some segment => exact (formed.stores level segment present).stored?.symm

end Name

/-- The name whose segments are stored as they are given. -/
def Draft.name (draft : Draft) : Name := {
  catalog := draft.catalog
  database := draft.database
  table := draft.table
  partition := draft.partition
  view := draft.view }

theorem Draft.get?_name (draft : Draft) (level : Level) :
    draft.name.get? level = draft.get? level := by
  cases level <;> rfl

theorem Draft.check_of_stores (draft : Draft)
    (stores : ∀ level segment, draft.get? level = some segment → level.Stores segment)
    (supported : draft.name.orphan? = none) : draft.check = .ok draft.name := by
  have formed : draft.name.WellFormed :=
    ⟨fun level segment given => stores level segment (draft.get?_name level ▸ given), supported⟩
  exact formed.check_draft

end CatalogNames
