import CatalogNames.Proofs.Pattern.Open
import CatalogNames.Proofs.Text.Parts

/-! What filters on the outer levels select. A filter that is given stands for one part of the text, but the
wildcard of a level that is left out takes in delimiters as well, so the next filter may find its level
further down than it was meant to. Two indices say where the catalog and the database end. -/

namespace CatalogNames.Pattern
open Name Text

/-- The filters hold of the parts of a text in which the catalog and the database end at the given
parts. -/
structure Selects (catalog database table : Option Text) (parts : List Text)
    (catalogEnd databaseEnd : Nat) : Prop where
  order : catalogEnd < databaseEnd
  inside : databaseEnd + 1 < parts.length
  isCatalog : ∀ filter, catalog = some filter → catalogEnd = 0 ∧ parts[0]? = some filter
  isDatabase : ∀ filter, database = some filter →
    databaseEnd = catalogEnd + 1 ∧ parts[databaseEnd]? = some filter
  startsTable : ∀ filter, table = some filter →
    ∃ part, parts[databaseEnd + 1]? = some part ∧ filter <+: part

theorem ofFilters?_eq_some (catalog database table : Option Text)
    (given : catalog.isSome ∨ database.isSome ∨ table.isSome) :
    ofFilters? catalog database table = some ⟨catalog.getD [wildcard] ++
      delimiter :: (database.getD [wildcard] ++ delimiter :: table.getD [wildcard]) ++ [wildcard]⟩ := by
  have filtered : ¬(catalog.isNone && database.isNone && table.isNone) := by
    simpa [Option.isSome_iff_ne_none, imp_iff_not_or, or_assoc] using given
  rw [ofFilters?, if_neg filtered]
  simp [join_cons, join_singleton]

theorem begins_delimited_iff (first second text : Text) :
    Begins (first ++ delimiter :: second) text ↔ ∃ before after,
      text = before ++ delimiter :: after ∧ Expands first before ∧ Begins second after := by
  have plain : wildcard ∉ [delimiter] := by decide
  have marked : ∀ rest, Begins (delimiter :: second) rest ↔
      ∃ after, rest = delimiter :: after ∧ Begins second after := by
    intro rest
    rw [← List.singleton_append, begins_append_iff]
    simp [expands_literal_iff [delimiter] _ plain]
  rw [begins_append_iff]
  simp only [marked]
  constructor
  · intro parts
    obtain ⟨before, _, rfl, early, after, rfl, late⟩ := parts
    exact ⟨before, after, rfl, early, late⟩
  · intro parts
    obtain ⟨before, after, rfl, early, late⟩ := parts
    exact ⟨before, _, rfl, early, after, rfl, late⟩

/-- The parts are the one that the filter asks for, if it asks for one. -/
def Fills (filter : Option Text) (parts : List Text) : Prop :=
  ∀ given, filter = some given → parts = [given]

/-- The first of the parts starts as the filter asks for, if it asks for anything. -/
def Starts (filter : Option Text) (parts : List Text) : Prop :=
  ∀ given, filter = some given → ∃ part, parts.head? = some part ∧ given <+: part

section
variable (filter : Option Text)
  (plain : ∀ given, filter = some given → wildcard ∉ given ∧ delimiter ∉ given) (text : Text)
include plain

theorem expands_filter_iff :
    Expands (filter.getD [wildcard]) text ↔ Fills filter (text.splitOn delimiter) := by
  cases filter with
  | none => simp [Fills, expands_wildcard]
  | some given =>
      obtain ⟨literal, uncut⟩ := plain given rfl
      simp [Fills, expands_literal_iff given text literal,
        splitOn_eq_singleton_iff delimiter text given uncut]

theorem begins_filter_iff :
    Begins (filter.getD [wildcard]) text ↔ Starts filter (text.splitOn delimiter) := by
  cases filter with
  | none => simp [Starts, begins_wildcard]
  | some given =>
      obtain ⟨literal, uncut⟩ := plain given rfl
      simp [Starts, begins_literal_iff given text literal,
        prefix_iff_head_splitOn delimiter given text uncut]

end

/-- The first so many parts, more of them to follow, are one given part only if this is the first. -/
theorem take_succ_eq_singleton_iff (parts : List Text) (index : Nat) (part : Text)
    (inside : index + 1 < parts.length) :
    parts.take (index + 1) = [part] ↔ index = 0 ∧ parts[0]? = some part := by
  cases index with
  | zero => cases parts <;> simp
  | succ index =>
      have longer : (parts.take (index + 1 + 1)).length = index + 1 + 1 :=
        List.length_take_of_le (Nat.le_of_lt inside)
      have differs : parts.take (index + 1 + 1) ≠ [part] := by
        intro same
        simp [same] at longer
      simp [differs]

/-- The catalog and the database end where the parts are cut off, one after the other. -/
theorem exists_selects_iff (catalog database table : Option Text) (parts : List Text) :
    (∃ catalogEnd databaseEnd, Selects catalog database table parts catalogEnd databaseEnd) ↔
      ∃ index, index + 1 < parts.length ∧ Fills catalog (parts.take (index + 1)) ∧
        ∃ more, more + 1 < (parts.drop (index + 1)).length ∧
          Fills database ((parts.drop (index + 1)).take (more + 1)) ∧
          Starts table ((parts.drop (index + 1)).drop (more + 1)) := by
  have third : ∀ index more,
      ((parts.drop (index + 1)).drop (more + 1)).head? = parts[index + 1 + more + 1]? := by
    intro index more
    rw [List.drop_drop, List.head?_drop, ← Nat.add_assoc]
  constructor
  · intro selected
    obtain ⟨index, databaseEnd, order, inside, isCatalog, isDatabase, startsTable⟩ := selected
    -- The second cut is made in the parts that the first one leaves.
    obtain ⟨more, rfl⟩ := Nat.exists_eq_add_of_le order
    have left : more + 1 < (parts.drop (index + 1)).length := by
      rw [List.length_drop]
      omega
    refine ⟨index, by omega, ?_, more, left, ?_, ?_⟩
    · intro filter same
      exact (take_succ_eq_singleton_iff parts index filter (by omega)).mpr (isCatalog filter same)
    · intro filter same
      obtain ⟨next, found⟩ := isDatabase filter same
      obtain rfl : more = 0 := by omega
      exact (take_succ_eq_singleton_iff _ 0 filter left).mpr ⟨rfl, by simpa using found⟩
    · intro filter same
      exact third index more ▸ startsTable filter same
  · intro cuts
    obtain ⟨index, inside, isCatalog, more, left, isDatabase, startsTable⟩ := cuts
    have last : index + 1 + more + 1 < parts.length := by
      rw [List.length_drop] at left
      omega
    refine ⟨index, index + 1 + more, by omega, last, ?_, ?_, ?_⟩
    · intro filter same
      exact (take_succ_eq_singleton_iff parts index filter inside).mp (isCatalog filter same)
    · intro filter same
      obtain ⟨rfl, found⟩ :=
        (take_succ_eq_singleton_iff _ more filter left).mp (isDatabase filter same)
      exact ⟨rfl, by simpa using found⟩
    · intro filter same
      exact third index more ▸ startsTable filter same

/-- Filters without wildcards and delimiters make a pattern. It is matched by exactly those texts in which
an end of the catalog and an end of the database can be found such that the filters hold. -/
theorem ofFilters?_selects_iff (catalog database table : Option Text)
    (given : catalog.isSome ∨ database.isSome ∨ table.isSome)
    (plain : ∀ filter ∈ [catalog, database, table], ∀ text, filter = some text →
      wildcard ∉ text ∧ delimiter ∉ text) :
    ∃ pattern, ofFilters? catalog database table = some pattern ∧ ∀ text,
      pattern.matchesText text = true ↔ ∃ catalogEnd databaseEnd,
        Selects catalog database table (text.splitOn delimiter) catalogEnd databaseEnd := by
  refine ⟨_, ofFilters?_eq_some catalog database table given, ?_⟩
  intro text
  simp only [List.mem_cons, List.not_mem_nil, or_false, forall_eq_or_imp, forall_eq] at plain
  obtain ⟨ofCatalog, ofDatabase, ofTable⟩ := plain
  have inner := fun after => exists_cut_iff delimiter after fun middle rest =>
    Fills database middle ∧ Starts table rest
  rw [matchesText_open_iff, exists_selects_iff]
  simp only [begins_delimited_iff, expands_filter_iff catalog ofCatalog,
    expands_filter_iff database ofDatabase, begins_filter_iff table ofTable, inner]
  exact exists_cut_iff delimiter text fun before after => Fills catalog before ∧
    ∃ index, index + 1 < after.length ∧ Fills database (after.take (index + 1)) ∧
      Starts table (after.drop (index + 1))

theorem ofFilters?_selects_iff_without_catalog :
    let filters : List (Option Text) := [none, some ['d'], some ['t', '=']]
    (∀ filter ∈ filters, ∀ text, filter = some text → wildcard ∉ text ∧ delimiter ∉ text) ∧
      ∃ pattern, ofFilters? none (some ['d']) (some ['t', '=']) = some pattern ∧ ∀ text,
        pattern.matchesText text = true ↔ ∃ catalogEnd databaseEnd,
          Selects none (some ['d']) (some ['t', '=']) (text.splitOn delimiter)
            catalogEnd databaseEnd := by
  have plain : ∀ filter ∈ [none, some ['d'], some ['t', '=']], ∀ text, filter = some text →
      wildcard ∉ text ∧ delimiter ∉ text := by
    simp only [List.mem_cons, List.not_mem_nil, or_false, forall_eq_or_imp, forall_eq, reduceCtorEq,
      false_implies, implies_true, Option.some.injEq, forall_eq', true_and]
    decide
  exact ⟨plain, ofFilters?_selects_iff none (some ['d']) (some ['t', '=']) (by decide) plain⟩

/-- Without a catalog the database may be found below the second level. -/
example : matchesText ⟨"%/d/t%".toList⟩ "c/x/d/t".toList = true := rfl

end CatalogNames.Pattern
