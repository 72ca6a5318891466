import CatalogNames.Proofs.Name.Row
import CatalogNames.Proofs.Pattern.Containment
import CatalogNames.Proofs.Pattern.Filters

/-! Filters that let the levels of a name through find the name. Wildcards and delimiters may stand in the
filters and in the segments of the name, so nothing can be said about where the pattern is cut. Its three
parts are still matched one by one, since the text of the name can be taken apart after its catalog and
after its database, and what is left then begins with the table. -/

namespace CatalogNames.Pattern
open Name Text

/-- The filter is left out, or the segment matches it. -/
def Admits (filter segment : Option Text) : Prop :=
  ∀ pattern, filter = some pattern → ∀ text, segment = some text →
    (Pattern.mk pattern).matchesText text = true

/-- The filters make a pattern that the name matches, and so do those of them that are kept when some are
left out. -/
def Finds (name : Name) (catalog database table : Option Text) : Prop :=
  ∀ keptCatalog ∈ [none, catalog], ∀ keptDatabase ∈ [none, database], ∀ keptTable ∈ [none, table],
    keptCatalog.isSome ∨ keptDatabase.isSome ∨ keptTable.isSome →
      ∃ pattern, ofFilters? keptCatalog keptDatabase keptTable = some pattern ∧
        pattern.matchesName name = true

theorem admits_none (segment : Option Text) : Admits none segment := by
  intro pattern given
  contradiction

theorem admits_self (segment : Option Text) : Admits segment segment := by
  intro pattern given text stored
  obtain rfl : pattern = text := Option.some.inj (given.symm.trans stored)
  exact (matchesText_iff_expands ⟨pattern⟩ pattern).mpr (expands_self pattern)

theorem Admits.kept {filter kept segment : Option Text} (admits : Admits filter segment)
    (keeps : kept ∈ [none, filter]) : Admits kept segment := by
  simp only [List.mem_cons, List.not_mem_nil, or_false] at keeps
  rcases keeps with rfl | rfl
  · exact admits_none segment
  · exact admits

theorem Admits.expands {filter : Option Text} {text : Text} (admits : Admits filter (some text)) :
    Expands (filter.getD [wildcard]) text := by
  cases filter with
  | none => exact expands_wildcard text
  | some pattern => exact (matchesText_iff_expands ⟨pattern⟩ text).mp (admits pattern rfl text rfl)

/-- The filter on a table is one on how the table begins. -/
def opened (filter : Option Text) : Option Text := filter.map (· ++ [wildcard])

theorem Admits.begins {filter : Option Text} {table text : Text}
    (admits : Admits (opened filter) (some table)) (starts : table <+: text) :
    Begins (filter.getD [wildcard]) text := by
  cases filter with
  | none => exact begins_wildcard text
  | some start =>
      have matched := admits (start ++ [wildcard]) rfl table rfl
      obtain ⟨front, inside, expands⟩ := (matchesText_open_iff start table).mp matched
      exact ⟨front, inside.trans starts, expands⟩

theorem admits_opened_start (start table : Text) (starts : start <+: table) :
    Admits (opened (some start)) (some table) := by
  rintro _ ⟨⟩ _ ⟨⟩
  exact (matchesText_open_iff start table).mpr ⟨start, starts, expands_self start⟩

section
variable {name : Name} (formed : name.WellFormed) {table : Text} (stored : name.table = some table)
  {catalogFilter databaseFilter tableFilter : Option Text}
  (inCatalog : Admits catalogFilter (some name.catalog))
  (inDatabase : Admits databaseFilter name.database)
  (inTable : Admits (opened tableFilter) (some table))
include formed stored inCatalog inDatabase inTable

theorem exists_matchesName
    (given : catalogFilter.isSome ∨ databaseFilter.isSome ∨ tableFilter.isSome) :
    ∃ pattern, ofFilters? catalogFilter databaseFilter tableFilter = some pattern ∧
      pattern.matchesName name = true := by
  obtain ⟨database, rest, outer, whole, starts⟩ := formed.text_of_table table stored
  refine ⟨_, ofFilters?_eq_some catalogFilter databaseFilter tableFilter given, ?_⟩
  rw [outer] at inDatabase
  rw [matchesName, matchesText_open_iff, whole, begins_delimited_iff]
  refine ⟨name.catalog, _, rfl, inCatalog.expands, ?_⟩
  rw [begins_delimited_iff]
  exact ⟨database, rest, rfl, inDatabase.expands, inTable.begins starts⟩

theorem finds_of_wellFormed : Finds name catalogFilter databaseFilter tableFilter := by
  intro keptCatalog keepsCatalog keptDatabase keepsDatabase keptTable keepsTable given
  have keepsOpened : opened keptTable ∈ [none, opened tableFilter] :=
    List.mem_map_of_mem (f := opened) keepsTable
  exact exists_matchesName formed stored (inCatalog.kept keepsCatalog)
    (inDatabase.kept keepsDatabase) (inTable.kept keepsOpened) given

end

/-- Filters that the levels of a name match find the name, whatever stands below its table. So do its own
catalog and database with a start of its table. -/
theorem finds_of_admits (name : Name) (made : Constructed name) (table : Text)
    (stored : name.table = some table) (catalogFilter databaseFilter tableFilter : Option Text)
    (inCatalog : Admits catalogFilter (some name.catalog))
    (inDatabase : Admits databaseFilter name.database)
    (inTable : Admits (opened tableFilter) (some table)) :
    Finds name catalogFilter databaseFilter tableFilter ∧
      ∀ start, start <+: table → Finds name (some name.catalog) name.database (some start) := by
  have formed := made.wellFormed
  refine ⟨finds_of_wellFormed formed stored inCatalog inDatabase inTable, ?_⟩
  intro start starts
  exact finds_of_wellFormed formed stored (admits_self _) (admits_self _)
    (admits_opened_start start table starts)

/-- The filters reach across the delimiters of the text, which the levels hold as well. -/
theorem finds_of_admits_at_delimited_levels :
    let name : Name := ⟨['a', '/', 'a'], some ['b', '%'], some ['t', '/', 'u'], some ['P', '/'],
      some ['v']⟩
    Constructed name ∧ name.table = some ['t', '/', 'u'] ∧
      Admits (some ['a', '%', 'a']) (some name.catalog) ∧ Admits none name.database ∧
      Admits (opened (some ['%', '/'])) (some ['t', '/', 'u']) ∧
      (Finds name (some ['a', '%', 'a']) none (some ['%', '/']) ∧
        ∀ start, start <+: ['t', '/', 'u'] →
          Finds name (some name.catalog) name.database (some start)) := by
  have made : Constructed ⟨['a', '/', 'a'], some ['b', '%'], some ['t', '/', 'u'],
      some ['P', '/'], some ['v']⟩ :=
    .ofSource ([(Level.catalog.field, ['a', '/', 'a']), (Level.database.field, ['b', '%']),
      (Level.partition.field, ['P', '/']), (Level.table.field, ['t', '/', 'u']),
      (Level.view.field, ['v'])] : Fields Text) rfl
  have inCatalog : Admits (some ['a', '%', 'a']) (some ['a', '/', 'a']) := by
    rintro _ ⟨⟩ _ ⟨⟩
    rfl
  have inTable : Admits (opened (some ['%', '/'])) (some ['t', '/', 'u']) := by
    rintro _ ⟨⟩ _ ⟨⟩
    rfl
  exact ⟨made, rfl, inCatalog, admits_none _, inTable,
    finds_of_admits _ made _ rfl _ none _ inCatalog (admits_none _) inTable⟩

end CatalogNames.Pattern
