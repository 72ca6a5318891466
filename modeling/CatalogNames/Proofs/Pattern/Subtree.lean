import CatalogNames.Proofs.Name.Row
import CatalogNames.Proofs.Pattern.Open
import CatalogNames.Proofs.Text.Parts

/-! The pattern of everything below a name: its text, a delimiter and a wildcard. The delimiter ends the last
segment, so names that merely start alike are left out, and so is the name itself. -/

namespace CatalogNames.Pattern
open Name Text

theorem wildcard_not_mem_text (name : Name)
    (plain : ∀ level segment, name.get? level = some segment → wildcard ∉ segment) :
    wildcard ∉ name.text := by
  have visible : wildcard ≠ delimiter := by decide
  change wildcard ∉ join delimiter name.present
  rw [mem_join_iff]
  simp only [visible, false_and, or_false, not_exists, not_and]
  intro segment found
  obtain ⟨level, stored⟩ := mem_present name segment found
  exact plain level segment stored

theorem matchesText_under_iff (front text : Text) (plain : wildcard ∉ front) :
    (Pattern.mk (front ++ [delimiter, wildcard])).matchesText text = true ↔
      front ++ [delimiter] <+: text := by
  have literal : wildcard ∉ front ++ [delimiter] := by
    simpa [plain] using (by decide : wildcard ≠ delimiter)
  have body : front ++ [delimiter, wildcard] = front ++ [delimiter] ++ [wildcard] := by simp
  rw [body, matchesText_open_iff, begins_literal_iff _ text literal]

/-- The pattern of the names below a catalog, a database or a table is matched exactly by the other names
that have the same segment at each of its levels. -/
theorem matchesName_under_iff (parent name : Name) (parentMade : Constructed parent)
    (made : Constructed name) (outer : parent.Outer)
    (plain : ∀ level segment, parent.get? level = some segment →
      delimiter ∉ segment ∧ wildcard ∉ segment)
    (uncut : ∀ level ∈ [Level.catalog, .database, .table], ∀ segment,
      name.get? level = some segment → delimiter ∉ segment)
    (below : name.view.isSome → name.table.isSome) :
    (Pattern.mk (parent.text ++ [delimiter, wildcard])).matchesName name = true ↔
      name.Within parent ∧ name ≠ parent := by
  have parentFormed := parentMade.wellFormed
  have formed := made.wellFormed
  have literal := wildcard_not_mem_text parent fun level segment stored =>
    (plain level segment stored).2
  have parentParts : ∀ segment ∈ parent.present, delimiter ∉ segment := by
    intro segment found
    obtain ⟨level, stored⟩ := mem_present parent segment found
    exact (plain level segment stored).1
  have parts : ∀ segment ∈ name.present.take parent.present.length, delimiter ∉ segment := by
    intro segment early
    have first : segment ∈ name.present.take 3 :=
      List.take_subset_take_left _ (parentFormed.length_present_le outer) early
    obtain ⟨level, listed, stored⟩ := formed.outer_of_mem_take below segment first
    exact uncut level listed segment stored
  calc
    _ ↔ parent.text ++ [delimiter] <+: name.text := matchesText_under_iff _ _ literal
    _ ↔ ∃ rest, rest ≠ [] ∧ name.present = parent.present ++ rest :=
      join_prefix_iff delimiter parent.present name.present (present_ne_nil parent) parentParts parts
    _ ↔ name.Within parent ∧ name ≠ parent :=
      exists_present_append_iff parentFormed outer formed below

/-- The name below the table has a partition and a view, and neither a delimiter nor a wildcard in its
partition matters. -/
theorem matchesName_under_iff_at_table :
    let parent : Name := ⟨['c'], some ['d'], some ['t'], none, none⟩
    let name : Name := ⟨['c'], some ['d'], some ['t'], some ['P', '/', '%'], some ['v']⟩
    Constructed parent ∧ Constructed name ∧ parent.Outer ∧
      (∀ level segment, parent.get? level = some segment →
        delimiter ∉ segment ∧ wildcard ∉ segment) ∧
      (∀ level ∈ [Level.catalog, .database, .table], ∀ segment,
        name.get? level = some segment → delimiter ∉ segment) ∧
      ((Pattern.mk (parent.text ++ [delimiter, wildcard])).matchesName name = true ↔
        name.Within parent ∧ name ≠ parent) := by
  have parentMade : Constructed ⟨['c'], some ['d'], some ['t'], none, none⟩ :=
    .composed (.ofTable ['c'] ['d'] ['t'] rfl)
  have made : Constructed ⟨['c'], some ['d'], some ['t'], some ['P', '/', '%'], some ['v']⟩ :=
    .ofSource ([(Level.catalog.field, ['c']), (Level.database.field, ['d']),
      (Level.partition.field, ['P', '/', '%']), (Level.table.field, ['t']),
      (Level.view.field, ['v'])] : Fields Text) rfl
  have plain : ∀ level segment,
      get? ⟨['c'], some ['d'], some ['t'], none, none⟩ level = some segment →
        delimiter ∉ segment ∧ wildcard ∉ segment := by
    intro level
    cases level <;> simp [get?, delimiter, wildcard]
  have uncut : ∀ level ∈ [Level.catalog, .database, .table], ∀ segment,
      get? ⟨['c'], some ['d'], some ['t'], some ['P', '/', '%'], some ['v']⟩ level = some segment →
        delimiter ∉ segment := by
    simp [get?, delimiter]
  exact ⟨parentMade, made, ⟨rfl, rfl⟩, plain, uncut,
    matchesName_under_iff _ _ parentMade made ⟨rfl, rfl⟩ plain uncut (by decide)⟩

/-- A sibling that starts alike is not below. -/
example : matchesText ⟨"c/d/%".toList⟩ "c/dd/t".toList = false := rfl

end CatalogNames.Pattern
