import CatalogNames.Text.Basic

/-! Values under text keys, kept in ascending order of the keys. A key that is given again takes the
new value, so the last value of a repeated key counts. -/

namespace CatalogNames

abbrev Fields (α : Type) := List (Text × α)

namespace Fields

variable {α : Type}

def get? (fields : Fields α) (key : Text) : Option α := fields.lookup key

def insert (key : Text) (value : α) : Fields α → Fields α
  | [] => [(key, value)]
  | field :: rest =>
      if key < field.1 then (key, value) :: field :: rest
      else if key = field.1 then (key, value) :: rest
      else field :: insert key value rest

def ofList (pairs : List (Text × α)) : Fields α :=
  pairs.foldl (fun fields pair => fields.insert pair.1 pair.2) []

theorem get?_cons (first key : Text) (value : α) (rest : Fields α) :
    get? ((first, value) :: rest) key = if key = first then some value else get? rest key := by
  unfold get?
  rw [List.lookup_cons]
  by_cases same : key = first
  · simp [same]
  · simp [same, beq_eq_false_iff_ne.mpr same]

theorem get?_insert (fields : Fields α) (key other : Text) (value : α) :
    (fields.insert key value).get? other = if other = key then some value else fields.get? other := by
  induction fields with
  | nil => rw [insert, get?_cons]
  | cons field rest ih =>
      obtain ⟨first, held⟩ := field
      simp only [insert]
      split
      next => rw [get?_cons]
      next =>
        split
        next here =>
          subst here
          simp only [get?_cons]
          split
          next => rfl
          next => rfl
        next differs =>
          simp only [get?_cons, ih]
          by_cases same : other = key
          · simp [same, differs]
          · simp [same]

end Fields

end CatalogNames
