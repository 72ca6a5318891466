import CatalogNames.Name.Order

/-! A set of names, kept as a strictly ascending list. -/

namespace CatalogNames

structure NameSet where
  toList : List Name
  ascending : toList.Pairwise (· < ·)

namespace NameSet

def empty : NameSet := ⟨[], .nil⟩

/-- The list with the name at its place; a name that is there already is not put in again. -/
def place (name : Name) : List Name → List Name
  | [] => [name]
  | first :: rest =>
      if name < first then name :: first :: rest
      else if first < name then first :: place name rest
      else first :: rest

theorem eq_or_mem_of_mem_place {name member : Name} {names : List Name}
    (found : member ∈ place name names) : member = name ∨ member ∈ names := by
  induction names with
  | nil => simpa [place] using found
  | cons first rest ih =>
      simp only [place] at found
      split at found
      next => simpa using found
      next =>
        split at found
        next =>
          rcases List.mem_cons.mp found with same | inner
          · exact .inr (by simp [same])
          · exact (ih inner).imp id (List.mem_cons_of_mem first)
        next => exact .inr found

theorem pairwise_place (name : Name) {names : List Name} (ascending : names.Pairwise (· < ·)) :
    (place name names).Pairwise (· < ·) := by
  induction names with
  | nil => simp [place]
  | cons first rest ih =>
      obtain ⟨above, rising⟩ := List.pairwise_cons.mp ascending
      simp only [place]
      split
      next before =>
        refine List.pairwise_cons.mpr ⟨?_, ascending⟩
        intro member found
        rcases List.mem_cons.mp found with same | inner
        · exact same ▸ before
        · exact List.lt_trans before (above member inner)
      next =>
        split
        next after =>
          refine List.pairwise_cons.mpr ⟨?_, ih rising⟩
          intro member found
          rcases eq_or_mem_of_mem_place found with same | inner
          · exact same ▸ after
          · exact above member inner
        next => exact ascending

def insert (set : NameSet) (name : Name) : NameSet :=
  ⟨place name set.toList, pairwise_place name set.ascending⟩

def erase (set : NameSet) (name : Name) : NameSet :=
  ⟨set.toList.erase name, set.ascending.sublist List.erase_sublist⟩

def contains (set : NameSet) (name : Name) : Bool := set.toList.contains name

def size (set : NameSet) : Nat := set.toList.length

def ofList (names : List Name) : NameSet := names.foldl insert empty

/-- The members that are not before the name, in ascending order. -/
def atLeast (set : NameSet) (name : Name) : List Name :=
  set.toList.filter fun member => decide (name ≤ member)

/-- The members before the name, in ascending order. -/
def below (set : NameSet) (name : Name) : List Name :=
  set.toList.filter fun member => decide (member < name)

end NameSet

end CatalogNames
