import CatalogNames.Fields
import Mathlib.Data.List.Induction
import Mathlib.Data.List.Nodup

/-! Fields built by insertion rise strictly, whatever pairs they are built from, and a lookup in them
finds the last pair of its key. Fields that rise already are built from themselves unchanged. -/

namespace CatalogNames.Fields

variable {α β : Type}

/-- Each key is below the keys after it, so no key occurs twice. -/
def Ascending (fields : Fields α) : Prop := fields.Pairwise fun first second => first.1 < second.1

theorem key_of_mem_insert (key : Text) (value : α) (fields : Fields α) (member : Text × α)
    (found : member ∈ fields.insert key value) : member.1 = key ∨ member ∈ fields := by
  induction fields with
  | nil => simp_all [insert]
  | cons field rest ih =>
      simp only [insert] at found
      split at found
      next => exact (List.mem_cons.mp found).imp (congrArg Prod.fst) id
      next =>
        split at found
        next =>
          exact (List.mem_cons.mp found).imp (congrArg Prod.fst) (List.mem_cons_of_mem field)
        next =>
          rcases List.mem_cons.mp found with same | inner
          · exact .inr (same ▸ List.mem_cons_self)
          · exact (ih inner).imp id (List.mem_cons_of_mem field)

theorem ascending_insert (key : Text) (value : α) (fields : Fields α)
    (ascending : fields.Ascending) : (fields.insert key value).Ascending := by
  induction fields with
  | nil => exact List.pairwise_singleton _ _
  | cons field rest ih =>
      obtain ⟨above, rising⟩ := List.pairwise_cons.mp ascending
      simp only [insert]
      split
      next before =>
        refine List.pairwise_cons.mpr ⟨?_, ascending⟩
        intro member found
        rcases List.mem_cons.mp found with same | inner
        · exact same ▸ before
        · exact List.lt_trans before (above member inner)
      next notBefore =>
        split
        next same =>
          exact List.pairwise_cons.mpr ⟨fun member found => same ▸ above member found, rising⟩
        next differs =>
          have after : field.1 < key :=
            (List.le_iff_lt_or_eq.mp (List.not_lt.mp notBefore)).resolve_right (Ne.symm differs)
          refine List.pairwise_cons.mpr ⟨?_, ih rising⟩
          intro member found
          rcases key_of_mem_insert key value rest member found with same | inner
          · exact same ▸ after
          · exact above member inner

/-- A key above all others takes the last place. -/
theorem insert_of_above (key : Text) (value : α) (fields : Fields α)
    (above : ∀ field ∈ fields, field.1 < key) :
    fields.insert key value = fields ++ [(key, value)] := by
  induction fields with
  | nil => rfl
  | cons field rest ih =>
      have after : field.1 < key := above field List.mem_cons_self
      have differs : key ≠ field.1 := fun same => List.lt_irrefl key (same ▸ after)
      rw [insert, if_neg (List.lt_asymm after), if_neg differs,
        ih fun member inner => above member (List.mem_cons_of_mem field inner), List.cons_append]

theorem ofList_concat (pairs : List (Text × α)) (pair : Text × α) :
    ofList (pairs ++ [pair]) = (ofList pairs).insert pair.1 pair.2 := by
  simp only [ofList, List.foldl_append, List.foldl_cons, List.foldl_nil]

theorem ascending_ofList (pairs : List (Text × α)) : (ofList pairs).Ascending := by
  induction pairs using List.reverseRecOn with
  | nil => exact List.Pairwise.nil
  | append_singleton pairs pair ih =>
      rw [ofList_concat]
      exact ascending_insert pair.1 pair.2 (ofList pairs) ih

theorem ofList_of_ascending (fields : Fields α) (ascending : fields.Ascending) :
    ofList fields = fields := by
  induction fields using List.reverseRecOn with
  | nil => rfl
  | append_singleton fields field ih =>
      obtain ⟨rising, -, above⟩ := List.pairwise_append.mp ascending
      rw [ofList_concat, ih rising]
      exact insert_of_above field.1 field.2 fields fun member inner =>
        above member inner field List.mem_cons_self

/-- The last value of a repeated key counts. -/
theorem get?_ofList (pairs : List (Text × α)) (key : Text) :
    (ofList pairs).get? key = get? pairs.reverse key := by
  induction pairs using List.reverseRecOn with
  | nil => rfl
  | append_singleton pairs pair ih =>
      rw [ofList_concat, get?_insert, ih, List.reverse_append, List.reverse_singleton,
        List.singleton_append, get?_cons]

theorem nodup_of_ascending (fields : Fields α) (ascending : fields.Ascending) :
    (fields.map Prod.fst).Nodup := by
  apply List.pairwise_map.mpr
  apply ascending.imp
  intro first second below same
  exact List.lt_irrefl second.1 (same ▸ below)

theorem get?_of_not_mem (fields : Fields α) (key : Text) (absent : key ∉ fields.map Prod.fst) :
    fields.get? key = none := by
  apply List.lookup_eq_none_iff.mpr
  intro field member
  rw [bne_iff_ne]
  intro same
  exact absent (List.mem_map.mpr ⟨field, member, same.symm⟩)

/-- Where no key occurs twice, a lookup finds exactly what is there. -/
theorem get?_eq_some_iff (fields : Fields α) (separate : (fields.map Prod.fst).Nodup) (key : Text)
    (value : α) : fields.get? key = some value ↔ (key, value) ∈ fields := by
  induction fields with
  | nil => simp [get?]
  | cons field rest ih =>
      obtain ⟨first, held⟩ := field
      obtain ⟨absent, separate⟩ := List.nodup_cons.mp separate
      rw [get?_cons, List.mem_cons, Prod.mk.injEq]
      by_cases same : key = first
      · subst same
        have once : (key, value) ∉ rest := fun found => absent (List.mem_map.mpr ⟨_, found, rfl⟩)
        simp [once, eq_comm]
      · simp [same, ih separate]

theorem mem_ofList_iff (pairs : List (Text × α)) (separate : (pairs.map Prod.fst).Nodup) (key : Text)
    (value : α) : (key, value) ∈ ofList pairs ↔ (key, value) ∈ pairs := by
  have mirrored : (pairs.reverse.map Prod.fst).Nodup := by
    rw [List.map_reverse]
    exact List.nodup_reverse.mpr separate
  rw [← get?_eq_some_iff (ofList pairs) (nodup_of_ascending _ (ascending_ofList pairs)),
    get?_ofList, get?_eq_some_iff pairs.reverse mirrored, List.mem_reverse]

/-- Where no key occurs twice, the order does not matter to a lookup. -/
theorem get?_perm {first second : Fields α} (order : first.Perm second)
    (separate : (second.map Prod.fst).Nodup) (key : Text) : first.get? key = second.get? key := by
  have also : (first.map Prod.fst).Nodup := (order.map Prod.fst).nodup_iff.mpr separate
  apply Option.ext
  intro value
  rw [get?_eq_some_iff first also, get?_eq_some_iff second separate, order.mem_iff]

theorem get?_append (first second : Fields α) (key : Text) :
    get? (first ++ second) key = (first.get? key).or (second.get? key) :=
  List.lookup_append

theorem get?_map (fields : Fields α) (convert : α → β) (key : Text) :
    get? (fields.map fun field => (field.1, convert field.2)) key =
      (fields.get? key).map convert := by
  induction fields with
  | nil => rfl
  | cons field rest ih =>
      rw [List.map_cons, get?_cons, ih, get?_cons]
      split
      next => rfl
      next => rfl

theorem ascending_map (fields : Fields α) (convert : α → β) (ascending : fields.Ascending) :
    Ascending (fields.map fun field => (field.1, convert field.2)) :=
  List.pairwise_map.mpr ascending

/-- Where every item has a key of its own, the key finds the value of its item. -/
theorem get?_filterMap {ι : Type} [DecidableEq ι] (key : ι → Text)
    (separate : Function.Injective key) (value : ι → Option α) (items : List ι) (item : ι) :
    get? (items.filterMap fun item => (value item).map fun value => (key item, value)) (key item) =
      if item ∈ items then value item else none := by
  induction items with
  | nil => rfl
  | cons first rest ih =>
      cases held : value first with
      | none =>
          rw [List.filterMap_cons_none (by rw [held]; rfl), ih]
          by_cases same : item = first
          · simp [same, held]
          · simp [same]
      | some text =>
          rw [List.filterMap_cons_some (by rw [held]; rfl), get?_cons, ih]
          by_cases same : item = first
          · simp [same, held]
          · simp [same, separate.ne same]

theorem nodup_filterMap {ι : Type} (key : ι → Text) (separate : Function.Injective key)
    (value : ι → Option α) (items : List ι) (once : items.Nodup) :
    ((items.filterMap fun item => (value item).map fun value => (key item, value)).map
      Prod.fst).Nodup := by
  rw [List.map_filterMap]
  apply List.Nodup.filterMap _ once
  intro first second field fromFirst fromSecond
  simp only [Option.map_map, Option.mem_def, Option.map_eq_some_iff, Function.comp_apply]
    at fromFirst fromSecond
  obtain ⟨_, -, same⟩ := fromFirst
  obtain ⟨_, -, also⟩ := fromSecond
  exact separate (same.trans also.symm)

end CatalogNames.Fields
