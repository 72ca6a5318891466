import CatalogNames.Name.Order
import CatalogNames.Proofs.Name.Record

/-! The order of names, and that it agrees with equality, with hashing and with records. Two names are told
apart by the outermost level at which they differ. An absent level counts as the empty text there, and no
segment of a well-formed name is empty, so names that compare equal are equal. Sorting therefore leaves no
choice, whatever order the names were given in. -/

namespace CatalogNames

namespace Text

/-- The code points of the characters. -/
def points (text : Text) : List Nat := text.map Char.toNat

theorem points_lt_iff (first second : Text) : first.points < second.points ↔ first < second := by
  unfold points
  induction first generalizing second with
  | nil => cases second <;> simp
  | cons char rest ih =>
      cases second with
      | nil => simp
      | cons other others =>
          simp only [List.map_cons, List.cons_lt_cons_iff, ih, Char.toNat_inj]
          exact Iff.rfl

theorem toNat_lt_of_mem_utf8EncodeChar (char : Char) (byte : UInt8)
    (found : byte ∈ String.utf8EncodeChar char) : byte.toNat < 0xFF := by
  simp only [String.utf8EncodeChar] at found
  -- One case for each number of bytes that a character can take.
  split at found
  next =>
    obtain rfl := List.mem_singleton.mp found
    rw [UInt8.toNat_ofNat']
    omega
  next =>
    split at found
    next =>
      simp only [List.mem_cons, List.not_mem_nil, or_false] at found
      rcases found with rfl | rfl <;> rw [UInt8.toNat_ofNat'] <;> omega
    next =>
      split at found
      next =>
        simp only [List.mem_cons, List.not_mem_nil, or_false] at found
        rcases found with rfl | rfl | rfl <;> rw [UInt8.toNat_ofNat'] <;> omega
      next =>
        simp only [List.mem_cons, List.not_mem_nil, or_false] at found
        rcases found with rfl | rfl | rfl | rfl <;> rw [UInt8.toNat_ofNat'] <;> omega

/-- The bytes of a text end at the first one that is in no character. -/
theorem takeWhile_hashed_append (text : Text) (rest : List UInt8) :
    (text.hashed ++ rest).takeWhile (· != 0xFF) = text.flatMap String.utf8EncodeChar := by
  have inner : ∀ byte ∈ text.flatMap String.utf8EncodeChar, (byte != 0xFF) = true := by
    intro byte found
    obtain ⟨char, -, found⟩ := List.mem_flatMap.mp found
    have bound := toNat_lt_of_mem_utf8EncodeChar char byte found
    rw [bne_iff_ne]
    intro closing
    simp [closing] at bound
  rw [hashed, List.append_assoc, List.takeWhile_append_of_pos inner]
  simp

theorem hashed_append_inj (first second : Text) (before after : List UInt8)
    (same : first.hashed ++ before = second.hashed ++ after) : first = second ∧ before = after := by
  have bytes : first.flatMap String.utf8EncodeChar = second.flatMap String.utf8EncodeChar := by
    rw [← takeWhile_hashed_append first before, same, takeWhile_hashed_append]
  have encoded : String.ofList first = String.ofList second :=
    String.toByteArray_inj.mp (congrArg List.toByteArray bytes)
  have texts : first = second := String.ofList_injective encoded
  subst texts
  exact ⟨rfl, List.append_cancel_left same⟩

/-- What texts give to a hasher one after the other tells where each of them ends. -/
theorem flatMap_hashed_inj (first second : List Text)
    (same : first.flatMap hashed = second.flatMap hashed) : first = second := by
  have filled : ∀ (text : Text) (rest : List UInt8), text.hashed ++ rest ≠ [] := by simp [hashed]
  induction first generalizing second with
  | nil =>
      cases second with
      | nil => rfl
      | cons text texts => exact absurd same.symm (filled text _)
  | cons text texts ih =>
      cases second with
      | nil => exact absurd same (filled text _)
      | cons other others =>
          obtain ⟨rfl, later⟩ := hashed_append_inj text other _ _ same
          rw [ih others later]

end Text

namespace Name
open Text

/-- The segment at the level, which is the empty text where the level is absent. -/
def segment (name : Name) (level : Level) : Text := (name.get? level).getD []

/-- At the outermost level at which the names differ, the segment of the first one comes before that of the
second one by code points. -/
def Precedes (first second : Name) : Prop :=
  ∃ level : Level, (∀ outer : Level, outer.depth < level.depth →
    first.segment outer = second.segment outer) ∧
      (first.segment level).points < (second.segment level).points

theorem length_key (name : Name) : name.key.length = 5 := rfl

theorem depth_lt_length_key (name : Name) (level : Level) : level.depth < name.key.length :=
  level.depth_lt

theorem getElem_key (name : Name) (level : Level) (inside : level.depth < name.key.length) :
    name.key[level.depth] = name.segment level := by
  cases level <;> rfl

theorem lt_iff_precedes (first second : Name) : first < second ↔ first.Precedes second := by
  change first.key < second.key ↔ _
  rw [List.lt_iff_exists]
  simp only [Precedes, points_lt_iff]
  constructor
  · intro below
    rcases below with ⟨-, shorter⟩ | ⟨depth, inside, _, same, below⟩
    · simp [length_key] at shorter
    · obtain ⟨level, rfl⟩ := Level.exists_depth depth inside
      simp only [getElem_key] at below
      refine ⟨level, ?_, below⟩
      intro outer above
      simpa only [getElem_key] using same outer.depth above
  · intro below
    obtain ⟨level, same, below⟩ := below
    refine .inr ⟨level.depth, first.depth_lt_length_key level, second.depth_lt_length_key level, ?_, ?_⟩
    · intro depth above
      obtain ⟨outer, rfl⟩ := Level.exists_depth depth (Nat.lt_trans above level.depth_lt)
      simpa only [getElem_key] using same outer above
    · simpa only [getElem_key] using below

instance : Preorder Name where
  le_refl name := List.lt_irrefl name.key
  le_trans _ _ _ low high := List.not_lt.mpr (List.le_trans (List.not_lt.mp low) (List.not_lt.mp high))
  lt_iff_le_not_ge _ _ := by
    constructor
    · intro below
      exact ⟨List.lt_asymm below, fun above => above below⟩
    · intro below
      exact not_not.mp below.2

theorem le_total (first second : Name) : first ≤ second ∨ second ≤ first :=
  List.le_total first.key second.key

theorem key_eq_key_iff (first second : Name) :
    first.key = second.key ↔ ∀ level : Level, first.segment level = second.segment level := by
  constructor
  · intro same level
    exact List.map_inj_left.mp same level level.mem_all
  · intro same
    exact List.map_congr_left fun level _ => same level

/-- The keys of well-formed names tell them apart, since no segment is empty. -/
theorem WellFormed.key_eq_iff {first second : Name} (firstFormed : first.WellFormed)
    (secondFormed : second.WellFormed) : first.key = second.key ↔ first = second := by
  have stored : ∀ {name : Name}, name.WellFormed → ∀ level,
      name.get? level = if name.segment level = [] then none else some (name.segment level) := by
    intro name formed level
    cases given : name.get? level with
    | none => simp [segment, given]
    | some text => simp [segment, given, (formed.stores level text given).1]
  constructor
  · intro same
    apply eq_of_get?
    intro level
    have here : first.segment level = second.segment level :=
      (key_eq_key_iff first second).mp same level
    rw [stored firstFormed level, stored secondFormed level, here]
  · intro same
    rw [same]

theorem WellFormed.eq_of_le {first second : Name} (firstFormed : first.WellFormed)
    (secondFormed : second.WellFormed) (low : first ≤ second) (high : second ≤ first) :
    first = second :=
  (firstFormed.key_eq_iff secondFormed).mp
    (List.le_antisymm (List.not_lt.mp low) (List.not_lt.mp high))

/-! Comparing two names gives the place of the first one in this order. -/

theorem compare_eq_lt_iff (first second : Name) : compare first second = .lt ↔ first < second :=
  compareOfLessAndEq_eq_lt

theorem compare_eq_eq_iff (first second : Name) :
    compare first second = .eq ↔ first.key = second.key := by
  change compareOfLessAndEq first.key second.key = .eq ↔ _
  unfold compareOfLessAndEq
  split
  next below =>
    have differs : first.key ≠ second.key := fun same => List.lt_irrefl second.key (same ▸ below)
    simp [differs]
  next => simp

theorem isLE_compare_iff (first second : Name) :
    (compare first second).isLE = true ↔ first ≤ second := by
  rw [Ordering.isLE_iff_eq_lt_or_eq_eq, compare_eq_lt_iff, compare_eq_eq_iff]
  exact List.le_iff_lt_or_eq.symm

theorem compare_swap (first second : Name) : compare second first = (compare first second).swap := by
  apply compareOfLessAndEq_eq_swap_of_lt_iff_not_gt_and_ne
  intro lower upper
  constructor
  · intro below
    exact ⟨List.lt_asymm below, fun same => List.lt_irrefl upper (same ▸ below)⟩
  · intro apart
    exact (List.le_iff_lt_or_eq.mp (List.not_lt.mp apart.1)).resolve_right apart.2

theorem hashed_eq_iff (first second : Name) :
    first.hashed = second.hashed ↔ first.key = second.key := by
  constructor
  · exact flatMap_hashed_inj first.key second.key
  · intro same
    change first.key.flatMap Text.hashed = second.key.flatMap Text.hashed
    rw [same]

theorem record_eq_iff (first second : Name) : first.record = second.record ↔ first = second := by
  constructor
  · intro same
    apply eq_of_get?
    intro level
    rw [← get?_record_field, same, get?_record_field]
  · intro same
    rw [same]

theorem sort_perm (names : List Name) : (sort names).Perm names := List.mergeSort_perm names _

theorem pairwise_sort (names : List Name) : (sort names).Pairwise (· ≤ ·) := by
  have sorted : (sort names).Pairwise fun first second => decide (first ≤ second) = true := by
    apply List.pairwise_mergeSort
    · simpa using fun first second third => le_trans
    · simpa using le_total
  simpa only [decide_eq_true_eq] using sorted

/-- The names in ascending order without repetition: sorted, and then freed of those that equal the one
before them. -/
def sortOnce (names : List Name) : List Name := (sort names).destutter (· ≠ ·)

section
variable {names : List Name} (formed : ∀ name ∈ names, name.WellFormed)
include formed

theorem sort_eq_of_perm {others : List Name} (permuted : names.Perm others) :
    sort names = sort others := by
  have inside : ∀ name ∈ sort names, name.WellFormed :=
    fun name found => formed name ((sort_perm names).mem_iff.mp found)
  have same : (sort names).Perm (sort others) :=
    (sort_perm names).trans (permuted.trans (sort_perm others).symm)
  refine same.eq_of_pairwise ?_ (pairwise_sort names) (pairwise_sort others)
  intro first second found other low high
  exact (inside first found).eq_of_le (inside second (same.mem_iff.mpr other)) low high

/-- In a sorted list equal names stand side by side, so that none is left twice. -/
theorem sortOnce_eq_dedup : sortOnce names = (sort names).dedup := by
  have antisymm : Std.Antisymm fun first second : Name =>
      first ≤ second ∧ first.WellFormed ∧ second.WellFormed :=
    ⟨fun first second low high => low.2.1.eq_of_le low.2.2 low.1 high.1⟩
  have sorted : (sort names).Pairwise fun first second =>
      first ≤ second ∧ first.WellFormed ∧ second.WellFormed := by
    refine (pairwise_sort names).imp_of_mem ?_
    intro first second found other low
    exact ⟨low, formed first ((sort_perm names).mem_iff.mp found),
      formed second ((sort_perm names).mem_iff.mp other)⟩
  exact sorted.destutter_eq_dedup

theorem mem_sortOnce_iff (name : Name) : name ∈ sortOnce names ↔ name ∈ names := by
  rw [sortOnce_eq_dedup formed, List.mem_dedup, (sort_perm names).mem_iff]

theorem pairwise_sortOnce : (sortOnce names).Pairwise (· < ·) := by
  have sorted : (sortOnce names).Pairwise (· ≤ ·) :=
    (pairwise_sort names).sublist (List.destutter_sublist _ _)
  have separate : (sortOnce names).Pairwise (· ≠ ·) := by
    rw [sortOnce_eq_dedup formed]
    exact List.nodup_dedup (sort names)
  refine (sorted.and separate).imp_of_mem ?_
  intro first second found other both
  refine lt_of_le_not_ge both.1 ?_
  intro above
  exact both.2 ((formed first ((mem_sortOnce_iff formed first).mp found)).eq_of_le
    (formed second ((mem_sortOnce_iff formed second).mp other)) both.1 above)

theorem length_sortOnce : (sortOnce names).length = names.toFinset.card := by
  rw [sortOnce_eq_dedup formed, ← List.card_toFinset, List.toFinset_eq_of_perm _ _ (sort_perm names)]

end

/-- What the comparison of three names can be relied on for. -/
structure Ordered (first second third : Name) : Prop where
  lexicographic : compare first second = .lt ↔ first.Precedes second
  swapped : compare second first = (compare first second).swap
  reflexive : compare first first = .eq
  antisymmetric : (compare first second).isLE → (compare second first).isLE → first = second
  transitive : (compare first second).isLE → (compare second third).isLE →
    (compare first third).isLE
  total : (compare first second).isLE ∨ (compare second first).isLE
  equal : compare first second = .eq ↔ first = second
  segments : compare first second = .eq ↔
    ∀ level : Level, first.segment level = second.segment level
  hashed : compare first second = .eq ↔ first.hashed = second.hashed
  record : compare first second = .eq ↔ first.record = second.record

theorem WellFormed.ordered {first second : Name} (firstFormed : first.WellFormed)
    (secondFormed : second.WellFormed) (third : Name) : Ordered first second third := by
  have keys := firstFormed.key_eq_iff secondFormed
  refine {
    lexicographic := (compare_eq_lt_iff first second).trans (lt_iff_precedes first second)
    swapped := compare_swap first second
    reflexive := (compare_eq_eq_iff first first).mpr rfl
    antisymmetric := ?_
    transitive := ?_
    total := ?_
    equal := (compare_eq_eq_iff first second).trans keys
    segments := (compare_eq_eq_iff first second).trans (key_eq_key_iff first second)
    hashed := (compare_eq_eq_iff first second).trans (hashed_eq_iff first second).symm
    record := (compare_eq_eq_iff first second).trans (keys.trans (record_eq_iff first second).symm) }
  · simpa only [isLE_compare_iff] using firstFormed.eq_of_le secondFormed
  · simpa only [isLE_compare_iff] using le_trans
  · simpa only [isLE_compare_iff] using le_total first second

/-- Comparison puts names into a total order that agrees with equality, with hashing and with records. So
sorting and dropping repetitions gives one list, in whatever order the names are listed. -/
theorem ordered_and_sorted_once (first second third : Name) (firstMade : Constructed first)
    (secondMade : Constructed second) (names others : List Name)
    (made : ∀ name ∈ names, Constructed name) (permuted : names.Perm others) :
    Ordered first second third ∧ sortOnce names = sortOnce others ∧
      (sortOnce names).Pairwise (fun earlier later => compare earlier later = .lt) ∧
      (∀ name, name ∈ sortOnce names ↔ name ∈ names) ∧
      (sortOnce names).length = names.toFinset.card := by
  have formed : ∀ name ∈ names, name.WellFormed := fun name found => (made name found).wellFormed
  have same : sortOnce names = sortOnce others :=
    congrArg (List.destutter (· ≠ ·)) (sort_eq_of_perm formed permuted)
  refine ⟨firstMade.wellFormed.ordered secondMade.wellFormed third, same, ?_,
    mem_sortOnce_iff formed, length_sortOnce formed⟩
  simpa only [compare_eq_lt_iff] using pairwise_sortOnce formed

/-- A partition and a view with one text, and the table that they stand in. -/
theorem ordered_and_sorted_once_at_partition_and_view :
    let partition : Name := ⟨['c'], some ['d'], some ['t'], some ['a', '='], none⟩
    let view : Name := ⟨['c'], some ['d'], some ['t'], none, some ['a', '=']⟩
    let table : Name := ⟨['c'], some ['d'], some ['t'], none, none⟩
    let names := [partition, view, table, partition]
    let others := [partition, partition, table, view]
    Constructed partition ∧ Constructed view ∧ (∀ name ∈ names, Constructed name) ∧
      names.Perm others ∧ Ordered partition view table ∧ sortOnce names = sortOnce others ∧
      (sortOnce names).Pairwise (fun earlier later => compare earlier later = .lt) ∧
      (∀ name, name ∈ sortOnce names ↔ name ∈ names) ∧
      (sortOnce names).length = names.toFinset.card := by
  intro partition view table names others
  have partitionMade : Constructed partition := .composed (.parse "c/d/t/a=".toList .heuristic rfl)
  have viewMade : Constructed view := .composed (.ofView ['c'] ['d'] ['t'] ['A', '='] rfl)
  have tableMade : Constructed table := .composed (.ofTable ['c'] ['d'] ['t'] rfl)
  have made : ∀ name ∈ names, Constructed name := by
    simp only [names, List.mem_cons, List.not_mem_nil, or_false]
    rintro name (rfl | rfl | rfl | rfl)
    exacts [partitionMade, viewMade, tableMade, partitionMade]
  have permuted : names.Perm others := by decide
  exact ⟨partitionMade, viewMade, made, permuted, ordered_and_sorted_once partition view table
    partitionMade viewMade names others made permuted⟩

end Name

end CatalogNames
