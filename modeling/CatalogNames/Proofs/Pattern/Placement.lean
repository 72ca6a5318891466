import CatalogNames.Proofs.Pattern.Language

/-! Places of pieces in a text, told apart by their offsets. The same pieces may be put at other places, as
long as they keep their order and do not overlap. Taking each piece at its leftmost place gives a placement
that stops no later than any other one, and it gives none only if there is none. -/

namespace CatalogNames.Pattern

variable {text : Text}

/-- A piece and an offset at which it stands in the text. -/
structure Place (text : Text) where
  piece : Text
  start : Nat
  inside : start ≤ text.length
  stands : piece <+: text.drop start

/-- The offset behind the last character of the piece. -/
def Place.stop (place : Place text) : Nat := place.start + place.piece.length

theorem Place.stop_le (place : Place text) : place.stop ≤ text.length := by
  have fits := place.stands.length_le
  have inside := place.inside
  rw [List.length_drop] at fits
  unfold stop
  omega

theorem drop_of_drop_eq_append (offset : Nat) (front rest : Text)
    (whole : text.drop offset = front ++ rest) : text.drop (offset + front.length) = rest := by
  rw [← List.drop_drop, whole, List.drop_left]

/-- From an earlier offset on, the text is a gap, the piece and what follows it. -/
theorem Place.drop_eq (place : Place text) (offset : Nat) (early : offset ≤ place.start) :
    text.drop offset = (text.drop offset).take (place.start - offset) ++ place.piece ++
      text.drop place.stop := by
  obtain ⟨rest, whole⟩ := place.stands
  have behind : text.drop place.stop = rest :=
    drop_of_drop_eq_append place.start place.piece rest whole.symm
  have ahead : (text.drop offset).drop (place.start - offset) = text.drop place.start := by
    rw [List.drop_drop, Nat.add_sub_cancel' early]
  calc
    text.drop offset = (text.drop offset).take (place.start - offset) ++ text.drop place.start := by
      rw [← ahead, List.take_append_drop]
    _ = _ := by rw [behind, List.append_assoc, whole]

theorem exists_place (offset : Nat) (inside : offset ≤ text.length) (gap piece after : Text)
    (whole : text.drop offset = gap ++ piece ++ after) :
    ∃ place : Place text, place.piece = piece ∧ place.start = offset + gap.length ∧
      after = text.drop place.stop := by
  have lengths := congrArg List.length whole
  simp only [List.length_drop, List.length_append] at lengths
  rw [List.append_assoc] at whole
  have ahead := drop_of_drop_eq_append offset gap (piece ++ after) whole
  have behind := drop_of_drop_eq_append (offset + gap.length) piece after ahead
  exact ⟨⟨piece, offset + gap.length, by omega, ⟨after, ahead.symm⟩⟩, rfl, rfl, behind.symm⟩

/-- Where the last of the places stops; without any place, the offset that is given. -/
def lastStop (offset : Nat) (places : List (Place text)) : Nat :=
  (places.getLast?.map Place.stop).getD offset

theorem lastStop_cons (offset : Nat) (place : Place text) (places : List (Place text)) :
    lastStop offset (place :: places) = lastStop place.stop places := by
  unfold lastStop
  rw [List.getLast?_cons]
  cases places.getLast? <;> rfl

theorem lastStop_le (offset : Nat) (inside : offset ≤ text.length) (places : List (Place text)) :
    lastStop offset places ≤ text.length := by
  induction places generalizing offset with
  | nil => exact inside
  | cons place places ih =>
      rw [lastStop_cons]
      exact ih place.stop place.stop_le

theorem placed_of_places (offset : Nat) (places : List (Place text))
    (late : ∀ place ∈ places, offset ≤ place.start)
    (apart : places.Pairwise fun first second => first.stop ≤ second.start) :
    Placed (places.map Place.piece) (text.drop offset) (text.drop (lastStop offset places)) := by
  induction places generalizing offset with
  | nil => exact .nil _
  | cons place places ih =>
      obtain ⟨behind, apart⟩ := List.pairwise_cons.mp apart
      rw [lastStop_cons, place.drop_eq offset (late place List.mem_cons_self)]
      exact .cons _ place.piece (ih place.stop behind apart)

theorem exists_places (pieces : List Text) (offset : Nat) (inside : offset ≤ text.length) (rest : Text)
    (placed : Placed pieces (text.drop offset) rest) :
    ∃ places : List (Place text), places.map Place.piece = pieces ∧
      (∀ place ∈ places, offset ≤ place.start) ∧
      (places.Pairwise fun first second => first.stop ≤ second.start) ∧
      rest = text.drop (lastStop offset places) := by
  induction pieces generalizing offset with
  | nil =>
      have all := (placed_nil_iff _ rest).mp placed
      exact ⟨[], rfl, List.forall_mem_nil _, .nil, all.symm⟩
  | cons piece pieces ih =>
      obtain ⟨gap, after, whole, later⟩ := (placed_cons_iff piece pieces _ rest).mp placed
      obtain ⟨place, same, start, rfl⟩ := exists_place offset inside gap piece after whole
      obtain ⟨places, pieces, late, apart, rfl⟩ := ih place.stop place.stop_le later
      refine ⟨place :: places, ?_, ?_, List.pairwise_cons.mpr ⟨late, apart⟩, ?_⟩
      · rw [List.map_cons, same, pieces]
      · intro other found
        have early : offset ≤ place.start := by omega
        rcases List.mem_cons.mp found with here | there
        · exact here ▸ early
        · exact early.trans ((Nat.le_add_right _ _).trans (late other there))
      · rw [lastStop_cons]

/-- A place for each of the pieces, in their order and without overlap. -/
structure Placement (text : Text) (pieces : List Text) where
  places : List (Place text)
  pieces_eq : places.map Place.piece = pieces
  apart : places.Pairwise fun first second => first.stop ≤ second.start

namespace Placement
variable {pieces : List Text}

/-- The offset at which the last piece ends. -/
def stop (placement : Placement text pieces) : Nat := lastStop 0 placement.places

theorem stop_le (placement : Placement text pieces) : placement.stop ≤ text.length :=
  lastStop_le 0 (Nat.zero_le _) placement.places

theorem placed (placement : Placement text pieces) :
    Placed pieces text (text.drop placement.stop) := by
  have placed := placed_of_places 0 placement.places (fun place _ => Nat.zero_le place.start)
    placement.apart
  rwa [placement.pieces_eq, List.drop_zero] at placed

end Placement

theorem exists_placement (pieces : List Text) (rest : Text) (placed : Placed pieces text rest) :
    ∃ placement : Placement text pieces, rest = text.drop placement.stop := by
  obtain ⟨places, same, -, apart, left⟩ := exists_places pieces 0 (Nat.zero_le _) rest placed
  exact ⟨⟨places, same, apart⟩, left⟩

/-- Taking each piece at its leftmost place succeeds if there is a placement at all, and what it leaves is the
text behind a placement that no other one stops before. -/
theorem afterEach?_stops_first (pieces : List Text) (text : Text) :
    (∀ placement : Placement text pieces, ∃ first : Placement text pieces,
      afterEach? pieces text = some (text.drop first.stop) ∧ first.stop ≤ placement.stop) ∧
      (afterEach? pieces text = none ↔ IsEmpty (Placement text pieces)) := by
  refine ⟨?_, ?_, ?_⟩
  · intro placement
    obtain ⟨longest, found, longer⟩ :=
      afterEach?_leftmost pieces text _ text placement.placed (List.suffix_refl text)
    obtain ⟨first, rfl⟩ :=
      exists_placement pieces longest (placed_of_afterEach? pieces text longest found)
    refine ⟨first, found, ?_⟩
    -- Of two ends of the text, the longer one starts first.
    have lengths := longer.length_le
    rw [List.length_drop, List.length_drop] at lengths
    have inside := placement.stop_le
    have firstInside := first.stop_le
    omega
  · intro failed
    refine ⟨fun placement => ?_⟩
    obtain ⟨longest, found, -⟩ :=
      afterEach?_leftmost pieces text _ text placement.placed (List.suffix_refl text)
    rw [failed] at found
    contradiction
  · intro empty
    rw [Option.eq_none_iff_forall_ne_some]
    intro rest found
    obtain ⟨placement, -⟩ := exists_placement pieces rest (placed_of_afterEach? pieces text rest found)
    exact empty.false placement

/-- A piece that overlaps itself, first at places that leave no text behind them. -/
theorem afterEach?_stops_first_at_overlap :
    let text : Text := "aaaaa".toList
    let pieces : List Text := ["aa".toList, "aa".toList]
    ∃ placement : Placement text pieces, placement.stop = 5 ∧
      ∃ first : Placement text pieces,
        afterEach? pieces text = some (text.drop first.stop) ∧ first.stop ≤ 5 := by
  let early : Place "aaaaa".toList := ⟨"aa".toList, 1, by decide, by decide⟩
  let late : Place "aaaaa".toList := ⟨"aa".toList, 3, by decide, by decide⟩
  let placement : Placement "aaaaa".toList ["aa".toList, "aa".toList] :=
    ⟨[early, late], rfl, List.pairwise_pair.mpr (by decide)⟩
  exact ⟨placement, rfl, (afterEach?_stops_first _ _).1 placement⟩

end CatalogNames.Pattern
