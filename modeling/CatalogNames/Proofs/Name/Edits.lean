import CatalogNames.Proofs.Name.Checks
import CatalogNames.Proofs.Name.Written
import CatalogNames.Proofs.Text.Padding

/-! What makes no difference in a written name: blanks at the ends of its segments, and the case of letters
outside a partition. One edit of these kinds keeps the trimmed and folded segments, so any number of edits
does, and from them a name is read up to the case of its partition. -/

namespace CatalogNames

open Text

theorem Reading.readsAsView_trim (reading : Reading) (segment : Text) :
    reading.readsAsView segment.trim = reading.readsAsView segment :=
  reading.readsAsView_normalize .partition segment

theorem Reading.readsAsView_fold (reading : Reading) (segment : Text) :
    reading.readsAsView (fold segment) = reading.readsAsView segment := by
  rw [Bool.eq_iff_iff, readsAsView_iff, readsAsView_iff, mem_fold_iff segment '=' (by decide)]

/-- A conversion that does not touch the equals sign may as well be made before the segments are given to
their levels. -/
theorem Draft.get?_ofSegments_map (reading : Reading) (convert : Text → Text) (empty : convert [] = [])
    (kept : ∀ segment, reading.readsAsView (convert segment) = reading.readsAsView segment)
    (segments : List Text) (level : Level) :
    (ofSegments reading (segments.map convert)).get? level =
      ((ofSegments reading segments).get? level).map convert := by
  have last (test : Text → Bool) (same : ∀ segment, test (convert segment) = test segment) :
      ((segments[3]?).map convert).filter test = ((segments[3]?).filter test).map convert := by
    rw [Option.filter_map]
    exact congrArg (fun kind => ((segments[3]?).filter kind).map convert) (funext same)
  cases level with
  | catalog =>
      simp only [get?, ofSegments, List.getElem?_map]
      cases segments[0]? <;> simp [empty]
  | database => exact List.getElem?_map
  | table => exact List.getElem?_map
  | partition =>
      simp only [get?, ofSegments, List.getElem?_map]
      exact last _ fun segment => by rw [kept]
  | view =>
      simp only [get?, ofSegments, List.getElem?_map]
      exact last _ kept

namespace Name

/-- The segments of a written name without the blanks around them. -/
def trimmedSegments (raw : Text) : List Text := trimmedParts delimiter 3 raw

theorem trimmedSegments_eq (raw : Text) : trimmedSegments raw = (segments raw).map trim :=
  (trimmedParts_trim delimiter (by decide) 3 raw).symm

theorem parse_eq_check_trimmed (raw : Text) (reading : Reading) (filled : raw.trim ≠ []) :
    parse raw reading = (Draft.ofSegments reading (trimmedSegments raw)).check := by
  rw [parse_eq_check raw reading filled, trimmedSegments_eq]
  apply Draft.check_congr
  intro level
  rw [Draft.get?_ofSegments_map reading trim rfl reading.readsAsView_trim, level.stored?_map_trim]

/-- Only a blank text has no segment but an empty one. -/
theorem trim_eq_nil_iff_trimmedSegments (raw : Text) :
    raw.trim = [] ↔ (trimmedSegments raw).map fold = [[]] := by
  constructor
  · intro empty
    rw [trimmedSegments_eq, segments, empty]
    rfl
  · intro single
    have length := congrArg List.length single
    rw [List.length_map, trimmedSegments, length_trimmedParts, List.length_singleton] at length
    have absent : delimiter ∉ raw := List.count_eq_zero.mp (by omega)
    rw [trimmedSegments, trimmedParts, splitAtMost_of_not_mem delimiter 3 raw absent] at single
    simpa [fold] using single

/-- One edit of a text. Case is changed behind the third delimiter only if the edit may go that deep. -/
inductive Edit (deep : Bool) : Text → Text → Prop where
  /-- Blanks at either end. -/
  | ends (before after text : Text) (blankBefore : ∀ char ∈ before, isBlank char = true)
      (blankAfter : ∀ char ∈ after, isBlank char = true) : Edit deep text (before ++ text ++ after)
  /-- Blanks beside one of the first three delimiters. -/
  | around (before after front rest : Text) (early : front.count delimiter < 3)
      (blankBefore : ∀ char ∈ before, isBlank char = true)
      (blankAfter : ∀ char ∈ after, isBlank char = true) :
      Edit deep (front ++ delimiter :: rest) (front ++ before ++ delimiter :: (after ++ rest))
  /-- A letter in the other case. -/
  | recase (front rest : Text) (first second : Char) (same : first.toLower = second.toLower)
      (early : deep = false → front.count delimiter < 3) :
      Edit deep (front ++ first :: rest) (front ++ second :: rest)

/-- The texts have the same segments but for blanks at their ends and the case of letters; in a fourth
segment the case is different only if that is deep enough. -/
structure Alike (deep : Bool) (first second : Text) : Prop where
  folded : (trimmedSegments first).map fold = (trimmedSegments second).map fold
  last : deep = false → (trimmedSegments first)[3]? = (trimmedSegments second)[3]?

theorem Alike.of_eq {deep : Bool} {first second : Text}
    (same : trimmedSegments first = trimmedSegments second) : Alike deep first second :=
  ⟨congrArg _ same, fun _ => by rw [same]⟩

theorem Alike.trans {deep : Bool} {first second third : Text} (left : Alike deep first second)
    (right : Alike deep second third) : Alike deep first third :=
  ⟨left.folded.trans right.folded, fun shallow => (left.last shallow).trans (right.last shallow)⟩

/-- A letter before the third delimiter stands in no fourth segment. -/
theorem getElem?_trimmedSegments_recase (front rest : Text) (first second : Char)
    (same : first.toLower = second.toLower) (early : front.count delimiter < 3) :
    (trimmedSegments (front ++ first :: rest))[3]? =
      (trimmedSegments (front ++ second :: rest))[3]? := by
  have letterless : delimiter.isAlpha = false := by decide
  have agree : first = delimiter ↔ second = delimiter := by
    rw [← toLower_eq_iff first delimiter letterless, same, toLower_eq_iff second delimiter letterless]
  by_cases mark : first = delimiter
  · rw [mark, agree.mp mark]
  · have count (char : Char) (other : char ≠ delimiter) :
        (front ++ [char]).count delimiter = front.count delimiter := by
      rw [List.count_append, List.count_singleton, if_neg (by simpa using other), Nat.add_zero]
    have before := count first mark
    have after := count second (mt agree.mpr mark)
    rw [List.append_cons front first, List.append_cons front second]
    exact getElem?_trimmedParts_of_start delimiter 3 _ _ rest (before.trans after.symm)
      (before ▸ early)

theorem Edit.alike {deep : Bool} {first second : Text} (edit : Edit deep first second) :
    Alike deep first second := by
  have visible : isBlank delimiter = false := by decide
  cases edit with
  | ends before after text blankBefore blankAfter =>
      apply Alike.of_eq
      rw [trimmedSegments, trimmedSegments,
        trimmedParts_append_blanks delimiter visible 3 _ after blankAfter,
        trimmedParts_blanks_append delimiter visible 3 before _ blankBefore]
  | around before after front rest early blankBefore blankAfter =>
      apply Alike.of_eq
      exact (trimmedParts_around delimiter visible 3 front before after rest early blankBefore
        blankAfter).symm
  | recase front rest first second same early =>
      refine ⟨?_, fun shallow =>
        getElem?_trimmedSegments_recase front rest first second same (early shallow)⟩
      have folded : fold (front ++ first :: rest) = fold (front ++ second :: rest) := by
        simp [fold, same]
      rw [trimmedSegments, trimmedSegments, ← trimmedParts_fold delimiter (by decide),
        ← trimmedParts_fold delimiter (by decide), folded]

theorem alike_of_edits {deep : Bool} {first second : Text}
    (edits : Relation.ReflTransGen (Edit deep) first second) : Alike deep first second := by
  induction edits with
  | refl => exact Alike.of_eq rfl
  | tail _ edit ih => exact ih.trans edit.alike

/-- Edits give a text that is refused for the same cause, or stands for the same name up to the case of its
partition, which is the same as well if no letter behind the third delimiter was changed. -/
theorem parse_of_edits (raw other : Text) (reading : Reading) (deep : Bool) (filled : raw.trim ≠ [])
    (edits : Relation.ReflTransGen (Edit deep) raw other) :
    (∃ error, parse raw reading = .error error ∧ parse other reading = .error error) ∨
      ∃ first second, parse raw reading = .ok first ∧ parse other reading = .ok second ∧
        first.catalog = second.catalog ∧ first.database = second.database ∧
        first.table = second.table ∧ first.view = second.view ∧
        first.partition.map fold = second.partition.map fold ∧
        (deep = false → first.partition = second.partition) := by
  have alike := alike_of_edits edits
  have also : other.trim ≠ [] := by
    rwa [Ne, trim_eq_nil_iff_trimmedSegments, ← alike.folded, ← trim_eq_nil_iff_trimmedSegments]
  rw [parse_eq_check_trimmed raw reading filled, parse_eq_check_trimmed other reading also]
  have folded : ∀ level,
      ((Draft.ofSegments reading (trimmedSegments raw)).get? level).map fold =
        ((Draft.ofSegments reading (trimmedSegments other)).get? level).map fold := by
    intro level
    rw [← Draft.get?_ofSegments_map reading fold rfl reading.readsAsView_fold, alike.folded,
      Draft.get?_ofSegments_map reading fold rfl reading.readsAsView_fold]
  rcases check_of_folded _ _ folded with refused | accepted
  · exact .inl refused
  · obtain ⟨first, second, made, again, outer, partition⟩ := accepted
    refine .inr ⟨first, second, made, again, Option.some.inj (outer .catalog rfl),
      outer .database rfl, outer .table rfl, outer .view rfl, partition, ?_⟩
    intro shallow
    -- A partition is given by the fourth segment, where no letter was changed.
    have kept := ((Draft.check_eq_ok_iff _ first).mp made).1 .partition
    have keptAgain := ((Draft.check_eq_ok_iff _ second).mp again).1 .partition
    simp only [Draft.get?, Draft.ofSegments, ← alike.last shallow] at kept keptAgain
    exact kept.trans keptAgain.symm

/-- White space that is not ASCII, and letters of the other case in the catalog and the partition. -/
theorem parse_of_edits_at_partition :
    let raw : Text := "c/d/t/P=1".toList
    let other : Text := "C\u2003/d/t/p=1 ".toList
    raw.trim ≠ [] ∧ Relation.ReflTransGen (Edit true) raw other ∧
      parse raw .heuristic = .ok ⟨['c'], some ['d'], some ['t'], some "P=1".toList, none⟩ ∧
      parse other .heuristic = .ok ⟨['c'], some ['d'], some ['t'], some "p=1".toList, none⟩ ∧
      fold "P=1".toList = fold "p=1".toList := by
  have filled : trim "c/d/t/P=1".toList ≠ [] := by decide
  have catalog : Edit true "c/d/t/P=1".toList "C/d/t/P=1".toList :=
    .recase [] "/d/t/P=1".toList 'c' 'C' rfl (by decide)
  have padded : Edit true "C/d/t/P=1".toList "C\u2003/d/t/P=1".toList :=
    .around ['\u2003'] [] ['C'] "d/t/P=1".toList (by decide) (List.forall_mem_singleton.mpr rfl)
      (List.forall_mem_nil _)
  have partition : Edit true "C\u2003/d/t/P=1".toList "C\u2003/d/t/p=1".toList :=
    .recase "C\u2003/d/t/".toList "=1".toList 'P' 'p' rfl (by decide)
  have ended : Edit true "C\u2003/d/t/p=1".toList "C\u2003/d/t/p=1 ".toList :=
    .ends [] [' '] _ (List.forall_mem_nil _) (List.forall_mem_singleton.mpr rfl)
  have edits := (((Relation.ReflTransGen.single catalog).tail padded).tail partition).tail ended
  have read : parse "c/d/t/P=1".toList .heuristic =
    .ok ⟨['c'], some ['d'], some ['t'], some "P=1".toList, none⟩ := rfl
  have reread : parse "C\u2003/d/t/p=1 ".toList .heuristic =
    .ok ⟨['c'], some ['d'], some ['t'], some "p=1".toList, none⟩ := rfl
  refine ⟨filled, edits, read, reread, ?_⟩
  rcases parse_of_edits _ _ .heuristic true filled edits with refused | accepted
  · obtain ⟨error, failed, -⟩ := refused
    rw [read] at failed
    contradiction
  · obtain ⟨first, second, made, again, -, -, -, -, folded, -⟩ := accepted
    obtain rfl := Except.ok.inj (read.symm.trans made)
    obtain rfl := Except.ok.inj (reread.symm.trans again)
    exact Option.some.inj folded

end Name

end CatalogNames
