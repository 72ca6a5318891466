import CatalogNames.Proofs.Name.Checks
import CatalogNames.Proofs.Name.Written

/-! The two readings of one text. They look at a fourth segment only, and differ only if it has an equals
sign. Then the one takes it for a partition and the other for a view with the same text in lower case. Both
apply the same rules to the segments before it, but a partition also needs its table, so the reading that
prefers views refuses less. -/

namespace CatalogNames

open Text

/-- Without an equals sign a fourth segment is a view in both readings. -/
theorem Draft.ofSegments_reading (segments : List Text)
    (plain : ∀ last, segments[3]? = some last → '=' ∉ last) :
    Draft.ofSegments .heuristic segments = Draft.ofSegments .preferView segments := by
  cases fourth : segments[3]? with
  | none => simp [Draft.ofSegments, fourth]
  | some last =>
      have view := (Reading.heuristic.readsAsView_iff last).mpr (.inr (plain last fourth))
      have also : Reading.preferView.readsAsView last = true := rfl
      simp [Draft.ofSegments, fourth, Option.filter, view, also]

namespace Name

/-- The first three delimiters cut the text into these four segments. -/
structure Quartered (text first second third last : Text) : Prop where
  whole : text = first ++ delimiter :: (second ++ delimiter :: (third ++ delimiter :: last))
  uncut : ∀ part ∈ [first, second, third], delimiter ∉ part

theorem Quartered.segments {raw first second third last : Text}
    (quartered : Quartered raw.trim first second third last) :
    segments raw = [first, second, third, last] := by
  have uncut := quartered.uncut
  simp only [List.mem_cons, List.not_mem_nil, or_false, forall_eq_or_imp, forall_eq] at uncut
  rw [Name.segments, quartered.whole, splitAtMost_append delimiter 2 first _ uncut.1,
    splitAtMost_append delimiter 1 second _ uncut.2.1,
    splitAtMost_append delimiter 0 third _ uncut.2.2, splitAtMost]

theorem Quartered.parse {raw first second third last : Text}
    (quartered : Quartered raw.trim first second third last) (reading : Reading) :
    parse raw reading = if reading.readsAsView last then ofView first second third last
      else ofPartition first second third last := by
  have filled : ¬raw.trim.isEmpty := by
    rw [quartered.whole]
    simp
  have cut : splitAtMost delimiter 3 raw.trim = [first, second, third, last] := quartered.segments
  rw [Name.parse, if_neg filled, cut]

theorem quartered_of_fourth (raw last : Text) (fourth : (segments raw)[3]? = some last) :
    ∃ first second third, Quartered raw.trim first second third last := by
  obtain ⟨first, second, third, cut⟩ := segments_of_fourth raw last fourth
  refine ⟨first, second, third, ?_, ?_⟩
  · rw [← join_segments, cut]
    simp [join_cons, join_singleton]
  · intro part found
    apply not_mem_of_mem_take_splitAtMost delimiter 3 raw.trim part
    change part ∈ (segments raw).take 3
    rw [cut]
    exact found

theorem fourth_eq_none (raw : Text) (few : raw.trim.count delimiter < 3) :
    (segments raw)[3]? = none := by
  rw [List.getElem?_eq_none_iff, segments, length_splitAtMost]
  omega

theorem parse_reading (raw : Text)
    (plain : ∀ last, (segments raw)[3]? = some last → '=' ∉ last) :
    parse raw .heuristic = parse raw .preferView := by
  by_cases empty : raw.trim = []
  · simp [parse, empty]
  · rw [parse_eq_check raw .heuristic empty, parse_eq_check raw .preferView empty,
      Draft.ofSegments_reading (segments raw) plain]

theorem blank_of_assigns (segment : Text) (assigns : '=' ∈ segment) :
    blank (some segment) = false := by
  rw [Bool.eq_false_iff]
  intro empty
  have kept := (mem_trim_iff segment '=' (by decide)).mpr assigns
  rw [(blank_some_iff segment).mp empty] at kept
  exact List.not_mem_nil kept

/-- The same segments with the last one as a partition and as a view. -/
theorem ofPartition_ofView (first second third last : Text) (filled : blank (some last) = false) :
    (∀ name, ofPartition first second third last = .ok name →
      name.partition = some last.trim ∧ name.view = none ∧ ofView first second third last =
        .ok { name with partition := none, view := some (fold last.trim) }) ∧
    (∀ error, ofView first second third last = .error error →
      ofPartition first second third last = .error error) ∧
    (((∃ error, ofPartition first second third last = .error error) ∧
        ∃ name, ofView first second third last = .ok name) ↔
      ¬blank (some first) ∧ blank (some third)) := by
  have partition := Level.partition.stored?_eq (some last)
  have view := Level.view.stored?_eq (some last)
  rw [if_neg (Bool.eq_false_iff.mp filled)] at partition view
  have absent : blank none = true := rfl
  simp only [ofPartition, ofView, Draft.check_eq, Draft.get?, Draft.stored, filled, absent, partition,
    view]
  -- Which rule is broken first depends only on which of the outer segments are blank.
  cases blank (some first) <;> cases blank (some second) <;> cases blank (some third) <;>
    simp [Level.normalize, Level.foldsCase, Level.stored?_none]

/-- Both readings give the same name or the same error unless the text has a fourth segment with an equals
sign. Such a segment is a partition in one reading and in the other a view in lower case. What the reading
that prefers views refuses, the other refuses for the same cause, and it refuses more only if the catalog
is there and the table is blank. -/
theorem readings_compared (raw : Text) :
    (raw.trim.count delimiter < 3 ∨
        (∀ first second third last, Quartered raw.trim first second third last → '=' ∉ last) →
      parse raw .heuristic = parse raw .preferView) ∧
    ∀ first second third last, Quartered raw.trim first second third last → '=' ∈ last →
      (∀ name, parse raw .heuristic = .ok name →
        ∃ partition, name.partition = some partition ∧ name.view = none ∧ parse raw .preferView =
          .ok { name with partition := none, view := some (fold partition) }) ∧
      (∀ error, parse raw .preferView = .error error → parse raw .heuristic = .error error) ∧
      (((∃ error, parse raw .heuristic = .error error) ∧
          ∃ name, parse raw .preferView = .ok name) ↔
        ¬blank (some first) ∧ blank (some third)) := by
  refine ⟨?_, ?_⟩
  · intro plain
    apply parse_reading raw
    intro last fourth
    obtain ⟨first, second, third, quartered⟩ := quartered_of_fourth raw last fourth
    rcases plain with few | plain
    · simp [fourth_eq_none raw few] at fourth
    · exact plain first second third last quartered
  · intro first second third last quartered assigns
    obtain ⟨accepted, refused, between⟩ :=
      ofPartition_ofView first second third last (blank_of_assigns last assigns)
    have kind : Reading.heuristic.readsAsView last = false :=
      (Reading.heuristic.not_readsAsView_iff last).mpr ⟨rfl, assigns⟩
    have heuristic : parse raw .heuristic = ofPartition first second third last := by
      rw [quartered.parse .heuristic, kind]
      rfl
    have preferView : parse raw .preferView = ofView first second third last :=
      quartered.parse .preferView
    rw [heuristic, preferView]
    refine ⟨?_, refused, between⟩
    intro name made
    exact ⟨last.trim, accepted name made⟩

/-- A text without a fourth segment, and three with one: both readings take the first, both refuse the second,
and the table of the third is blank, so that only a view may stand below it. -/
theorem readings_compared_at_blank_table :
    parse "C/d/t=1".toList .heuristic = parse "C/d/t=1".toList .preferView ∧
    (Quartered (trim "C/d/t/P=1".toList) ['C'] ['d'] ['t'] "P=1".toList ∧
      parse "C/d/t/P=1".toList .heuristic =
        .ok ⟨['c'], some ['d'], some ['t'], some "P=1".toList, none⟩ ∧
      parse "C/d/t/P=1".toList .preferView =
        .ok ⟨['c'], some ['d'], some ['t'], none, some "p=1".toList⟩) ∧
    (Quartered (trim "c/ /t/P=1".toList) ['c'] [' '] ['t'] "P=1".toList ∧
      parse "c/ /t/P=1".toList .preferView = .error (.orphan .database .table) ∧
      parse "c/ /t/P=1".toList .heuristic = .error (.orphan .database .table)) ∧
    Quartered (trim "C/d/ /P=1".toList) ['C'] ['d'] [' '] "P=1".toList ∧
      (∃ error, parse "C/d/ /P=1".toList .heuristic = .error error) ∧
      ∃ name, parse "C/d/ /P=1".toList .preferView = .ok name := by
  have plain := (readings_compared "C/d/t=1".toList).1 (.inl (by decide))
  have assigns : '=' ∈ "P=1".toList := by decide
  have taken : Quartered (trim "C/d/t/P=1".toList) ['C'] ['d'] ['t'] "P=1".toList := ⟨rfl, by decide⟩
  have refused : Quartered (trim "c/ /t/P=1".toList) ['c'] [' '] ['t'] "P=1".toList := ⟨rfl, by decide⟩
  have parted : Quartered (trim "C/d/ /P=1".toList) ['C'] ['d'] [' '] "P=1".toList := ⟨rfl, by decide⟩
  have read : parse "C/d/t/P=1".toList .heuristic =
    .ok ⟨['c'], some ['d'], some ['t'], some "P=1".toList, none⟩ := rfl
  have orphan : parse "c/ /t/P=1".toList .preferView = .error (.orphan .database .table) := rfl
  have both := (readings_compared "C/d/t/P=1".toList).2 _ _ _ _ taken assigns
  have neither := (readings_compared "c/ /t/P=1".toList).2 _ _ _ _ refused assigns
  have one := (readings_compared "C/d/ /P=1".toList).2 _ _ _ _ parted assigns
  obtain ⟨partition, same, -, viewed⟩ := both.1 _ read
  obtain rfl : "P=1".toList = partition := Option.some.inj same
  exact ⟨plain, ⟨taken, read, viewed⟩, ⟨refused, orphan, neither.2.1 _ orphan⟩, parted,
    one.2.2.mpr ⟨by decide, by decide⟩⟩

end Name

end CatalogNames
