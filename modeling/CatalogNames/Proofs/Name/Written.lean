import CatalogNames.Name.Written
import CatalogNames.Proofs.Name.WellFormed
import CatalogNames.Proofs.Text.Split

/-! Reading a written name is checking one draft: the segments between the first three delimiters in a
row, the fourth of them as a partition or as a view. So the outer levels of a name that is read hold no
delimiter, and its last segment is of the kind that the reading takes it for. -/

namespace CatalogNames

namespace Reading
open Text

theorem readsAsView_iff (reading : Reading) (segment : Text) :
    reading.readsAsView segment = true ↔ reading = .preferView ∨ '=' ∉ segment := by
  cases reading <;> simp [readsAsView]

theorem not_readsAsView_iff (reading : Reading) (segment : Text) :
    reading.readsAsView segment = false ↔ reading = .heuristic ∧ '=' ∈ segment := by
  cases reading <;> simp [readsAsView]

theorem readsAsView_normalize (reading : Reading) (level : Level) (segment : Text) :
    reading.readsAsView (level.normalize segment) = reading.readsAsView segment := by
  rw [Bool.eq_iff_iff, readsAsView_iff, readsAsView_iff,
    level.mem_normalize_iff segment '=' (by decide) (by decide)]

end Reading

/-- The draft of segments in a row, the fourth of them taken as the reading says. -/
def Draft.ofSegments (reading : Reading) (segments : List Text) : Draft := {
  catalog := segments[0]?.getD []
  database := segments[1]?
  table := segments[2]?
  partition := segments[3]?.filter fun last => !reading.readsAsView last
  view := segments[3]?.filter reading.readsAsView }

theorem Draft.get?_ofSegments (reading : Reading) (segments : List Text) (level : Level)
    (outer : level.depth < 3) (part : Text) (found : segments[level.depth]? = some part) :
    (Draft.ofSegments reading segments).get? level = some part := by
  cases level with
  | catalog =>
      change segments[0]? = some part at found
      simp only [Draft.get?, Draft.ofSegments, found, Option.getD_some]
  | database => exact found
  | table => exact found
  | partition => contradiction
  | view => contradiction

/-- A fourth segment is one of the two, never both. -/
theorem Draft.single_ofSegments (reading : Reading) (segments : List Text) :
    (Draft.ofSegments reading segments).partition = none ∨
      (Draft.ofSegments reading segments).view = none := by
  simp only [Draft.ofSegments]
  cases segments[3]? with
  | none => exact .inl rfl
  | some last => cases kind : reading.readsAsView last <;> simp [Option.filter, kind]

namespace Name
open Text

/-- The segments of a written name, at most four of them. -/
def segments (raw : Text) : List Text := raw.trim.splitAtMost delimiter 3

theorem join_segments (raw : Text) : join delimiter (segments raw) = raw.trim :=
  join_splitAtMost delimiter 3 raw.trim

/-- A text that is not blank is read by checking the draft of its segments. -/
theorem parse_eq_check (raw : Text) (reading : Reading) (filled : raw.trim ≠ []) :
    parse raw reading = (Draft.ofSegments reading (segments raw)).check := by
  have few : (segments raw).length ≤ 4 := length_splitAtMost_le delimiter 3 raw.trim
  have some : segments raw ≠ [] := splitAtMost_ne_nil delimiter 3 raw.trim
  have blank : ¬raw.trim.isEmpty := by simpa using filled
  have cut : splitAtMost delimiter 3 raw.trim = segments raw := rfl
  unfold parse
  rw [if_neg blank, cut]
  generalize segments raw = parts at few some ⊢
  rcases parts with _ | ⟨catalog, _ | ⟨database, _ | ⟨table, _ | ⟨last, _ | ⟨extra, more⟩⟩⟩⟩⟩
  · contradiction
  · rfl
  · rfl
  · rfl
  · cases kind : reading.readsAsView last <;>
      simp [Draft.ofSegments, ofView, ofPartition, kind, Option.filter]
  · simp only [List.length_cons] at few
    omega

theorem parse_eq_ok_iff (raw : Text) (reading : Reading) (name : Name) :
    parse raw reading = .ok name ↔
      raw.trim ≠ [] ∧ (Draft.ofSegments reading (segments raw)).check = .ok name := by
  by_cases blank : raw.trim = []
  · simp [parse, blank]
  · simp [parse_eq_check raw reading blank, blank]

/-- What reads as the name can only do so if the outer levels hold no delimiter and the last segment is
of the kind that the reading takes it for. -/
structure Writable (reading : Reading) (name : Name) : Prop where
  uncut : ∀ level ∈ [Level.catalog, .database, .table], ∀ segment,
    name.get? level = some segment → delimiter ∉ segment
  partition : ∀ segment, name.partition = some segment → reading.readsAsView segment = false
  view : ∀ segment, name.view = some segment → reading.readsAsView segment = true
  single : name.partition = none ∨ name.view = none

theorem not_mem_segment (raw : Text) (index : Nat) (outer : index < 3) (part : Text)
    (found : (segments raw)[index]? = some part) : delimiter ∉ part := by
  apply not_mem_of_mem_take_splitAtMost delimiter 3 raw.trim part
  apply List.mem_of_getElem? (i := index)
  rw [List.getElem?_take_of_lt outer]
  exact found

theorem not_mem_ofSegments (raw : Text) (reading : Reading) (level : Level)
    (outer : level ∈ [Level.catalog, .database, .table]) (part : Text)
    (given : (Draft.ofSegments reading (segments raw)).get? level = some part) : delimiter ∉ part := by
  simp only [List.mem_cons, List.not_mem_nil, or_false] at outer
  rcases outer with rfl | rfl | rfl
  · simp only [Draft.get?, Draft.ofSegments, Option.some.injEq] at given
    cases found : (segments raw)[0]? with
    | none =>
        rw [found] at given
        simp [← given]
    | some first =>
        rw [found] at given
        exact given ▸ not_mem_segment raw 0 (by decide) first found
  · exact not_mem_segment raw 1 (by decide) part given
  · exact not_mem_segment raw 2 (by decide) part given

/-- Each segment of a name that is read is the normal form of one that the text gives for its level. -/
theorem given_of_parse (raw : Text) (reading : Reading) (name : Name)
    (read : parse raw reading = .ok name) (level : Level) (segment : Text)
    (stored : name.get? level = some segment) :
    ∃ part, (Draft.ofSegments reading (segments raw)).get? level = some part ∧
      level.normalize part = segment := by
  obtain ⟨-, passed⟩ := (parse_eq_ok_iff raw reading name).mp read
  obtain ⟨same, -⟩ := (Draft.check_eq_ok_iff _ name).mp passed
  obtain ⟨part, found, normal, -⟩ :=
    (Level.stored?_eq_some_iff level _ segment).mp ((same level).symm.trans stored)
  exact ⟨part, found, normal⟩

/-- No outer segment is longer than the part that it is read from. -/
theorem length_le_of_parse (raw : Text) (reading : Reading) (name : Name)
    (read : parse raw reading = .ok name) (level : Level) (outer : level.depth < 3)
    (segment part : Text) (stored : name.get? level = some segment)
    (found : (segments raw)[level.depth]? = some part) : segment.length ≤ part.length := by
  obtain ⟨other, given, rfl⟩ := given_of_parse raw reading name read level segment stored
  rw [Draft.get?_ofSegments reading (segments raw) level outer part found] at given
  cases given
  exact level.length_normalize_le part

theorem segments_of_fourth (raw last : Text) (fourth : (segments raw)[3]? = some last) :
    ∃ first second third, segments raw = [first, second, third, last] := by
  have few : (segments raw).length ≤ 4 := length_splitAtMost_le delimiter 3 raw.trim
  match segments raw, few, fourth with
  | [first, second, third, other], _, same =>
      cases same
      exact ⟨first, second, third, rfl⟩

theorem writable_of_parse (raw : Text) (reading : Reading) (name : Name)
    (read : parse raw reading = .ok name) : name.Writable reading := by
  have given := given_of_parse raw reading name read
  refine ⟨?_, ?_, ?_, ?_⟩
  · intro level outer segment present
    obtain ⟨part, found, rfl⟩ := given level segment present
    rw [level.mem_normalize_iff part delimiter (by decide) (by decide)]
    exact not_mem_ofSegments raw reading level outer part found
  · intro segment present
    obtain ⟨part, found, rfl⟩ := given .partition segment present
    have kind := (Option.filter_eq_some_iff.mp found).2
    rw [reading.readsAsView_normalize]
    simpa using kind
  · intro segment present
    obtain ⟨part, found, rfl⟩ := given .view segment present
    have kind := (Option.filter_eq_some_iff.mp found).2
    rw [reading.readsAsView_normalize]
    exact kind
  · obtain ⟨-, passed⟩ := (parse_eq_ok_iff raw reading name).mp read
    exact single_of_check _ name passed (Draft.single_ofSegments reading (segments raw))

end Name

end CatalogNames
