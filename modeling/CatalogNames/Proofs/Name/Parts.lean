import CatalogNames.Proofs.Name.Written

/-! The rule for written names in terms of all their delimiters. Cutting at the first three of them is
cutting at every one and joining what comes after the third again. So the number of parts decides which
levels are named, and a text is refused as unreadable only if it is blank. -/

namespace CatalogNames

theorem Draft.check_ne_unreadable (draft : Draft) (input : Text) (fault : Unreadable) :
    draft.check ≠ .error (.unreadable input fault) := by
  unfold Draft.check
  split
  next => simp
  next =>
    dsimp only
    split
    next => simp
    next => simp

namespace Name
open Text

/-- The name of the parts between all delimiters, the first of them given apart. What comes after the
third part is one segment: a view if the reading prefers views or no part of it assigns a value, and a
partition otherwise. -/
def ofParts (reading : Reading) (catalog : Text) : List Text → Except NameError Name
  | [] => ofCatalog catalog
  | [database] => ofDatabase catalog database
  | [database, table] => ofTable catalog database table
  | database :: table :: last :: more =>
      if reading = .preferView ∨ ∀ part ∈ last :: more, '=' ∉ part then
        ofView catalog database table (join delimiter (last :: more))
      else ofPartition catalog database table (join delimiter (last :: more))

/-- Joining parts again neither makes an equals sign nor hides one. -/
theorem readsAsView_join_iff (reading : Reading) (parts : List Text) :
    reading.readsAsView (join delimiter parts) = true ↔
      reading = .preferView ∨ ∀ part ∈ parts, '=' ∉ part := by
  have noDelimiter : ('=' : Char) ≠ delimiter := by decide
  rw [reading.readsAsView_iff, mem_join_iff]
  simp only [noDelimiter, false_and, or_false, not_exists, not_and]

theorem parse_eq_ofParts (raw : Text) (reading : Reading) (filled : raw.trim ≠ []) (first : Text)
    (rest : List Text) (cut : raw.trim.splitOn delimiter = first :: rest) :
    parse raw reading = ofParts reading first rest := by
  have blank : ¬raw.trim.isEmpty := by simpa using filled
  unfold parse
  rw [if_neg blank, splitAtMost_eq_joinRest, cut]
  rcases rest with _ | ⟨database, _ | ⟨table, _ | ⟨last, more⟩⟩⟩
  · rfl
  · rfl
  · rfl
  · simp only [joinRest, ofParts, readsAsView_join_iff]

/-- A blank text is refused as it was given, every other text is read by all its parts, and nothing else
is ever unreadable. -/
theorem parse_by_parts (raw : Text) (reading : Reading) :
    (∃ first rest, raw.trim.splitOn delimiter = first :: rest ∧
      parse raw reading =
        if raw.trim = [] then .error (.unreadable raw .blank) else ofParts reading first rest) ∧
    ∀ input fault, parse raw reading = .error (.unreadable input fault) ↔
      raw.trim = [] ∧ input = raw ∧ fault = .blank := by
  obtain ⟨first, rest, cut⟩ := List.exists_cons_of_ne_nil (List.splitOn_ne_nil delimiter raw.trim)
  by_cases blank : raw.trim = []
  · have refused : parse raw reading = .error (.unreadable raw .blank) := by
      rw [parse, if_pos (by simpa using blank)]
    refine ⟨⟨first, rest, cut, by rw [if_pos blank, refused]⟩, ?_⟩
    intro input fault
    rw [refused]
    simp [blank, eq_comm]
  · refine ⟨⟨first, rest, cut, ?_⟩, ?_⟩
    · rw [if_neg blank, parse_eq_ofParts raw reading blank first rest cut]
    · intro input fault
      rw [parse_eq_check raw reading blank]
      simp [blank, Draft.check_ne_unreadable]

/-- Delimiters after the third belong to the last segment, wherever the equals sign stands in it. -/
example : parse " c/D//x/y=1/ ".toList .preferView = ofView ['c'] ['D'] [] "x/y=1/".toList := rfl

end Name

end CatalogNames
