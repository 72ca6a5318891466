import CatalogNames.Name.Written

/-! In a pattern each wildcard stands for any text, which may be empty and may hold delimiters; every
other character stands for itself. A text is matched from the left: the piece before the first
wildcard must start it, each piece between wildcards is taken at its leftmost place in what is left,
and the piece after the last wildcard must end what is left then. No place is tried twice, since a
later place of a piece never leaves more text for the pieces that follow. -/

namespace CatalogNames

structure Pattern where
  text : Text
  deriving DecidableEq, Repr

namespace Pattern

def wildcard : Char := '%'

/-- What follows the piece at the start of the text. -/
def afterStart? (piece text : Text) : Option Text :=
  if piece.isPrefixOf text then some (text.drop piece.length) else none

/-- What follows the leftmost place of the piece in the text. -/
def afterFirst? (piece : Text) : Text → Option Text
  | [] => afterStart? piece []
  | head :: rest => (afterStart? piece (head :: rest)).or (afterFirst? piece rest)

/-- What is left when each piece is taken at its leftmost place after the one before it. -/
def afterEach? : List Text → Text → Option Text
  | [], text => some text
  | piece :: pieces, text => (afterFirst? piece text).bind (afterEach? pieces)

def matchesText (pattern : Pattern) (text : Text) : Bool :=
  match pattern.text.splitOn wildcard with
  | [] => false
  | start :: pieces =>
      match afterStart? start text, pieces.getLast? with
      | none, _ => false
      | some rest, none => rest.isEmpty
      | some rest, some last =>
          match afterEach? pieces.dropLast rest with
          | none => false
          | some rest => last.isSuffixOf rest

def matchesName (pattern : Pattern) (name : Name) : Bool := pattern.matchesText name.text

/-- The pattern of the names in the given catalog and database whose table starts as given. A filter
that is left out lets everything through, and without any filter there is no pattern. The filters are
taken as they are, so a wildcard in one counts as a wildcard. -/
def ofFilters? (catalog database table : Option Text) : Option Pattern :=
  if catalog.isNone && database.isNone && table.isNone then none
  else
    let filters := [catalog, database, table].map fun filter => filter.getD [wildcard]
    some ⟨Text.join Name.delimiter filters ++ [wildcard]⟩

theorem afterStart?_eq_some_iff {piece text rest : Text} :
    afterStart? piece text = some rest ↔ text = piece ++ rest := by
  simp only [afterStart?]
  split
  next starts =>
    obtain ⟨tail, rfl⟩ : piece <+: text := by simpa using starts
    simp
  next differs =>
    simp only [reduceCtorEq, false_iff]
    intro same
    exact differs (by simp [same])

end Pattern

end CatalogNames
