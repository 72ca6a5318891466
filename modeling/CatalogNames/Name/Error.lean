import CatalogNames.Level

/-! Why a name is refused, or a level of a name is not to be had, and the wording of each cause. -/

namespace CatalogNames

/-- What is wrong with a text that is read as a name. -/
inductive Unreadable where
  | blank
  | segmentCount
  deriving DecidableEq, Repr

inductive NameError where
  /-- The level has to be there and its segment is blank. -/
  | blank (level : Level)
  /-- A level is there without one that it needs. -/
  | orphan (missing present : Level)
  | unreadable (input : Text) (fault : Unreadable)
  /-- A record has neither the field of the level nor a whole name. -/
  | fieldMissing (level : Level)
  /-- The level is asked for and the name does not have it. -/
  | undefined (level : Level)
  deriving DecidableEq, Repr

def Unreadable.message : Unreadable → Text
  | .blank => "passed in an empty definition name".toList
  | .segmentCount => "expected one to four '/'-separated segments".toList

def NameError.message : NameError → Text
  | .blank level => level.field ++ " cannot be an empty string".toList
  | .orphan missing present =>
      missing.field ++ " is not present but ".toList ++ present.field ++ " is present".toList
  | .unreadable input fault =>
      "unable to convert '".toList ++ input ++ "' into a qualified name: ".toList ++ fault.message
  | .fieldMissing level => "structured name is missing ".toList ++ level.field
  | .undefined level => "this is not a ".toList ++ level.word ++ " definition".toList

end CatalogNames
