import CatalogNames.Decoding
import CatalogNames.Pattern

/-! What the program can be asked to do, and what it answers, line by line. -/

namespace CatalogNames

inductive Command where
  /-- Shows the record of a name. -/
  | parse (name : Text) (preferView : Bool)
  /-- Shows the canonical text of the name in a JSON text. -/
  | fromJson (text : Text)
  /-- Shows the pattern of the filters. -/
  | wildcard (catalog database table : Option Text)
  /-- Shows the names that match the pattern. -/
  | select (pattern : Text) (names : List Text)
  deriving DecidableEq, Repr

/-- Why a command gives no answer. -/
inductive CommandError where
  | malformedJson
  | name (error : NameError)
  deriving DecidableEq, Repr

namespace Command

/-- The matched names so far with those of the texts, in order. A text that stands for no name ends the
loop at once, and what is matched by then is lost. -/
def gather (pattern : Pattern) (matched : List Text) : List Text → Except CommandError (List Text)
  | [] => .ok matched
  | raw :: texts => do
      let name ← (Name.parse raw .heuristic).mapError .name
      if pattern.matchesName name then gather pattern (matched ++ [name.text]) texts
      else gather pattern matched texts

def run : Command → Except CommandError (List Text)
  | .parse name preferView => do
      let name ← (Name.parse name (.ofBool preferView)).mapError .name
      .ok [name.toJson.indented]
  | .fromJson text =>
      match Json.read text with
      | none => .error .malformedJson
      | some json => do
          let name ← (Name.ofSource json).mapError .name
          .ok [name.text]
  | .wildcard catalog database table =>
      .ok [((Pattern.ofFilters? catalog database table).map Pattern.text).getD "no filter".toList]
  | .select pattern names => gather ⟨pattern⟩ [] names

end Command

end CatalogNames
