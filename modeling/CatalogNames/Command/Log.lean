import CatalogNames.Command.Basic

/-! What the program tells its log while it runs. The log is set up outside of these rules: which events it
admits, whether its lines go to standard output, and how a line looks. Each step tells its events in the
order in which it comes to them, so a step that ends early tells nothing of what would follow.

The log itself is that of tracing and its subscriber. Their order of severities, and standard output as the
place where lines go by default, are assumed as documented. -/

namespace CatalogNames

inductive Severity where
  | trace
  | debug
  | info
  | warn
  | error
  deriving DecidableEq, Repr

def Severity.rank : Severity → Nat
  | .trace => 0
  | .debug => 1
  | .info => 2
  | .warn => 3
  | .error => 4

inductive Event where
  /-- The segments under the catalog, as it is given, are no name. -/
  | nameRefused (error : NameError) (catalog : Text)
  | blankRefused (raw : Text)
  | countRefused (raw : Text) (segments : Nat)
  | fourthRead (segment : Text) (reading : Reading) (isView : Bool)
  /-- A record has neither a catalog nor a whole name. -/
  | recordUnnamed
  | parsed (name : Name)
  | unmatched (name : Name) (pattern : Text)
  | failed (error : CommandError)
  deriving DecidableEq, Repr

def Event.severity : Event → Severity
  | .fourthRead _ _ _ => .trace
  | .failed _ => .error
  | _ => .debug

structure Log where
  admits : Event → Bool
  /-- Whether the lines go to standard output. -/
  onOutput : Bool
  /-- The line of an event, by its number among the lines; its time and layout are left to the log. -/
  line : Nat → Event → Text

namespace Log

/-- What stands on standard output of the events. -/
def written (log : Log) (events : List Event) : Text :=
  if log.onOutput then ((events.filter log.admits).mapIdx log.line).flatten else []

/-- The log as the program sets it up: on standard output, and with warnings and errors only, unless its
surroundings name a filter. -/
def setUp (filter : Option (Event → Bool)) (line : Nat → Event → Text) : Log where
  admits := filter.getD fun event => Severity.warn.rank ≤ event.severity.rank
  onOutput := true
  line

/-- No event comes to standard output: the log is off, or its lines go elsewhere. -/
def Quiet (log : Log) : Prop := log.onOutput = false ∨ ∀ event, log.admits event = false

end Log

namespace Name

/-- What is told of segments under the catalog that become a name or are refused. -/
def checkEvents (catalog : Text) : Except NameError Name → List Event
  | .error error => [.nameRefused error catalog]
  | .ok _ => []

def parseEvents (raw : Text) (reading : Reading) : List Event :=
  if raw.trim.isEmpty then [.blankRefused raw]
  else
    match raw.trim.splitAtMost delimiter 3 with
    | [catalog] | [catalog, _] | [catalog, _, _] => checkEvents catalog (parse raw reading)
    | [catalog, _, _, last] =>
        .fourthRead last reading (reading.readsAsView last) ::
          checkEvents catalog (parse raw reading)
    | segments => [.countRefused raw segments.length]

def sourceEvents {σ : Type} [Source σ] (source : σ) : List Event :=
  match Source.text? source Level.catalog.field with
  | some catalog => checkEvents catalog (ofSource source)
  | none =>
      match Source.text? source wholeField with
      | some text => parseEvents text .heuristic
      | none => [.recordUnnamed]

end Name

namespace Command

def gatherEvents (pattern : Pattern) : List Text → List Event
  | [] => []
  | raw :: texts =>
      Name.parseEvents raw .heuristic ++
        match Name.parse raw .heuristic with
        | .error _ => []
        | .ok name =>
            if pattern.matchesName name then gatherEvents pattern texts
            else .unmatched name pattern.text :: gatherEvents pattern texts

def events : Command → List Event
  | .parse name preferView =>
      Name.parseEvents name (.ofBool preferView) ++
        match Name.parse name (.ofBool preferView) with
        | .error _ => []
        | .ok name => [.parsed name]
  | .fromJson text =>
      match Json.read text with
      | none => []
      | some json => Name.sourceEvents json
  | .wildcard _ _ _ => []
  | .select pattern names => gatherEvents ⟨pattern⟩ names

end Command

end CatalogNames
