import CatalogNames.Command.Basic

/-! Reading a command from the words of a command line. The first word chooses the command; each word
after it is an option if it starts with a minus and has more, and a plain word otherwise. The words
are taken from left to right and the first fault ends the reading.

An option takes its value from the same word, after an equals sign, or from the next word, unless that
looks like an option too. In the second case the option waits, and is settled only when another known
option follows or the words end: it is then that a missing value or a repeated option comes to light,
after an unknown option or a plain word too many in between. Two minus signs alone make all that
follows plain.

The program only lists its commands with their arguments and leaves the reading to clap. The rules here are
those of that library as it documents them; they are assumed, and what is proved of command lines rests on
them. -/

namespace CatalogNames

inductive UsageError where
  | nothingGiven
  | helpAsked
  | unknownCommand
  | unknownArgument
  | missingArgument
  | missingValue
  /-- An option that takes no value is given one. -/
  | unwantedValue
  | repeatedOption
  deriving DecidableEq, Repr

namespace Command

/-- What a command accepts. -/
structure Usage where
  flags : List Text
  /-- The options with a value, by their long and short names. -/
  options : List (Text × Char)
  /-- How many plain words there may be, when there is a bound. -/
  maxWords : Option Nat

/-- What has been read so far. -/
structure Given where
  flags : List Text
  values : List (Text × Text)
  /-- An option that is not settled, with its value once that is there. -/
  waiting : Option (Text × Option Text)
  words : List Text

namespace Given

def nothing : Given := ⟨[], [], none, []⟩

def setFlag (given : Given) (flag : Text) : Except UsageError Given :=
  if given.flags.contains flag then .error .repeatedOption
  else .ok { given with flags := given.flags ++ [flag] }

def setValue (given : Given) (option value : Text) : Except UsageError Given :=
  if (given.values.lookup option).isSome then .error .repeatedOption
  else .ok { given with values := given.values ++ [(option, value)] }

def settle (given : Given) : Except UsageError Given :=
  match given.waiting with
  | none => .ok given
  | some (_, none) => .error .missingValue
  | some (option, some value) => Given.setValue { given with waiting := none } option value

def help (given : Given) : Except UsageError Given := do
  let _ ← given.settle
  .error .helpAsked

def takePlain (usage : Usage) (given : Given) (word : Text) : Except UsageError Given :=
  if usage.maxWords.any fun most => most ≤ given.words.length then .error .unknownArgument
  else .ok { given with words := given.words ++ [word] }

/-- A word that is no option is the value of an option that waits for one. -/
def takeWord (usage : Usage) (given : Given) (word : Text) : Except UsageError Given :=
  match given.waiting with
  | some (option, none) => .ok { given with waiting := some (option, some word) }
  | _ => given.takePlain usage word

def takeLong (usage : Usage) (given : Given) (name : Text) (value : Option Text) :
    Except UsageError Given :=
  if name = "help".toList then
    if value.isSome then .error .unwantedValue else given.help
  else if usage.flags.contains name then
    if value.isSome then .error .unwantedValue
    else do (← given.settle).setFlag name
  else if (usage.options.lookup name).isSome then do
    let given ← given.settle
    match value with
    | some value => given.setValue name value
    | none => .ok { given with waiting := some (name, none) }
  else .error .unknownArgument

def takeShort (usage : Usage) (given : Given) (letter : Char) (attached : Text) :
    Except UsageError Given :=
  if letter = 'h' then given.help
  else
    match usage.options.find? fun option => option.2 = letter with
    | none => .error .unknownArgument
    | some (name, _) => do
        let given ← given.settle
        match attached with
        | [] => .ok { given with waiting := some (name, none) }
        | '=' :: value => given.setValue name value
        | value => given.setValue name value

def take (usage : Usage) (given : Given) : Text → Except UsageError Given
  | '-' :: '-' :: body =>
      match Text.cut? '=' body with
      | none => given.takeLong usage body none
      | some (name, value) => given.takeLong usage name (some value)
  | '-' :: letter :: attached => given.takeShort usage letter attached
  | word => given.takeWord usage word

def takeAll (usage : Usage) (given : Given) : List Text → Except UsageError Given
  | [] => given.settle
  | word :: words =>
      if word = ['-', '-'] then do (← words.foldlM (takePlain usage) given).settle
      else do (← given.take usage word).takeAll usage words

end Given

def preferViewFlag : Text := "prefer-view".toList

def catalogOption : Text := "source".toList

def databaseOption : Text := "database".toList

def tableOption : Text := "table".toList

inductive Kind where
  | parse
  | fromJson
  | wildcard
  | select
  deriving DecidableEq, Repr

namespace Kind

def all : List Kind := [.parse, .fromJson, .wildcard, .select]

def word : Kind → Text
  | .parse => "parse".toList
  | .fromJson => "from-json".toList
  | .wildcard => "wildcard".toList
  | .select => "match".toList

def ofWord? (word : Text) : Option Kind := all.find? fun kind => kind.word = word

def usage : Kind → Usage
  | .parse => ⟨[preferViewFlag], [], some 1⟩
  | .fromJson => ⟨[], [], some 1⟩
  | .wildcard => ⟨[], [(catalogOption, 's'), (databaseOption, 'd'), (tableOption, 't')], some 0⟩
  | .select => ⟨[], [], none⟩

/-- The command of the kind with what is given, if that is all it needs. -/
def command (kind : Kind) (given : Given) : Except UsageError Command :=
  match kind, given.words with
  | .parse, [name] => .ok (.parse name (given.flags.contains preferViewFlag))
  | .fromJson, [text] => .ok (.fromJson text)
  | .wildcard, _ =>
      .ok (.wildcard (given.values.lookup catalogOption) (given.values.lookup databaseOption)
        (given.values.lookup tableOption))
  | .select, pattern :: name :: names => .ok (.select pattern (name :: names))
  | _, _ => .error .missingArgument

end Kind

def helpWord : Text := "help".toList

/-- Whether the word stands for a command, help being one. -/
def isCommand (word : Text) : Bool := word = helpWord || (Kind.ofWord? word).isSome

/-- What becomes of a first word that is an option. -/
def readOption (name : Text) (value : Option Text) : UsageError :=
  if name = helpWord then if value.isSome then .unwantedValue else .helpAsked
  else .unknownArgument

/-- What becomes of words that ask for help; there is help on each command and on help itself. -/
def readHelp : List Text → UsageError
  | [] => .helpAsked
  | [word] => if isCommand word then .helpAsked else .unknownCommand
  | _ => .unknownCommand

def read : List Text → Except UsageError Command
  | [] => .error .nothingGiven
  | first :: words =>
      match Kind.ofWord? first with
      | some kind => do kind.command (← Given.nothing.takeAll kind.usage words)
      | none =>
          if first = helpWord then .error (readHelp words)
          else
            match first with
            | ['-', '-'] =>
                match words with
                | [] => .error .nothingGiven
                | next :: _ => .error (if isCommand next then .unknownArgument else .unknownCommand)
            | '-' :: '-' :: body =>
                match Text.cut? '=' body with
                | none => .error (readOption body none)
                | some (name, value) => .error (readOption name (some value))
            | '-' :: letter :: _ => .error (if letter = 'h' then .helpAsked else .unknownArgument)
            | _ => .error .unknownCommand

end Command

end CatalogNames
