import CatalogNames.Command.Log
import CatalogNames.Command.Usage

/-! The outcome of the program as a process: the code it ends with and what it puts on standard output. An
answer is printed only by a command that succeeds, and all of it at once. Besides there may be help, where
that is asked for, and the lines of the log, which stand before the answer; what is wrong goes to the other
output and is left out. The wording of the help and the lines of the log are given from outside. -/

namespace CatalogNames

structure Outcome where
  exitCode : Nat
  /-- What the log is told, in order. -/
  events : List Event := []
  /-- The words that ask for help, if help is shown. -/
  help : Option (List Text) := none
  /-- The lines of the answer. -/
  output : Text := []
  deriving DecidableEq, Repr

namespace Outcome

def refused : Outcome where
  exitCode := 2

def helped (words : List Text) : Outcome where
  exitCode := 0
  help := some words

/-- The error is told to the log before the process ends with it. -/
def failed (events : List Event) (error : CommandError) : Outcome where
  exitCode := 1
  events := events ++ [.failed error]

def printed (events : List Event) (lines : List Text) : Outcome where
  exitCode := 0
  events
  output := lines.flatMap fun line => line ++ ['\n']

/-- The outcome of the words of a command line. Without any words help is shown as well, but not on
standard output. -/
def ofWords (words : List Text) : Outcome :=
  match Command.read words with
  | .error .helpAsked => helped words
  | .error _ => refused
  | .ok command =>
      match command.run with
      | .error error => failed command.events error
      | .ok lines => printed command.events lines

/-- All that stands on standard output. -/
def standardOutput (log : Log) (helpText : List Text → Text) (outcome : Outcome) : Text :=
  log.written outcome.events ++ ((outcome.help.map helpText).getD [] ++ outcome.output)

end Outcome

end CatalogNames
