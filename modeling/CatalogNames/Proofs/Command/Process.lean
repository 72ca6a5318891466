import CatalogNames.Command.Outcome
import Mathlib.Data.List.Basic

/-! How the process of a command ends. While the command runs, the log is told nothing that weighs as much as
a warning; only the error that a failed process ends with does. So standard output of a failed process holds
no part of an answer, only what the log writes there: nothing if the log is quiet, and the line of the error
if the log is set up as the program does it without a filter. -/

namespace CatalogNames

namespace Event

/-- The event weighs less than a warning. -/
def Minor (event : Event) : Prop := event.severity.rank < Severity.warn.rank

end Event

namespace Name

end Name

namespace Command

end Command

namespace Log

/-- Without a filter the log shows the error that the process ends with and nothing else. -/
theorem written_setUp_of_minor (line : Nat → Event → Text) (earlier : List Event) (error : CommandError)
    (minor : ∀ event ∈ earlier, event.Minor) :
    (setUp none line).written (earlier ++ [.failed error]) = line 0 (.failed error) := by
  have dropped : earlier.filter (setUp none line).admits = [] := by
    rw [List.filter_eq_nil_iff]
    intro event found
    simpa [setUp, Event.Minor] using minor event found
  have kept : [Event.failed error].filter (setUp none line).admits = [.failed error] := rfl
  rw [written, List.filter_append, dropped, kept]
  exact List.append_nil _

end Log

namespace Outcome

/-- The process fails with the error. The log is told of it last, and only the log writes to standard
output. -/
structure Fails (outcome : Outcome) (error : CommandError) : Prop where
  exitCode : outcome.exitCode = 1
  reported : ∃ earlier, outcome.events = earlier ++ [.failed error] ∧ ∀ event ∈ earlier, event.Minor
  standardOutput : ∀ log helpText, outcome.standardOutput log helpText = log.written outcome.events
  silent : ∀ log helpText, log.Quiet → outcome.standardOutput log helpText = []

/-- By the log as the program sets it up on its own, a failed process puts the line of its error on standard
output. -/
theorem Fails.standardOutput_setUp {outcome : Outcome} {error : CommandError} (fails : outcome.Fails error)
    (line : Nat → Event → Text) (helpText : List Text → Text) :
    outcome.standardOutput (.setUp none line) helpText = line 0 (.failed error) := by
  obtain ⟨earlier, told, minor⟩ := fails.reported
  rw [fails.standardOutput, told, Log.written_setUp_of_minor line earlier error minor]

end Outcome

end CatalogNames
