import Appraisal.Failure

/-!
# Signals

While it works, the program tells its surroundings what happens: it writes log entries, counts,
and reports failures to clean up.  Nothing comes back, so signals never change an outcome.
-/

namespace Appraisal

/-- How much a log entry matters. -/
inductive LogLevel
  | debug | info | warn | error
deriving DecidableEq, Repr

/-- The value of a field of a log entry. -/
inductive LogValue
  /-- A text. -/
  | text (value : String)
  /-- A number. -/
  | number (value : Nat)
deriving DecidableEq, Repr

/-- An entry of the log. -/
structure LogEntry where
  /-- How much it matters. -/
  level : LogLevel
  /-- What happened. -/
  message : String
  /-- The details, by name. -/
  fields : List (String × LogValue)
deriving DecidableEq, Repr

/-- The clean-up that failed. -/
inductive CleanupStage
  /-- Rolling a transaction back. -/
  | rollback
  /-- Rolling back to a savepoint. -/
  | rollbackToSavepoint
  /-- Giving a session back. -/
  | release
  /-- Delivering an event. -/
  | eventDispatch
deriving DecidableEq, Repr

namespace CleanupStage

/-- The stages, in their order. -/
def all : List CleanupStage := [rollback, rollbackToSavepoint, release, eventDispatch]

/-- The name of a stage. -/
def text : CleanupStage → String
  | rollback => "rollback"
  | rollbackToSavepoint => "rollback_to_savepoint"
  | release => "release"
  | eventDispatch => "event_dispatch"

end CleanupStage

/-- A failure that came after the outcome was decided. -/
structure Diagnostic where
  /-- What was being run. -/
  context : String
  /-- What failed. -/
  stage : CleanupStage
  /-- How it failed. -/
  message : String
deriving DecidableEq, Repr

/-- Something the program tells its surroundings. -/
inductive Signal
  /-- An entry for the log. -/
  | log (entry : LogEntry)
  /-- One more for the counter with a name and labels. -/
  | count (name : String) (labels : List (String × String))
  /-- One more sample for the histogram with a name. -/
  | sample (name : String)
  /-- A failed clean-up for whoever collects them. -/
  | diagnostic (report : Diagnostic)
deriving DecidableEq, Repr

/-- Where failed clean-ups are reported to. -/
inductive DiagnosticSink
  /-- To whoever collects them. -/
  | collect
  /-- To the log. -/
  | log
deriving DecidableEq, Repr

/-- The signal that reports a failed clean-up. -/
def DiagnosticSink.signal : DiagnosticSink → Diagnostic → Signal
  | collect, d => .diagnostic d
  | log, d => .log ⟨.warn, "cleanup failed",
      [("context", .text d.context), ("stage", .text d.stage.text), ("error", .text d.message)]⟩

end Appraisal
