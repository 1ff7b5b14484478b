import Appraisal.Action
import Appraisal.Retry

/-!
# Errors of transactions

A transaction that is given up ends with an error that says what was run, how often, and which
failure ended the last attempt.

A kind of error that work may end with takes in failures of the store and errors of transactions.
It must also tell a raw failure, which may be tried again, from all else, which is handed back.
-/

namespace Appraisal

/-- A transaction was given up. -/
structure TransactionError where
  /-- The kind of the failure that ended it. -/
  kind : FailureKind
  /-- The failure that ended it. -/
  source : Failure
  /-- What was being run. -/
  context : String
  /-- How many attempts were made. -/
  attempts : Nat
deriving DecidableEq, Repr

namespace TransactionError

/-- The text of the error. -/
def message (e : TransactionError) : String :=
  s!"Transaction '{e.context}' failed after {e.attempts} attempt(s) [{e.kind.text}]: " ++
    e.source.message

/-- Running the transaction again may help. -/
def isRetryable (e : TransactionError) : Bool := e.kind.isRetryable

end TransactionError

/-- A kind of error that work in a transaction may end with. -/
class WorkError (E : Type) extends OfFailure E where
  /-- The error of a transaction that was given up. -/
  ofTransaction : TransactionError → E
  /-- The raw failure an error stands for, if it stands for one. -/
  failure? : E → Option Failure
  /-- The error of a failure stands for that failure. -/
  failure?_ofFailure : ∀ f, failure? (ofFailure f) = some f
  /-- The error of a transaction is final. -/
  failure?_ofTransaction : ∀ e, failure? (ofTransaction e) = none

/-- The error of work that has none of its own. -/
inductive RunError
  /-- A raw failure of the store. -/
  | storage (failure : Failure)
  /-- A transaction was given up. -/
  | transaction (error : TransactionError)
deriving DecidableEq, Repr

namespace RunError

/-- The text of the error. -/
def message : RunError → String
  | storage f => f.message
  | transaction e => e.message

/-- The kind of the failure, if it was judged. -/
def kind? : RunError → Option FailureKind
  | storage _ => none
  | transaction e => some e.kind

instance : WorkError RunError where
  ofFailure := .storage
  ofTransaction := .transaction
  failure?
    | .storage f => some f
    | .transaction _ => none
  failure?_ofFailure _ := rfl
  failure?_ofTransaction _ := rfl

end RunError

end Appraisal
