import Appraisal.Json.Reported
import Appraisal.Rehearsal.Handler

/-!
# Scripts

A script is a unit of work written down as data.  Its statements are executed in order on the
current session.  The first error ends the script, unless the statement that raised it is marked:
then the error is reported as the statement's result and the script goes on.

A script records events beside its results.  A script inside a savepoint hands its events on only
if it succeeds.
-/

namespace Appraisal.Rehearsal

/-- A statement. -/
inductive Statement
  /-- Calls the session. -/
  | call (call : SessionCall)
  /-- Creates a revision request on the session. -/
  | createIn (request : RevisionRequest) (recipients : List Recipient)
  /-- Records an event. -/
  | emit (event : AnyEvent)
  /-- Has a value as its result. -/
  | value (value : Json)
  /-- Fails with an error of its own. -/
  | reject (reason : String)
  /-- Fails with a raw failure. -/
  | fail (failure : Failure)
  /-- Fails with an error that is judged already. -/
  | classified (error : TransactionError)
  /-- Executes statements inside a savepoint; the mark says whose errors do not end the script. -/
  | nested (savepoint context : String) (script : List (Bool × Statement))

/-- Statements, each with a mark that says whether its error is caught. -/
abbrev Script : Type := List (Bool × Statement)

/-! ## Errors -/

/-- A kind of error that a script may end with. -/
class ScriptError (E : Type) extends WorkError E where
  /-- The error of a script that rejects. -/
  ofReason : String → E
  /-- The report of an error. -/
  report : E → Json

/-- The error of a client whose work may reject. -/
inductive ClientError
  /-- The work rejected. -/
  | rejected (reason : String)
  /-- A raw failure of the store. -/
  | storage (failure : Failure)
  /-- A transaction was given up. -/
  | transaction (error : TransactionError)

/-- The text of a rejection. -/
def rejection (reason : String) : String := "rejected: " ++ reason

instance : WorkError ClientError where
  ofFailure := .storage
  ofTransaction := .transaction
  failure?
    | .storage f => some f
    | _ => none
  failure?_ofFailure _ := rfl
  failure?_ofTransaction _ := rfl

instance : ScriptError ClientError where
  ofReason := .rejected
  report
    | .rejected reason =>
      .ofMembers [("error", .ofString "Rejected"), ("message", .ofString (rejection reason))]
    | .storage f => Json.reportFailure f
    | .transaction e => .ofMembers (Json.transactionMembers e)

/-- Work without errors of its own rejects with a raw failure. -/
instance : ScriptError RunError where
  ofReason reason := .storage (.other (rejection reason))
  report := Json.reportRunError

/-! ## Execution -/

/-- The results of a script and the events it recorded. -/
abbrev Results : Type := Recorded AnyEvent (List Json)

/-- The result of a marked statement: an error is reported instead. -/
def caught {ε E : Type} [ScriptError E] (work : Work ε E (Json × List AnyEvent)) :
    Work ε E (Json × List AnyEvent) :=
  tryCatch work fun e => return (ScriptError.report e, [])

mutual

/-- Executes a statement; its value and the events it recorded. -/
def execute {ε E : Type} [ScriptError E] (c : Coordinator) :
    Statement → Work ε E (Json × List AnyEvent)
  | .call call => do
    let value ← Work.ofAnswer (Action.session call)
    return (Json.ofAnswered call value, [])
  | .createIn request recipients => do
    let rows ← Workflow.createIn request recipients
    return (toJson rows, [])
  | .emit event => return (.null, [event])
  | .value value => return (value, [])
  | .reject reason => throw (ScriptError.ofReason reason)
  | .fail failure => throw (ofFailure failure)
  | .classified error => throw (WorkError.ofTransaction error)
  | .nested savepoint context script => do
    let results ← c.inSavepoint context savepoint (executeAll c script)
    return (.array results.value, results.pending)

/-- Executes a script. -/
def executeAll {ε E : Type} [ScriptError E] (c : Coordinator) :
    List (Bool × Statement) → Work ε E Results
  | [] => return .ofValue []
  | (mark, statement) :: rest => do
    let plain : Work ε E (Json × List AnyEvent) := do
      let (value, events) ← execute c statement
      return (Json.success value, events)
    let (result, events) ← if mark then caught plain else plain
    let results ← executeAll c rest
    return ⟨result :: results.value, events ++ results.pending⟩

end

/-- The script of an invocation: every one has its own, and the last one repeats. -/
def scriptFor (scripts : List Script) (invocation : Nat) : Script :=
  (scripts[min invocation (scripts.length - 1)]?).getD []

end Appraisal.Rehearsal
