import Appraisal.Program
import Appraisal.Session
import Appraisal.Signal

/-!
# Actions

An action is a program of the workflow: its requests go to the store, the clock, the source of
identifiers and the handlers of events.  It works on one session at a time.  Opening a session
makes it the current one.

Work is an action that may fail with an error of its own kind.  `Work.store` makes a store call and
turns a failure into such an error; there is one function for each store call.
-/

namespace Appraisal

/-- A request of an action; `ε` is the type of the events it may deliver. -/
inductive Request (ε : Type)
  /-- Opens a session. -/
  | openSession
  /-- Calls the current session. -/
  | session (call : SessionCall)
  /-- Looks a mapping up, outside every session. -/
  | findMapping (id : MappingId)
  /-- Reads the clock. -/
  | now
  /-- Draws 128 random bits. -/
  | draw
  /-- Waits. -/
  | sleep (duration : Duration)
  /-- Tells the surroundings something. -/
  | signal (signal : Signal)
  /-- Hands an event to a registered handler, known by its place. -/
  | deliver (place : Nat) (event : ε)

/-- The answer to a request. -/
def Request.Answer {ε : Type} : Request ε → Type
  | openSession => Except Failure Unit
  | session call => call.Answer
  | findMapping _ => Except Failure (Option EvaluationMapping)
  | now => Instant
  | draw => Uuid
  | sleep _ => Unit
  | signal _ => Unit
  | deliver _ _ => Except String Unit

/-- A program of the workflow. -/
abbrev Action (ε α : Type) : Type := Program (Request ε) Request.Answer α

namespace Action

variable {ε : Type}

/-- Opens a session and makes it the current one. -/
def openSession : Action ε (Except Failure Unit) := .call .openSession .pure

/-- Calls the current session. -/
def session (call : SessionCall) : Action ε call.Answer := .call (.session call) .pure

/-- Looks a mapping up. -/
def findMapping (id : MappingId) : Action ε (Except Failure (Option EvaluationMapping)) :=
  .call (.findMapping id) .pure

/-- Reads the clock. -/
def now : Action ε Instant := .call .now .pure

/-- A fresh identifier. -/
def freshId {entity : Entity} : Action ε (Id entity) :=
  .call .draw fun bits => .pure (Id.random bits)

/-- Waits. -/
def sleep (duration : Duration) : Action ε Unit := .call (.sleep duration) .pure

/-- Tells the surroundings something. -/
def signal (s : Signal) : Action ε Unit := .call (.signal s) .pure

/-- Writes an entry into the log. -/
def log (level : LogLevel) (message : String) (fields : List (String × LogValue)) :
    Action ε Unit :=
  signal (.log ⟨level, message, fields⟩)

/-- Hands an event to a registered handler. -/
def deliver (place : Nat) (event : ε) : Action ε (Except String Unit) :=
  .call (.deliver place event) .pure

end Action

/-! ## Work -/

/-- A kind of error that a failure of the store can become. -/
class OfFailure (E : Type) where
  /-- The error of a failure. -/
  ofFailure : Failure → E

export OfFailure (ofFailure)

/-- An action that ends with a value or with an error. -/
abbrev Work (ε E α : Type) : Type := ExceptT E (Action ε) α

namespace Work

variable {ε E α : Type}

/-- An answer of the store as work: a failure becomes an error. -/
def ofAnswer [OfFailure E] (action : Action ε (Except Failure α)) : Work ε E α :=
  ExceptT.mk do
    match ← action with
    | .ok a => return .ok a
    | .error f => return .error (ofFailure f)

/-- An action that cannot fail, as work. -/
def perform (action : Action ε α) : Work ε E α := ExceptT.lift action

/-- The result of a check as work. -/
def ofCheck (result : Except E α) : Work ε E α := ExceptT.mk (pure result)

/-! ### Store calls on the current session -/

variable [OfFailure E]

/-- Makes a store call. -/
def store (call : StoreCall) : Work ε E call.Value :=
  ofAnswer (Action.session (.store call))

/-- The approval record of a mapping. -/
def findApproval (id : MappingId) : Work ε E (Option ApprovalRecord) :=
  store (.findApproval id)

/-- Stores an approval record. -/
def saveApproval (record : ApprovalRecord) : Work ε E Unit := store (.saveApproval record)

/-- Stores a new revision request. -/
def insertRequest (request : RevisionRequest) : Work ε E Unit := store (.insertRequest request)

/-- Stores a new row. -/
def insertRecipient (row : RecipientRow) : Work ε E Unit := store (.insertRecipient row)

/-- A revision request. -/
def findRequest (id : RevisionRequestId) : Work ε E (Option RevisionRequest) :=
  store (.findRequest id)

/-- The row of a recipient of a request. -/
def findRecipient (requestId : RevisionRequestId) (recipientId : EmployeeId) :
    Work ε E (Option RecipientRow) :=
  store (.findRecipient requestId recipientId)

/-- The rows of all recipients of a request. -/
def recipientsOf (requestId : RevisionRequestId) : Work ε E (List RecipientRow) :=
  store (.recipientsOf requestId)

/-- Stores a changed row and says whether the store took it. -/
def updateRecipient (row : RecipientRow) : Work ε E Bool := store (.updateRecipient row)

/-- A recipient's requests, the newest first. -/
def listFor (recipientId : EmployeeId) (filter : RecipientFilter) :
    Work ε E (List RequestView) :=
  store (.listFor recipientId filter)

/-- How many requests a recipient has not read. -/
def countUnread (recipientId : EmployeeId) : Work ε E Nat := store (.countUnread recipientId)

end Work

end Appraisal
