import Appraisal.Text.Blank
import Appraisal.Workflow.Error
import Appraisal.Workflow.Event

/-!
# Requesting, reading and completing revisions

A revision request is created with one row for each distinct recipient, neither read nor completed.
A recipient reads it once and completes it once.  Both are decided on the row as the transaction
loads it, and once more by the store when the row is written: a completed row is never overwritten.

The calls a client makes come last.  Each checks what it can before any transaction is opened.
-/

namespace Appraisal

/-- What a client says to create a revision request. -/
structure NewRevisionRequest where
  /-- The mapping. -/
  mappingId : MappingId
  /-- The step to be revised. -/
  step : Step
  /-- What is to be revised. -/
  comment : String
  /-- Who asks. -/
  requestedBy : EmployeeId
  /-- Who is asked, or nobody for the step's defaults. -/
  recipients : List Recipient
deriving DecidableEq

namespace Workflow

/-- Work of the workflow. -/
abbrev WorkflowWork (α : Type) : Type := Work WorkflowEvent WorkflowError α

/-- A value with the events of the workflow that were raised on the way to it. -/
abbrev WithEvents (α : Type) : Type := Recorded WorkflowEvent α

/-- What the calls of the workflow are made with. -/
structure Service where
  /-- What transactions are run with. -/
  coordinator : Coordinator
  /-- Who hears of events. -/
  dispatcher : Dispatcher WorkflowEvent

/-! ## Checks and preparations -/

/-- The comment of a revision request, which must not be missing or blank. -/
def checkComment (comment : Option String) : Except WorkflowError String :=
  match comment with
  | some text =>
    if Text.allBlank text then .error (.validation "a revision comment is required")
    else .ok text
  | none => .error (.validation "a revision comment is required")

/-- The recipients of a revision request, of whom there must be one. -/
def checkRecipients (mapping : EvaluationMapping) (step : Step) (named : List Recipient) :
    Except WorkflowError (List Recipient) :=
  match mapping.recipientsFor step named with
  | [] => .error (.validation s!"no recipients for a revision of the {step.text} step")
  | r :: rs => .ok (r :: rs)

/-- Looks up a mapping that must exist. -/
def requireMapping (id : MappingId) : WorkflowWork EvaluationMapping := do
  match ← Work.ofAnswer (Action.findMapping id) with
  | some mapping => return mapping
  | none => throw (.mappingNotFound id)

/-- A revision request with a fresh identifier, asked now. -/
def buildRequest {ε : Type} (mapping : EvaluationMapping) (step : Step) (comment : String)
    (requestedBy : EmployeeId) : Action ε RevisionRequest := do
  let id ← Action.freshId
  let now ← Action.now
  return ⟨id, mapping.id, mapping.periodId, mapping.employeeId, step, comment, requestedBy, now⟩

/-- The event that recipients were asked for a revision. -/
def requestedEvent (request : RevisionRequest) (rows : List RecipientRow) : WorkflowEvent :=
  .revisionRequested
    ⟨request.id, request.mappingId, request.step, request.requestedBy, rows.map (·.recipientId),
      request.requestedAt⟩

/-! ## Work on an open transaction -/

/-- Stores fresh rows for recipients and returns them. -/
def insertRows {ε E : Type} [OfFailure E] (requestId : RevisionRequestId) :
    List Recipient → Work ε E (List RecipientRow)
  | [] => return []
  | r :: rs => do
    let row := RecipientRow.fresh requestId r.id r.role
    Work.insertRecipient row
    return row :: (← insertRows requestId rs)

/-- Stores a revision request with a row for each distinct recipient and returns the rows. -/
def createIn {ε E : Type} [OfFailure E] (request : RevisionRequest)
    (recipients : List Recipient) : Work ε E (List RecipientRow) := do
  Work.insertRequest request
  let rows ← insertRows request.id (Recipient.distinct recipients)
  Work.perform <| Action.log .debug "revision request inserted" [
    ("revision_request_id", .text request.id.text), ("recipients", .number rows.length)]
  return rows

/-- Stores a revision request and records that recipients were asked. -/
def createRecorded (request : RevisionRequest) (recipients : List Recipient) :
    WorkflowWork (WithEvents RevisionRequest) := do
  let rows ← createIn request recipients
  return (Recorded.ofValue request).record (requestedEvent request rows)

/-- Loads the row of a recipient of a request; both must exist. -/
def loadRow (requestId : RevisionRequestId) (recipientId : EmployeeId) :
    WorkflowWork RecipientRow := do
  match ← Work.findRequest requestId with
  | none => throw (.requestNotFound requestId)
  | some _ =>
    match ← Work.findRecipient requestId recipientId with
    | none => throw (.notRecipient requestId recipientId)
    | some row => return row

/-- Marks a request read for a recipient.  If the store refuses the row, it was completed since it
was loaded, and the row as it is now is the answer. -/
def markReadIn (requestId : RevisionRequestId) (recipientId : EmployeeId) :
    WorkflowWork (WithEvents RecipientRow) := do
  let row ← loadRow requestId recipientId
  let now ← Work.perform Action.now
  if row.isRead then
    return .ofValue row
  else
    let read := row.markRead now
    if ← Work.updateRecipient read then
      return (Recorded.ofValue read).record (.revisionRead ⟨requestId, recipientId, now⟩)
    else
      return .ofValue (← loadRow requestId recipientId)

/-- The events of a completion: the request was read, unless it had been before, and completed. -/
def completionEvents (requestId : RevisionRequestId) (recipientId : EmployeeId)
    (wasRead : Bool) (comment : String) (now : Instant) : List WorkflowEvent :=
  (if wasRead then [] else [.revisionRead ⟨requestId, recipientId, now⟩]) ++
    [.revisionCompleted ⟨requestId, recipientId, comment, now⟩]

/-- Completes a request for a recipient, once. -/
def completeIn (requestId : RevisionRequestId) (recipientId : EmployeeId) (comment : String) :
    WorkflowWork (WithEvents RecipientRow) := do
  let row ← loadRow requestId recipientId
  if row.isCompleted then
    throw (.alreadyCompleted requestId recipientId)
  else
    let now ← Work.perform Action.now
    let completed := row.complete comment now
    if ← Work.updateRecipient completed then
      return ⟨completed, completionEvents requestId recipientId row.isRead comment now⟩
    else
      throw (.alreadyCompleted requestId recipientId)

/-- Loads a request with the rows of all its recipients. -/
def loadDetail (requestId : RevisionRequestId) : WorkflowWork RequestDetail := do
  match ← Work.findRequest requestId with
  | none => throw (.requestNotFound requestId)
  | some request => return ⟨request, ← Work.recipientsOf requestId⟩

/-! ## Calls -/

/-- Creates a revision request and returns it. -/
def createRequest (s : Service) (new : NewRevisionRequest) : WorkflowWork RevisionRequest := do
  let comment ← Work.ofCheck (checkComment (some new.comment))
  let mapping ← requireMapping new.mappingId
  let recipients ← Work.ofCheck (checkRecipients mapping new.step new.recipients)
  let request ← Work.perform (buildRequest mapping new.step comment new.requestedBy)
  let recorded ← s.coordinator.runWithEvents "create_revision_request" s.dispatcher
    (createRecorded request recipients)
  Work.perform <| Action.signal (.count "revision_requests_created_total" [("step", new.step.text)])
  return recorded.value

/-- Marks a request read for a recipient and returns the row.  Reading again changes nothing. -/
def markRead (s : Service) (requestId : RevisionRequestId) (recipientId : EmployeeId) :
    WorkflowWork RecipientRow := do
  let recorded ← s.coordinator.runWithEvents "mark_revision_read" s.dispatcher
    (markReadIn requestId recipientId)
  return recorded.value

/-- Completes a request for a recipient and returns the row.  Completing again is an error. -/
def submitCompletion (s : Service) (requestId : RevisionRequestId) (recipientId : EmployeeId)
    (comment : String) : WorkflowWork RecipientRow := do
  let recorded ← s.coordinator.runWithEvents "submit_revision_completion" s.dispatcher
    (completeIn requestId recipientId comment)
  Work.perform <| Action.signal (.count "revision_completions_total" [])
  return recorded.value

/-- A recipient's requests, the newest first. -/
def listForRecipient (s : Service) (recipientId : EmployeeId) (filter : RecipientFilter) :
    WorkflowWork (List RequestView) :=
  s.coordinator.runReadOnly "list_revision_requests" (Work.listFor recipientId filter)

/-- How many requests a recipient has not read. -/
def countUnread (s : Service) (recipientId : EmployeeId) : WorkflowWork Nat :=
  s.coordinator.runReadOnly "count_unread_revision_requests"
    (Work.countUnread recipientId)

/-- A request with the rows of all its recipients. -/
def getRequest (s : Service) (requestId : RevisionRequestId) : WorkflowWork RequestDetail :=
  s.coordinator.runReadOnly "get_revision_request" (loadDetail requestId)

end Workflow

end Appraisal
