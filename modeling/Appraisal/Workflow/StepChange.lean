import Appraisal.Workflow.RevisionWork

/-!
# Changing the status of a step

Any status may follow any other.  Asking for a revision also creates a revision request, in the
same transaction.  Giving a step the status it has already changes nothing and raises no event.

The record is read and rewritten whole, so the transaction is serializable.  A concurrent change to
another step of the same mapping makes it fail in a way that may pass.
-/

namespace Appraisal

/-- What a client says to change the status of a step. -/
structure StepStatusChange where
  /-- The mapping. -/
  mappingId : MappingId
  /-- The step. -/
  step : Step
  /-- The status it is to have. -/
  status : Status
  /-- Who changes it. -/
  actedBy : EmployeeId
  /-- What is to be revised; needed to ask for a revision. -/
  revisionComment : Option String
  /-- Who is asked for the revision, or nobody for the step's defaults. -/
  recipients : List Recipient
deriving DecidableEq

/-- A change with its step and status given as literals. -/
def StepStatusChange.ofLiterals (mappingId : MappingId) (step status : String)
    (actedBy : EmployeeId) : Except WorkflowError StepStatusChange :=
  match Literal.read (α := Step) step with
  | .error e => .error (.ofLiteral e)
  | .ok step =>
    match Literal.read (α := Status) status with
    | .error e => .error (.ofLiteral e)
    | .ok status => .ok ⟨mappingId, step, status, actedBy, none, []⟩

namespace Workflow

/-- A revision request that is ready to be stored, with its recipients. -/
structure PreparedRevision where
  /-- The request. -/
  request : RevisionRequest
  /-- Its recipients. -/
  recipients : List Recipient
deriving DecidableEq

/-- The record after a step changed, and whether it changed at all. -/
structure StepOutcome where
  /-- The record. -/
  record : ApprovalRecord
  /-- The step has another status than before. -/
  changed : Bool
deriving DecidableEq

/-! ## Work on an open transaction -/

/-- Stores the revision request of a change, if it asks for a revision.  The result is the events
that it raises. -/
def requestRevision : Option PreparedRevision → WorkflowWork (List WorkflowEvent)
  | none => return []
  | some p => do
    let rows ← createIn p.request p.recipients
    return [requestedEvent p.request rows]

/-- Makes a change on an open transaction. -/
def applyChange (change : StepStatusChange) (revision : Option PreparedRevision) :
    WorkflowWork (WithEvents StepOutcome) := do
  let now ← Work.perform Action.now
  let stored ← Work.findApproval change.mappingId
  let record := stored.getD (.fresh change.mappingId now)
  let before := record.status change.step
  if before = change.status then
    Work.perform <| Action.log .debug "status unchanged" [("status", .text before.text)]
    return .ofValue ⟨record, false⟩
  else
    let changed := record.change change.step change.status change.actedBy now
    Work.saveApproval changed
    let requested ← requestRevision revision
    let event : WorkflowEvent := .stepStatusChanged
      ⟨change.mappingId, change.step, before, change.status, change.actedBy, now⟩
    return ⟨⟨changed, true⟩, event :: requested⟩

/-! ## Calls -/

/-- The comment of a change, if it asks for a revision. -/
def changeComment (change : StepStatusChange) : Except WorkflowError (Option String) :=
  if change.status = .revisionRequested then (checkComment change.revisionComment).map some
  else .ok none

/-- The revision request of a change, if it has a comment for one. -/
def prepareRevision (mapping : EvaluationMapping) (change : StepStatusChange) :
    Option String → WorkflowWork (Option PreparedRevision)
  | none => return none
  | some comment => do
    let recipients ← Work.ofCheck (checkRecipients mapping change.step change.recipients)
    let request ← Work.perform (buildRequest mapping change.step comment change.actedBy)
    return some ⟨request, recipients⟩

/-- Gives a step a status and returns the record.  What can be checked is checked before any
transaction is opened, so a change that is turned down writes nothing. -/
def setStepStatus (s : Service) (change : StepStatusChange) : WorkflowWork ApprovalRecord := do
  let comment ← Work.ofCheck (changeComment change)
  let mapping ← requireMapping change.mappingId
  let revision ← prepareRevision mapping change comment
  let recorded ← s.coordinator.runWithEventsUsing "set_step_status" (.atIsolation .serializable)
    s.dispatcher (applyChange change revision)
  if recorded.value.changed then
    Work.perform do
      Action.signal (.count "step_status_changes_total"
        [("step", change.step.text), ("status", change.status.text)])
      Action.log .info "step status changed" []
  return recorded.value.record

/-- The approval record of a mapping, if it has one. -/
def getRecord (s : Service) (id : MappingId) : WorkflowWork (Option ApprovalRecord) :=
  s.coordinator.runReadOnly "get_step_approval" (Work.findApproval id)

end Workflow

end Appraisal
