import Appraisal.Dispatch

/-!
# Events of the workflow

What the workflow tells handlers once a change has been committed: a step moved to another status,
recipients were asked for a revision, a recipient read a request for the first time, and a
recipient completed a revision.
-/

namespace Appraisal

/-- A step moved to another status. -/
structure StepStatusChanged where
  /-- The mapping. -/
  mappingId : MappingId
  /-- The step. -/
  step : Step
  /-- Its status before. -/
  before : Status
  /-- Its status after. -/
  after : Status
  /-- Who changed it. -/
  changedBy : EmployeeId
  /-- When. -/
  changedAt : Instant
deriving DecidableEq

/-- Recipients were asked to revise a step. -/
structure RevisionRequested where
  /-- The request. -/
  requestId : RevisionRequestId
  /-- The mapping. -/
  mappingId : MappingId
  /-- The step. -/
  step : Step
  /-- Who asked. -/
  requestedBy : EmployeeId
  /-- Who was asked, each once. -/
  recipients : List EmployeeId
  /-- When. -/
  requestedAt : Instant
deriving DecidableEq

/-- A recipient read a request for the first time. -/
structure RevisionRead where
  /-- The request. -/
  requestId : RevisionRequestId
  /-- The recipient. -/
  recipientId : EmployeeId
  /-- When. -/
  at_ : Instant
deriving DecidableEq

/-- A recipient completed a revision. -/
structure RevisionCompleted where
  /-- The request. -/
  requestId : RevisionRequestId
  /-- The recipient. -/
  recipientId : EmployeeId
  /-- What they answered. -/
  responseComment : String
  /-- When. -/
  completedAt : Instant
deriving DecidableEq

/-- An event of the workflow. -/
inductive WorkflowEvent
  /-- A step moved to another status. -/
  | stepStatusChanged (data : StepStatusChanged)
  /-- Recipients were asked to revise a step. -/
  | revisionRequested (data : RevisionRequested)
  /-- A recipient read a request for the first time. -/
  | revisionRead (data : RevisionRead)
  /-- A recipient completed a revision. -/
  | revisionCompleted (data : RevisionCompleted)
deriving DecidableEq

namespace WorkflowEvent

/-- The name of the kind of an event. -/
def name : WorkflowEvent → String
  | stepStatusChanged _ => "StepStatusChanged"
  | revisionRequested _ => "RevisionRequested"
  | revisionRead _ => "RevisionRead"
  | revisionCompleted _ => "RevisionCompleted"

/-- What the log says of an event, besides its name. -/
def logFields : WorkflowEvent → List (String × LogValue)
  | stepStatusChanged d => [
    ("mapping_id", .text d.mappingId.text), ("step", .text d.step.text),
    ("from", .text d.before.text), ("to", .text d.after.text)]
  | revisionRequested d => [
    ("revision_request_id", .text d.requestId.text), ("step", .text d.step.text),
    ("recipients", .number d.recipients.length)]
  | revisionRead d => [
    ("revision_request_id", .text d.requestId.text), ("recipient_id", .text d.recipientId.text)]
  | revisionCompleted d => [
    ("revision_request_id", .text d.requestId.text), ("recipient_id", .text d.recipientId.text)]

/-- The log entry of an event. -/
def logEntry (event : WorkflowEvent) : LogEntry :=
  ⟨.info, "workflow event", ("event_type", .text event.name) :: event.logFields⟩

/-- The handler that writes every event to the log. -/
def loggingHandler : Handler WorkflowEvent := ⟨"LoggingHandler", some logEntry⟩

end WorkflowEvent

end Appraisal
