import Appraisal.Postgres.Row
import Appraisal.Session

/-!
# Stored rows

How approval records, revision requests and recipients' rows are laid out in columns, and how they
are read back from a row.  Columns are read in a fixed order, and the first one that cannot be read
decides the failure.
-/

namespace Appraisal.Postgres

/-! ## Columns -/

/-- The columns of a step in a table of approval records, with the values of its state. -/
def stepColumns (step : Step) (s : StepState) : Row := [
  (step.text ++ "_status", toCell s.status.text),
  (step.text ++ "_updated_at", optionCell s.updatedAt),
  (step.text ++ "_updated_by", optionCell s.updatedBy)]

/-- The columns of an approval record. -/
def recordRow (r : ApprovalRecord) : Row :=
  ("mapping_id", toCell r.mappingId) ::
    (Step.all.flatMap fun step => stepColumns step (r.state step)) ++
      [("created_at", toCell r.createdAt), ("updated_at", toCell r.updatedAt)]

/-- The columns of a revision request. -/
def requestRow (r : RevisionRequest) : Row := [
  ("id", toCell r.id),
  ("mapping_id", toCell r.mappingId),
  ("evaluation_period_id", toCell r.periodId),
  ("employee_id", toCell r.employeeId),
  ("step", toCell r.step.text),
  ("comment", toCell r.comment),
  ("requested_by", toCell r.requestedBy),
  ("requested_at", toCell r.requestedAt)]

/-- The columns of a recipient's row. -/
def recipientRow (r : RecipientRow) : Row := [
  ("revision_request_id", toCell r.requestId),
  ("recipient_id", toCell r.recipientId),
  ("recipient_type", toCell r.role.text),
  ("is_read", toCell r.isRead),
  ("read_at", optionCell r.readAt),
  ("is_completed", toCell r.isCompleted),
  ("completed_at", optionCell r.completedAt),
  ("response_comment", optionCell r.responseComment)]

/-! ## Reading back -/

/-- The value a literal in a row names. -/
def readLiteral {α : Type} [Literal α] (text : String) : Except Failure α :=
  match Literal.read text with
  | .ok a => .ok a
  | .error e => .error (.ofLiteral e)

/-- Reads the state of a step. -/
def readStep (row : Row) (step : Step) : Except Failure StepState := do
  let status : String ← row.read (step.text ++ "_status")
  let updatedBy ← row.readOptional (step.text ++ "_updated_by")
  let status ← readLiteral status
  let updatedAt ← row.readOptional (step.text ++ "_updated_at")
  return ⟨status, updatedAt, updatedBy⟩

/-- Reads an approval record. -/
def readRecord (row : Row) : Except Failure ApprovalRecord := do
  let mappingId ← row.read "mapping_id"
  let createdAt ← row.read "created_at"
  let updatedAt ← row.read "updated_at"
  let criteria ← readStep row .criteria
  let selfEvaluation ← readStep row .selfEvaluation
  let primary ← readStep row .primary
  let secondary ← readStep row .secondary
  return ⟨mappingId, criteria, selfEvaluation, primary, secondary, createdAt, updatedAt⟩

/-- Reads a revision request. -/
def readRequest (row : Row) : Except Failure RevisionRequest := do
  let step : String ← row.read "step"
  let id ← row.read "id"
  let mappingId ← row.read "mapping_id"
  let periodId ← row.read "evaluation_period_id"
  let employeeId ← row.read "employee_id"
  let step ← readLiteral step
  let comment ← row.read "comment"
  let requestedBy ← row.read "requested_by"
  let requestedAt ← row.read "requested_at"
  return ⟨id, mappingId, periodId, employeeId, step, comment, requestedBy, requestedAt⟩

/-- Reads a recipient's row. -/
def readRecipient (row : Row) : Except Failure RecipientRow := do
  let role : String ← row.read "recipient_type"
  let requestId ← row.read "revision_request_id"
  let recipientId ← row.read "recipient_id"
  let role ← readLiteral role
  let isRead ← row.read "is_read"
  let readAt ← row.readOptional "read_at"
  let isCompleted ← row.read "is_completed"
  let completedAt ← row.readOptional "completed_at"
  let responseComment ← row.readOptional "response_comment"
  return ⟨requestId, recipientId, role, isRead, readAt, isCompleted, completedAt,
    responseComment⟩

/-- Reads a request and the row of a recipient. -/
def readView (row : Row) : Except Failure RequestView := do
  let request ← readRequest row
  let recipient ← readRecipient row
  return ⟨request, recipient⟩

/-- Reads every row, up to the first failure. -/
def readRows {α : Type} (read : Row → Except Failure α) : List Row → Except Failure (List α)
  | [] => .ok []
  | row :: rows => do
    let a ← read row
    let as ← readRows read rows
    return a :: as

/-- Reads the first row, if there is one. -/
def readFirstRow? {α : Type} (read : Row → Except Failure α) :
    List Row → Except Failure (Option α)
  | [] => .ok none
  | row :: _ => (read row).map some

end Appraisal.Postgres
