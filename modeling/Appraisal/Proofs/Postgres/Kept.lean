import Appraisal.Postgres.Session

/-!
# What the server keeps of a row

The server keeps times in microseconds, so a row is read back with its times cut off
(`readRecipient_recipientRow`, `readRequest_requestRow`).
-/

namespace Appraisal.Postgres

/-- A time as the server keeps it. -/
def keptTime (t : Instant) : Instant := (Timestamp.ofInstant t).instant

/-- A row as it is read back. -/
def kept (r : RecipientRow) : RecipientRow :=
  { r with readAt := r.readAt.map keptTime, completedAt := r.completedAt.map keptTime }

section

variable {row : Row} {name : String} {α : Type} [CellType α]

theorem read_of_cell {a : α} {cell : Cell} (found : row.cell? name = some cell)
    (filled : cell ≠ .null) (read : CellType.ofCell? cell = some a) : row.read name = .ok a := by
  unfold Row.read
  rw [found]
  cases cell <;> simp_all [decodeCell, decodeValue]

theorem readOptional_of_cell {a : α} {cell : Cell} (found : row.cell? name = some cell)
    (filled : cell ≠ .null) (read : CellType.ofCell? cell = some a) :
    row.readOptional name = .ok (some a) := by
  unfold Row.readOptional
  rw [found]
  cases cell <;> simp_all [decodeValue, Except.map]

theorem readOptional_of_null (found : row.cell? name = some .null) :
    (row.readOptional name : Except Failure (Option α)) = .ok none := by
  unfold Row.readOptional
  rw [found]

end

theorem readOptional_time {row : Row} {name : String} {t : Option Instant}
    (found : row.cell? name = some (optionCell t)) :
    row.readOptional name = .ok (t.map keptTime) := by
  cases t with
  | none => exact readOptional_of_null found
  | some t => exact readOptional_of_cell found nofun rfl

theorem readOptional_text {row : Row} {name : String} {t : Option String}
    (found : row.cell? name = some (optionCell t)) : row.readOptional name = .ok t := by
  cases t with
  | none => exact readOptional_of_null found
  | some t => exact readOptional_of_cell found nofun rfl

theorem readRecipient_recipientRow (r : RecipientRow) :
    readRecipient (recipientRow r) = .ok (kept r) := by
  have role : (recipientRow r).read "recipient_type" = .ok r.role.text := read_of_cell rfl nofun rfl
  have requestId : (recipientRow r).read "revision_request_id" = .ok r.requestId :=
    read_of_cell rfl nofun rfl
  have recipientId : (recipientRow r).read "recipient_id" = .ok r.recipientId :=
    read_of_cell rfl nofun rfl
  have isRead : (recipientRow r).read "is_read" = .ok r.isRead := read_of_cell rfl nofun rfl
  have isCompleted : (recipientRow r).read "is_completed" = .ok r.isCompleted :=
    read_of_cell rfl nofun rfl
  have readAt : (recipientRow r).readOptional "read_at" = .ok (r.readAt.map keptTime) :=
    readOptional_time rfl
  have completedAt : (recipientRow r).readOptional "completed_at" =
      .ok (r.completedAt.map keptTime) := readOptional_time rfl
  have comment : (recipientRow r).readOptional "response_comment" = .ok r.responseComment :=
    readOptional_text rfl
  have named : readLiteral (α := Role) r.role.text = .ok r.role := by
    unfold readLiteral
    rw [show r.role.text = Literal.text r.role from rfl, Literal.read_text]
  simp only [readRecipient, role, requestId, recipientId, isRead, isCompleted, readAt, completedAt,
    comment, named, bind, Except.bind, pure, Except.pure]
  rfl

/-- A request as it is read back. -/
def keptRequest (q : RevisionRequest) : RevisionRequest :=
  { q with requestedAt := keptTime q.requestedAt }

theorem readRequest_requestRow (q : RevisionRequest) :
    readRequest (requestRow q) = .ok (keptRequest q) := by
  have step : (requestRow q).read "step" = .ok q.step.text := read_of_cell rfl nofun rfl
  have id : (requestRow q).read "id" = .ok q.id := read_of_cell rfl nofun rfl
  have mappingId : (requestRow q).read "mapping_id" = .ok q.mappingId := read_of_cell rfl nofun rfl
  have periodId : (requestRow q).read "evaluation_period_id" = .ok q.periodId :=
    read_of_cell rfl nofun rfl
  have employeeId : (requestRow q).read "employee_id" = .ok q.employeeId :=
    read_of_cell rfl nofun rfl
  have comment : (requestRow q).read "comment" = .ok q.comment := read_of_cell rfl nofun rfl
  have requestedBy : (requestRow q).read "requested_by" = .ok q.requestedBy :=
    read_of_cell rfl nofun rfl
  have requestedAt : (requestRow q).read "requested_at" = .ok (keptTime q.requestedAt) :=
    read_of_cell rfl nofun rfl
  have named : readLiteral (α := Step) q.step.text = .ok q.step := by
    unfold readLiteral
    rw [show q.step.text = Literal.text q.step from rfl, Literal.read_text]
  simp only [readRequest, step, id, mappingId, periodId, employeeId, comment, requestedBy,
    requestedAt, named, bind, Except.bind, pure, Except.pure]
  rfl

end Appraisal.Postgres
