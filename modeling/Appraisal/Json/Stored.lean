import Appraisal.Json.Form
import Appraisal.Mapping
import Appraisal.Record

/-!
# JSON forms of what is stored

Approval records, revision requests, recipients' rows and mappings, with the names of their fields.
-/

namespace Appraisal.Json

instance : Form StepState where
  toJson s := .ofMembers [
    ("status", toJson s.status),
    ("updated_at", ofOption s.updatedAt),
    ("updated_by", ofOption s.updatedBy)]
  ofJson? j := do
    let [status, updatedAt, updatedBy] ← slots ["status", "updated_at", "updated_by"] j | none
    some ⟨← status.required?, ← updatedAt.optional?, ← updatedBy.optional?⟩

instance : Form ApprovalRecord where
  toJson r := .ofMembers [
    ("mapping_id", toJson r.mappingId),
    ("criteria", toJson r.criteria),
    ("self_evaluation", toJson r.selfEvaluation),
    ("primary", toJson r.primary),
    ("secondary", toJson r.secondary),
    ("created_at", toJson r.createdAt),
    ("updated_at", toJson r.updatedAt)]
  ofJson? j := do
    let [mappingId, criteria, selfEvaluation, primary, secondary, createdAt, updatedAt] ←
      slots ["mapping_id", "criteria", "self_evaluation", "primary", "secondary", "created_at",
        "updated_at"] j | none
    some ⟨← mappingId.required?, ← criteria.required?, ← selfEvaluation.required?,
      ← primary.required?, ← secondary.required?, ← createdAt.required?, ← updatedAt.required?⟩

instance : Form RevisionRequest where
  toJson r := .ofMembers [
    ("id", toJson r.id),
    ("mapping_id", toJson r.mappingId),
    ("evaluation_period_id", toJson r.periodId),
    ("employee_id", toJson r.employeeId),
    ("step", toJson r.step),
    ("comment", toJson r.comment),
    ("requested_by", toJson r.requestedBy),
    ("requested_at", toJson r.requestedAt)]
  ofJson? j := do
    let [id, mappingId, periodId, employeeId, step, comment, requestedBy, requestedAt] ←
      slots ["id", "mapping_id", "evaluation_period_id", "employee_id", "step", "comment",
        "requested_by", "requested_at"] j | none
    some ⟨← id.required?, ← mappingId.required?, ← periodId.required?, ← employeeId.required?,
      ← step.required?, ← comment.required?, ← requestedBy.required?, ← requestedAt.required?⟩

instance : Form RecipientRow where
  toJson r := .ofMembers [
    ("revision_request_id", toJson r.requestId),
    ("recipient_id", toJson r.recipientId),
    ("recipient_type", toJson r.role),
    ("is_read", toJson r.isRead),
    ("read_at", ofOption r.readAt),
    ("is_completed", toJson r.isCompleted),
    ("completed_at", ofOption r.completedAt),
    ("response_comment", ofOption r.responseComment)]
  ofJson? j := do
    let [requestId, recipientId, role, isRead, readAt, isCompleted, completedAt, comment] ←
      slots ["revision_request_id", "recipient_id", "recipient_type", "is_read", "read_at",
        "is_completed", "completed_at", "response_comment"] j | none
    some ⟨← requestId.required?, ← recipientId.required?, ← role.required?, ← isRead.required?,
      ← readAt.optional?, ← isCompleted.required?, ← completedAt.optional?, ← comment.optional?⟩

instance : Form Recipient where
  toJson r := .ofMembers [("id", toJson r.id), ("recipient_type", toJson r.role)]
  ofJson? j := do
    let [id, role] ← slots ["id", "recipient_type"] j | none
    some ⟨← id.required?, ← role.required?⟩

instance : Form RequestView where
  toJson v := .ofMembers [("request", toJson v.request), ("recipient", toJson v.recipient)]
  ofJson? j := do
    let [request, recipient] ← slots ["request", "recipient"] j | none
    some ⟨← request.required?, ← recipient.required?⟩

instance : Form RequestDetail where
  toJson d := .ofMembers [("request", toJson d.request), ("recipients", toJson d.recipients)]
  ofJson? j := do
    let [request, recipients] ← slots ["request", "recipients"] j | none
    some ⟨← request.required?, ← recipients.required?⟩

instance : Form EvaluationMapping where
  toJson m := .ofMembers [
    ("id", toJson m.id),
    ("evaluation_period_id", toJson m.periodId),
    ("employee_id", toJson m.employeeId),
    ("primary_evaluator_id", ofOption m.primaryEvaluator),
    ("secondary_evaluator_ids", toJson m.secondaryEvaluators)]
  ofJson? j := do
    let [id, periodId, employeeId, primary, secondary] ←
      slots ["id", "evaluation_period_id", "employee_id", "primary_evaluator_id",
        "secondary_evaluator_ids"] j | none
    some ⟨← id.required?, ← periodId.required?, ← employeeId.required?, ← primary.optional?,
      ← secondary.required?⟩

end Appraisal.Json
