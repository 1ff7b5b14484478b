import Appraisal.Transaction.Error

/-!
# Errors of the workflow

What a call of the workflow may end with instead of its value, and the status code a caller over
HTTP gets to see.  `statusCode_eq_503_iff` says that only an error that may pass on a later try is
answered with 503.
-/

namespace Appraisal

/-- An error of the workflow. -/
inductive WorkflowError
  /-- The caller asked for something that makes no sense. -/
  | validation (message : String)
  /-- There is no such mapping. -/
  | mappingNotFound (id : MappingId)
  /-- There is no such revision request. -/
  | requestNotFound (id : RevisionRequestId)
  /-- The employee did not receive the request. -/
  | notRecipient (requestId : RevisionRequestId) (recipientId : EmployeeId)
  /-- The recipient has completed the request before. -/
  | alreadyCompleted (requestId : RevisionRequestId) (recipientId : EmployeeId)
  /-- A raw failure of the store. -/
  | storage (failure : Failure)
  /-- A transaction was given up. -/
  | transaction (error : TransactionError)
deriving DecidableEq

namespace WorkflowError

/-- The text of an error. -/
def message : WorkflowError → String
  | validation message => "Validation error: " ++ message
  | mappingNotFound id => "Evaluation mapping not found: " ++ id.text
  | requestNotFound id => "Revision request not found: " ++ id.text
  | notRecipient requestId recipientId =>
    s!"Employee {recipientId.text} is not a recipient of revision request {requestId.text}"
  | alreadyCompleted requestId recipientId =>
    s!"Revision request {requestId.text} was already completed by {recipientId.text}"
  | storage failure => "Storage error: " ++ failure.message
  | transaction error => error.message

/-- The status code of an error. -/
def statusCode : WorkflowError → Nat
  | validation _ => 400
  | notRecipient _ _ => 403
  | mappingNotFound _ | requestNotFound _ => 404
  | alreadyCompleted _ _ => 409
  | transaction error => if error.isRetryable then 503 else 500
  | storage _ => 500

/-- An unknown literal in a request is a mistake of the caller. -/
def ofLiteral (e : InvalidLiteral) : WorkflowError := .validation e.message

instance : WorkError WorkflowError where
  ofFailure := .storage
  ofTransaction := .transaction
  failure?
    | .storage f => some f
    | _ => none
  failure?_ofFailure _ := rfl
  failure?_ofTransaction _ := rfl

theorem statusCode_eq_503_iff {e : WorkflowError} :
    e.statusCode = 503 ↔ ∃ t, e = .transaction t ∧ t.isRetryable = true := by
  cases e <;> simp [statusCode]

end WorkflowError

end Appraisal
