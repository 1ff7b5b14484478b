import Appraisal.Identifier
import Appraisal.Step
import Appraisal.Time.Instant

/-!
# Revision requests

A revision request asks its recipients to revise a step.  It never changes.  Each recipient has a
row of their own, which says whether they have read the request and whether they have completed
the revision.  Completing implies reading.

`markRead_isRead` and `complete_isRead` say that both operations leave the row read.  Marking a row
read also tells whether it was unread (`markedRead`).
-/

namespace Appraisal

/-- A request to revise a step. -/
structure RevisionRequest where
  /-- The request. -/
  id : RevisionRequestId
  /-- The mapping whose step is to be revised. -/
  mappingId : MappingId
  /-- The evaluation period of the mapping. -/
  periodId : PeriodId
  /-- The employee of the mapping. -/
  employeeId : EmployeeId
  /-- The step to be revised. -/
  step : Step
  /-- What is to be revised. -/
  comment : String
  /-- Who asks. -/
  requestedBy : EmployeeId
  /-- When they asked. -/
  requestedAt : Instant
deriving DecidableEq

/-- An addressee of a revision request. -/
structure Recipient where
  /-- The employee. -/
  id : EmployeeId
  /-- The role in which they receive the request. -/
  role : Role
deriving DecidableEq

/-- The recipients without those whose employee came before. -/
def Recipient.distinct (recipients : List Recipient) : List Recipient :=
  recipients.foldl (fun kept r => if kept.any fun k => k.id == r.id then kept else kept ++ [r]) []

/-- How far one recipient has come with a revision request. -/
structure RecipientRow where
  /-- The request. -/
  requestId : RevisionRequestId
  /-- The recipient. -/
  recipientId : EmployeeId
  /-- The role in which they received it. -/
  role : Role
  /-- They have read it. -/
  isRead : Bool
  /-- When they first read it. -/
  readAt : Option Instant
  /-- They have completed the revision. -/
  isCompleted : Bool
  /-- When they completed it. -/
  completedAt : Option Instant
  /-- What they answered. -/
  responseComment : Option String
deriving DecidableEq

namespace RecipientRow

/-- A row that is neither read nor completed. -/
def fresh (requestId : RevisionRequestId) (recipientId : EmployeeId) (role : Role) :
    RecipientRow :=
  ⟨requestId, recipientId, role, false, none, false, none, none⟩

/-- The row marked read.  A row that is read stays as it is. -/
def markRead (row : RecipientRow) (now : Instant) : RecipientRow :=
  if row.isRead then row else { row with isRead := true, readAt := some now }

/-- Whether the row was unread, and the row marked read. -/
def markedRead (row : RecipientRow) (now : Instant) : Bool × RecipientRow :=
  if row.isRead then (false, row) else (true, { row with isRead := true, readAt := some now })

/-- The row completed, and read if it was not. -/
def complete (row : RecipientRow) (comment : String) (now : Instant) : RecipientRow :=
  { row.markRead now with
    isCompleted := true
    completedAt := some now
    responseComment := some comment }

@[simp] theorem markedRead_eq (row : RecipientRow) (now : Instant) :
    row.markedRead now = (!row.isRead, row.markRead now) := by
  rw [markedRead, markRead]
  cases row.isRead <;> rfl

@[simp] theorem markRead_isRead (row : RecipientRow) (now : Instant) :
    (row.markRead now).isRead = true := by
  rw [markRead]
  split <;> simp_all

@[simp] theorem complete_isRead (row : RecipientRow) (comment : String) (now : Instant) :
    (row.complete comment now).isRead = true :=
  row.markRead_isRead now

end RecipientRow

/-- A request with the row of one of its recipients. -/
structure RequestView where
  /-- The request. -/
  request : RevisionRequest
  /-- The row of one recipient. -/
  recipient : RecipientRow
deriving DecidableEq

/-- A request with the rows of all its recipients. -/
structure RequestDetail where
  /-- The request. -/
  request : RevisionRequest
  /-- The rows. -/
  recipients : List RecipientRow
deriving DecidableEq

/-! ## Filters -/

/-- What to keep of a recipient's requests, and which part of the rest to show. -/
structure RecipientFilter where
  /-- Only requests for this step. -/
  step : Option Step
  /-- Only rows that are read, or that are not. -/
  isRead : Option Bool
  /-- Only rows that are completed, or that are not. -/
  isCompleted : Option Bool
  /-- At most so many. -/
  limit : Option Nat
  /-- After the first so many. -/
  offset : Option Nat
deriving DecidableEq

namespace RecipientFilter

/-- The filter that keeps and shows everything. -/
instance : Inhabited RecipientFilter := ⟨⟨none, none, none, none, none⟩⟩

/-- A wish is met by a value, or there is no wish. -/
def admits {α : Type} [BEq α] (wish : Option α) (value : α) : Bool :=
  match wish with
  | some w => w == value
  | none => true

/-- The filter keeps a request with a recipient's row.  Limit and offset have no say. -/
def keeps (f : RecipientFilter) (request : RevisionRequest) (row : RecipientRow) : Bool :=
  admits f.step request.step && admits f.isRead row.isRead && admits f.isCompleted row.isCompleted

/-- The part of a list that is to be shown. -/
def page {α : Type} (f : RecipientFilter) (xs : List α) : List α :=
  let rest := xs.drop (f.offset.getD 0)
  match f.limit with
  | some n => rest.take n
  | none => rest

end RecipientFilter

end Appraisal
