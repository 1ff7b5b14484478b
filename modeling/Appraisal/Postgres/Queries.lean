import Appraisal.Postgres.Connection
import Appraisal.Postgres.Stored

/-!
# The statements of the store calls

Each store call sends one statement.  This module says which, and with which parameters.

A list may be narrowed by up to five wishes.  Each wish takes the next placeholder, in the order in
which they stand in the statement: the conditions, then the limit, then the offset.
-/

namespace Appraisal.Postgres

/-- The table of approval records. -/
def approvalTable : String := "step_approval"

/-- The table of revision requests. -/
def requestTable : String := "revision_request"

/-- The table of recipients' rows. -/
def recipientTable : String := "revision_request_recipient"

/-- A column of the only table of a statement. -/
def own (name : String) : Column := ⟨none, name⟩

/-- A column of a revision request. -/
def ofRequest (name : String) : Column := ⟨some "r", name⟩

/-- A column of a recipient's row. -/
def ofRecipient (name : String) : Column := ⟨some "c", name⟩

/-- The names of the columns of a revision request. -/
def requestColumns : List String :=
  ["id", "mapping_id", "evaluation_period_id", "employee_id", "step", "comment", "requested_by",
    "requested_at"]

/-- The names of the columns of a recipient's row. -/
def recipientColumns : List String :=
  ["revision_request_id", "recipient_id", "recipient_type", "is_read", "read_at", "is_completed",
    "completed_at", "response_comment"]

/-- The names of the columns of the states of all steps. -/
def stateColumns : List String :=
  Step.all.flatMap fun step => (stepColumns step default).map Prod.fst

/-- A query of one table under conditions. -/
def selectWhere (selection : Selection) (source : Source) (conditions : List Condition)
    (order : List (Column × Direction)) : Select :=
  ⟨selection, source, none, conditions, order, none, none⟩

/-- The insertion of a row as a new one. -/
def insertNew (table : String) (row : Row) : Bound :=
  ⟨.insert ⟨table, row.map Prod.fst, none⟩, row.map Prod.snd⟩

/-- The query for an approval record. -/
def selectApproval (id : MappingId) : Bound :=
  ⟨.select (selectWhere .all ⟨approvalTable, none⟩ [.equals (own "mapping_id") 1] []),
    [toCell id]⟩

/-- The insertion of an approval record, or the update of the one that is stored.  The time at
which the record was made stays. -/
def upsertApproval (r : ApprovalRecord) : Bound :=
  let row := recordRow r
  ⟨.insert ⟨approvalTable, row.map Prod.fst,
      some ⟨"mapping_id", stateColumns ++ ["updated_at"]⟩⟩,
    row.map Prod.snd⟩

/-- The query for a revision request. -/
def selectRequest (id : RevisionRequestId) : Bound :=
  ⟨.select (selectWhere (.columns (requestColumns.map ofRequest)) ⟨requestTable, some "r"⟩
      [.equals (ofRequest "id") 1] []),
    [toCell id]⟩

/-- The query for the row of a recipient of a request. -/
def selectRecipient (requestId : RevisionRequestId) (recipientId : EmployeeId) : Bound :=
  ⟨.select (selectWhere (.columns (recipientColumns.map ofRecipient)) ⟨recipientTable, some "c"⟩
      [.equals (ofRecipient "revision_request_id") 1, .equals (ofRecipient "recipient_id") 2]
      []),
    [toCell requestId, toCell recipientId]⟩

/-- The query for the rows of all recipients of a request. -/
def selectRecipientsOf (requestId : RevisionRequestId) : Bound :=
  ⟨.select (selectWhere (.columns (recipientColumns.map ofRecipient)) ⟨recipientTable, some "c"⟩
      [.equals (ofRecipient "revision_request_id") 1]
      [(ofRecipient "recipient_id", .ascending)]),
    [toCell requestId]⟩

/-- The update of a recipient's row that is not completed. -/
def updateRow (r : RecipientRow) : Bound :=
  ⟨.update ⟨recipientTable,
      [("is_read", 3), ("read_at", 4), ("is_completed", 5), ("completed_at", 6),
        ("response_comment", 7)],
      [.equals (own "revision_request_id") 1, .equals (own "recipient_id") 2,
        .isFalse (own "is_completed")]⟩,
    [toCell r.requestId, toCell r.recipientId, toCell r.isRead, optionCell r.readAt,
      toCell r.isCompleted, optionCell r.completedAt, optionCell r.responseComment]⟩

/-- The query for the number of requests a recipient has not read. -/
def selectUnread (recipientId : EmployeeId) : Bound :=
  ⟨.select (selectWhere .count ⟨recipientTable, none⟩
      [.equals (own "recipient_id") 1, .isFalse (own "is_read")] []),
    [toCell recipientId]⟩

/-! ## Lists -/

/-- A count as a number of 64 bits with a sign; counts beyond the largest one turn negative. -/
def wrapCount (n : Nat) : Int := Int.bmod n UInt64.size

/-- The wishes of a filter for conditions: the column and the value it must have. -/
def filterConditions (f : RecipientFilter) : List (Column × Cell) :=
  (f.step.toList.map fun s => (ofRequest "step", toCell s.text)) ++
    (f.isRead.toList.map fun b => (ofRecipient "is_read", toCell b)) ++
    (f.isCompleted.toList.map fun b => (ofRecipient "is_completed", toCell b))

/-- Conditions whose placeholders are numbered in a row. -/
def numberedConditions : Nat → List (Column × Cell) → List Condition
  | _, [] => []
  | n, c :: cs => .equals c.1 n :: numberedConditions (n + 1) cs

/-- The query for a recipient's requests. -/
def selectList (recipientId : EmployeeId) (f : RecipientFilter) : Bound :=
  let wishes := (ofRecipient "recipient_id", toCell recipientId) :: filterConditions f
  let limitAt := wishes.length + 1
  let offsetAt := if f.limit.isSome then limitAt + 1 else limitAt
  ⟨.select {
      selection :=
        .columns (requestColumns.map ofRequest ++ recipientColumns.map ofRecipient)
      source := ⟨recipientTable, some "c"⟩
      join := some ⟨⟨requestTable, some "r"⟩, ofRequest "id", ofRecipient "revision_request_id"⟩
      conditions := numberedConditions 1 wishes
      order := [(ofRequest "requested_at", .descending), (ofRequest "id", .ascending)]
      limit := f.limit.map fun _ => limitAt
      offset := f.offset.map fun _ => offsetAt },
    wishes.map Prod.snd ++ (f.limit.toList ++ f.offset.toList).map fun n => toCell (wrapCount n)⟩

end Appraisal.Postgres
