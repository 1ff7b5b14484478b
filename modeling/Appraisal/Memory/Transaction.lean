import Appraisal.Memory.Tables

/-!
# Transactions in memory

A transaction works on a copy of the tables and remembers which rows it wrote.  The store calls are
functions on a transaction.  A call that reads or fails leaves the transaction as it is.

A savepoint keeps a copy of the transaction under a name.  Names may repeat, and the innermost one
counts.
-/

namespace Appraisal.Memory

/-- An open transaction. -/
structure Transaction where
  /-- The tables as the transaction sees them. -/
  tables : Tables
  /-- The rows it wrote, each once. -/
  writes : List RowKey
deriving DecidableEq

/-- Savepoints, the innermost one first. -/
abbrev Savepoints : Type := List (String × Transaction)

namespace Transaction

/-- A transaction that has just begun. -/
def start (committed : Tables) : Transaction := ⟨committed, []⟩

/-- The transaction with other tables and one more row written. -/
def write (t : Transaction) (tables : Tables) (key : RowKey) : Transaction :=
  ⟨tables, if key ∈ t.writes then t.writes else key :: t.writes⟩

/-- No other transaction has published a row that this one wrote. -/
def canCommit (t : Transaction) (committed : Tables) : Bool :=
  t.writes.all fun key => t.tables.version key == committed.version key

/-! ## Writes -/

/-- Stores an approval record. -/
def saveApproval (t : Transaction) (record : ApprovalRecord) : Transaction :=
  t.write { t.tables with approvals := t.tables.approvals.insert record.mappingId record }
    (.approval record.mappingId)

/-- The failure to store a request that is stored already. -/
def duplicateRequest (id : RevisionRequestId) : Failure :=
  .database (some "23505") ("duplicate revision request " ++ id.text)
    (some "revision_request_pkey")

/-- The failure to store a row of a request that is not stored. -/
def unknownRequest (id : RevisionRequestId) : Failure :=
  .database (some "23503") s!"revision request {id.text} does not exist"
    (some "revision_request_recipient_request_fkey")

/-- The failure to store a row that is stored already. -/
def duplicateRecipient (requestId : RevisionRequestId) (recipientId : EmployeeId) : Failure :=
  .database (some "23505")
    s!"recipient {recipientId.text} already attached to revision request {requestId.text}"
    (some "revision_request_recipient_pkey")

/-- Stores a new revision request. -/
def insertRequest (t : Transaction) (request : RevisionRequest) : Except Failure Transaction :=
  if t.tables.requests.contains request.id then .error (duplicateRequest request.id)
  else .ok <|
    t.write { t.tables with requests := t.tables.requests.insert request.id request }
      (.request request.id)

/-- The transaction with a recipient's row in place. -/
def putRecipient (t : Transaction) (row : RecipientRow) : Transaction :=
  t.write
    { t.tables with recipients :=
        t.tables.recipients.insert (row.requestId, row.recipientId) row }
    (.recipient row.requestId row.recipientId)

/-- Stores a new row of a recipient. -/
def insertRecipient (t : Transaction) (row : RecipientRow) : Except Failure Transaction :=
  if !t.tables.requests.contains row.requestId then .error (unknownRequest row.requestId)
  else if t.tables.recipients.contains (row.requestId, row.recipientId) then
    .error (duplicateRecipient row.requestId row.recipientId)
  else .ok (t.putRecipient row)

/-- A row is stored that may be overwritten. -/
def canUpdate (t : Transaction) (row : RecipientRow) : Bool :=
  match t.tables.recipients.get? (row.requestId, row.recipientId) with
  | some stored => !stored.isCompleted
  | none => false

/-- Stores a changed row, if one is stored that is not completed, and says whether it did. -/
def updateRecipient (t : Transaction) (row : RecipientRow) : Bool × Transaction :=
  if t.canUpdate row then (true, t.putRecipient row) else (false, t)

end Transaction

/-! ## Failures of sessions -/

/-- The failure of a call that needs a transaction. -/
def noTransaction : Failure := .rejected "25P01" "there is no transaction in progress"

/-- The failure of a second transaction on a session. -/
def transactionOpen : Failure := .rejected "25001" "there is already a transaction in progress"

/-- The failure of a write in a transaction that may only read. -/
def readOnlyTransaction : Failure :=
  .rejected "25006" "cannot execute write in a read-only transaction"

/-- The failure of a call that names no savepoint. -/
def noSavepoint (name : String) : Failure :=
  .rejected "3B001" s!"savepoint \"{name}\" does not exist"

/-- The failure of a commit that came second. -/
def concurrentUpdate : Failure :=
  .rejected "40001" "could not serialize access due to concurrent update"

/-- The failure of a rollback that is told to fail. -/
def lostConnection : Failure := .io .brokenPipe (some "connection lost during rollback")

/-- The failure of giving a session back twice. -/
def alreadyReleased : Failure := .other "session already released"

/-- The failure of giving a session back that is told to fail. -/
def notReturned : Failure := .other "failed to return connection to pool"

end Appraisal.Memory
