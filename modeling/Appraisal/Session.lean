import Appraisal.Isolation
import Appraisal.Failure
import Appraisal.Mapping
import Appraisal.Record

/-!
# Sessions

A session is one connection to the store, on which one transaction runs at a time.  Two kinds of
call can be made on it.  Store calls read and write rows.  The others open and end transactions and
savepoints and give the session back.

Any call may fail.  `SessionCall.Value` is what it answers if it does not.
-/

namespace Appraisal

/-- A call that reads or writes rows. -/
inductive StoreCall
  /-- The approval record of a mapping. -/
  | findApproval (id : MappingId)
  /-- Stores an approval record, instead of any that its mapping had. -/
  | saveApproval (record : ApprovalRecord)
  /-- Stores a new revision request. -/
  | insertRequest (request : RevisionRequest)
  /-- Stores a new row for a recipient of a stored request. -/
  | insertRecipient (row : RecipientRow)
  /-- A revision request. -/
  | findRequest (id : RevisionRequestId)
  /-- The row of a recipient of a request. -/
  | findRecipient (requestId : RevisionRequestId) (recipientId : EmployeeId)
  /-- The rows of all recipients of a request. -/
  | recipientsOf (requestId : RevisionRequestId)
  /-- Stores a changed row, unless the stored one is completed or there is none. -/
  | updateRecipient (row : RecipientRow)
  /-- A recipient's requests, the newest first. -/
  | listFor (recipientId : EmployeeId) (filter : RecipientFilter)
  /-- How many requests a recipient has not read. -/
  | countUnread (recipientId : EmployeeId)
deriving DecidableEq

/-- What a store call answers. -/
def StoreCall.Value : StoreCall → Type
  | findApproval _ => Option ApprovalRecord
  | saveApproval _ => Unit
  | insertRequest _ => Unit
  | insertRecipient _ => Unit
  | findRequest _ => Option RevisionRequest
  | findRecipient _ _ => Option RecipientRow
  | recipientsOf _ => List RecipientRow
  | updateRecipient _ => Bool
  | listFor _ _ => List RequestView
  | countUnread _ => Nat

/-- A call on a session. -/
inductive SessionCall
  /-- Begins a transaction. -/
  | begin (isolation : Isolation)
  /-- Lets the transaction read only. -/
  | setReadOnly
  /-- Sets a savepoint. -/
  | savepoint (name : String)
  /-- Removes a savepoint and keeps what was done since. -/
  | releaseSavepoint (name : String)
  /-- Undoes what was done since a savepoint. -/
  | rollbackToSavepoint (name : String)
  /-- Ends the transaction and publishes what it wrote. -/
  | commit
  /-- Ends the transaction and drops what it wrote. -/
  | rollback
  /-- Gives the session back. -/
  | release
  /-- Reads or writes rows. -/
  | store (call : StoreCall)
deriving DecidableEq

/-- What a call on a session answers. -/
def SessionCall.Value : SessionCall → Type
  | begin _ | setReadOnly | savepoint _ | releaseSavepoint _ | rollbackToSavepoint _ => Unit
  | commit | rollback | release => Unit
  | store call => call.Value

/-- What a call on a session answers, unless it fails. -/
abbrev SessionCall.Answer (call : SessionCall) : Type := Except Failure call.Value

end Appraisal
