import Appraisal.Postgres.Queries
import Appraisal.Savepoint

/-!
# Sessions on the server

A session holds a connection until it is given back.  It remembers whether it believes a
transaction to be open: from a `BEGIN` that succeeded to the next `COMMIT` or `ROLLBACK`, whether
that succeeds or not.  Giving the session back rolls back a transaction that is believed open, so
that none goes back to the pool.

Names of savepoints become part of a statement, so only plain identifiers are let through.
-/

namespace Appraisal.Postgres

/-- A session on the server. -/
structure Session where
  /-- The session has not been given back. -/
  connected : Bool
  /-- A transaction is believed to be open. -/
  inTransaction : Bool
deriving DecidableEq

/-- A session as it is opened. -/
instance : Inhabited Session := ⟨⟨true, false⟩⟩

/-- The failure of every call on a session that was given back. -/
def alreadyReleased : Failure := .other "session already released"

/-- Opens a session. -/
def openSession : FallibleExchange Session := do
  Exchange.acquire
  return default

namespace Session

/-- Sends a statement over the connection of the session. -/
def send (s : Session) (bound : Bound) : FallibleExchange Reply :=
  if s.connected then Exchange.send bound.statement bound.parameters
  else Exchange.decoded (.error alreadyReleased)

/-- Sends a statement without parameters whose answer does not matter. -/
def execute (s : Session) (statement : Statement) : FallibleExchange Unit := do
  let _ ← s.send ⟨statement, []⟩

/-- Sends a statement that names a savepoint. -/
def executeNamed (s : Session) (name : String) (statement : String → Statement) :
    FallibleExchange Unit := do
  Exchange.decoded (checkIdentifier name)
  s.execute (statement name)

/-! ## Store calls -/

/-- Sends a query and reads its first row, if there is one. -/
def findRow {α : Type} (s : Session) (bound : Bound) (read : Row → Except Failure α) :
    FallibleExchange (Option α) := do
  let reply ← s.send bound
  Exchange.decoded (readFirstRow? read reply.rows)

/-- Sends a query and reads its rows. -/
def findRows {α : Type} (s : Session) (bound : Bound) (read : Row → Except Failure α) :
    FallibleExchange (List α) := do
  let reply ← s.send bound
  Exchange.decoded (readRows read reply.rows)

/-- Sends a statement and forgets its answer. -/
def change (s : Session) (bound : Bound) : FallibleExchange Unit := do
  let _ ← s.send bound

/-- Reads a number from the only row of a reply.  A negative one counts as zero. -/
def readCount : List Row → Except Failure Nat
  | [] => .error ClientError.rowNotFound.failure
  | row :: _ => (row.readFirst (α := Int)).map Int.toNat

/-- Answers a store call. -/
def store (s : Session) : (call : StoreCall) → FallibleExchange call.Value
  | .findApproval id => s.findRow (selectApproval id) readRecord
  | .saveApproval record => s.change (upsertApproval record)
  | .insertRequest request => s.change (insertNew requestTable (requestRow request))
  | .insertRecipient row => s.change (insertNew recipientTable (recipientRow row))
  | .findRequest id => s.findRow (selectRequest id) readRequest
  | .findRecipient requestId recipientId =>
    s.findRow (selectRecipient requestId recipientId) readRecipient
  | .recipientsOf requestId => s.findRows (selectRecipientsOf requestId) readRecipient
  | .updateRecipient row => do
    let reply ← s.send (updateRow row)
    return reply.affected == 1
  | .listFor recipientId filter => s.findRows (selectList recipientId filter) readView
  | .countUnread recipientId => do
    let reply ← s.send (selectUnread recipientId)
    Exchange.decoded (readCount reply.rows)

/-! ## Transactions -/

/-- Begins a transaction. -/
def begin (s : Session) (isolation : Isolation) : Exchange (Except Failure Unit × Session) := do
  match ← (s.execute (.begin (some isolation))).run with
  | .ok () => return (.ok (), { s with inTransaction := true })
  | .error f => return (.error f, s)

/-- Ends a transaction with a statement, whatever the server answers. -/
def finish (s : Session) (statement : Statement) : Exchange (Except Failure Unit × Session) := do
  let outcome ← (s.execute statement).run
  return (outcome, { s with inTransaction := false })

/-- Gives the session back. -/
def release (s : Session) : Exchange (Except Failure Unit × Session) := do
  if s.inTransaction then
    let (outcome, s) ← s.finish .rollback
    if s.connected then return (outcome, { s with connected := false })
    else return (.error alreadyReleased, s)
  else if s.connected then return (.ok (), { s with connected := false })
  else return (.error alreadyReleased, s)

/-- An exchange that leaves the session as it is. -/
def keeping {α : Type} (s : Session) (exchange : FallibleExchange α) :
    Exchange (Except Failure α × Session) := do
  return (← exchange.run, s)

/-- Answers a call on a session, with the session after it. -/
def answer (s : Session) : (call : SessionCall) → Exchange (call.Answer × Session)
  | .begin isolation => s.begin isolation
  | .setReadOnly => s.keeping (s.execute .setReadOnly)
  | .savepoint name => s.keeping (s.executeNamed name .savepoint)
  | .releaseSavepoint name => s.keeping (s.executeNamed name .releaseSavepoint)
  | .rollbackToSavepoint name => s.keeping (s.executeNamed name .rollbackToSavepoint)
  | .commit => s.finish .commit
  | .rollback => s.finish .rollback
  | .release => s.release
  | .store call => s.keeping (s.store call)

end Session

end Appraisal.Postgres
