import Appraisal.Memory.Transaction
import Appraisal.Savepoint

/-!
# The store in memory

Each transaction works on a copy of the committed tables, taken when it begins.  A commit publishes
the rows that the transaction wrote, and only those.  If another transaction has published any of
them in the meantime, the commit fails and publishes nothing: the first one to commit wins.

The store can be told to fail.  Failures for `begin` and `commit` are queued and used up one by
one.  Rollback and release fail for as long as they are told to, but do their work all the same.

`Store.answer` is the answer to a call on a session.  It is a function of the store and the
session, and returns both as the call leaves them.
-/

namespace Appraisal.Memory

/-- The failures that the store is told to produce. -/
structure Faults where
  /-- Failures of the next calls to begin, the first one first. -/
  onBegin : List Failure
  /-- Failures of the next commits, the first one first. -/
  onCommit : List Failure
  /-- Every rollback fails. -/
  failOnRollback : Bool
  /-- Every release fails. -/
  failOnRelease : Bool
deriving DecidableEq

instance : Inhabited Faults := ⟨⟨[], [], false, false⟩⟩

/-- How often things happened to sessions. -/
structure SessionStats where
  /-- Sessions opened. -/
  opened : Nat
  /-- Transactions begun. -/
  begun : Nat
  /-- Transactions committed. -/
  committed : Nat
  /-- Transactions rolled back. -/
  rolledBack : Nat
  /-- Rollbacks to savepoints. -/
  savepointsRolledBack : Nat
  /-- Sessions given back. -/
  released : Nat
  /-- Commits that came second. -/
  conflicts : Nat
  /-- The isolation level of the last transaction begun. -/
  lastIsolation : Option Isolation
deriving DecidableEq

instance : Inhabited SessionStats := ⟨⟨0, 0, 0, 0, 0, 0, 0, none⟩⟩

/-- What all sessions share. -/
structure Store where
  /-- The committed tables. -/
  committed : Tables
  /-- The mappings. -/
  mappings : Table MappingId EvaluationMapping
  /-- The failures to produce. -/
  faults : Faults
  /-- How often things happened. -/
  stats : SessionStats
deriving DecidableEq

/-- The store without rows, mappings and faults. -/
instance : Inhabited Store := ⟨⟨default, .empty, default, default⟩⟩

/-- A session. -/
structure Session where
  /-- The open transaction. -/
  working : Option Transaction
  /-- Its savepoints. -/
  savepoints : Savepoints
  /-- It may only read. -/
  readOnly : Bool
  /-- The session was given back. -/
  released : Bool
deriving DecidableEq

/-- A session as it is opened. -/
instance : Inhabited Session := ⟨⟨none, [], false, false⟩⟩

namespace Session

/-- The session without its transaction. -/
def discard (s : Session) : Session :=
  { s with working := none, savepoints := [], readOnly := false }

/-- The tables that the session reads. -/
def tables (s : Session) : Except Failure Tables :=
  match s.working with
  | some t => .ok t.tables
  | none => .error noTransaction

/-- The transaction, if the session may write. -/
def writable (s : Session) : Except Failure Transaction :=
  if s.readOnly then .error readOnlyTransaction
  else match s.working with
    | some t => .ok t
    | none => .error noTransaction

/-- The session with its transaction at another point. -/
def withTransaction (s : Session) (t : Transaction) : Session := { s with working := some t }

/-- The savepoints from the innermost one with a name on outwards. -/
def savepointsFrom (s : Session) (name : String) : Savepoints :=
  s.savepoints.dropWhile fun p => p.1 != name

/-! ## Store calls -/

/-- A read. -/
def read {α : Type} (s : Session) (f : Tables → α) : Except Failure α × Session :=
  (s.tables.map f, s)

/-- A write that may fail. -/
def write {α : Type} (s : Session) (f : Transaction → Except Failure (α × Transaction)) :
    Except Failure α × Session :=
  match s.writable with
  | .error e => (.error e, s)
  | .ok t =>
    match f t with
    | .error e => (.error e, s)
    | .ok (a, t) => (.ok a, s.withTransaction t)

/-- The answer to a store call, and the session after it. -/
def store (s : Session) : (call : StoreCall) → Except Failure call.Value × Session
  | .findApproval id => s.read fun t => t.approvals.get? id
  | .saveApproval record => s.write fun t => .ok ((), t.saveApproval record)
  | .insertRequest request => s.write fun t => (t.insertRequest request).map ((), ·)
  | .insertRecipient row => s.write fun t => (t.insertRecipient row).map ((), ·)
  | .findRequest id => s.read fun t => t.requests.get? id
  | .findRecipient requestId recipientId =>
    s.read fun t => t.recipients.get? (requestId, recipientId)
  | .recipientsOf requestId => s.read fun t => t.recipientsOf requestId
  | .updateRecipient row => s.write fun t => .ok (t.updateRecipient row)
  | .listFor recipientId filter => s.read fun t => t.listFor recipientId filter
  | .countUnread recipientId => s.read fun t => t.countUnread recipientId

end Session

namespace Store

/-! ## Opening -/

/-- Opens a session. -/
def openSession (store : Store) : Session × Store :=
  (default, { store with stats.opened := store.stats.opened + 1 })

/-- A mapping. -/
def findMapping (store : Store) (id : MappingId) : Option EvaluationMapping :=
  store.mappings.get? id

/-- The store with a mapping. -/
def insertMapping (store : Store) (mapping : EvaluationMapping) : Store :=
  { store with mappings := store.mappings.insert mapping.id mapping }

/-! ## Transactions -/

/-- What a call leaves behind, beside its answer. -/
abbrev After (α : Type) : Type := Except Failure α × Store × Session

/-- Begins a transaction. -/
def begin (store : Store) (s : Session) (isolation : Isolation) : After Unit :=
  match store.faults.onBegin with
  | f :: rest => (.error f, { store with faults.onBegin := rest }, s)
  | [] =>
    if s.working.isSome then (.error transactionOpen, store, s)
    else
      (.ok (),
        { store with
          stats.begun := store.stats.begun + 1
          stats.lastIsolation := some isolation },
        s.withTransaction (.start store.committed))

/-- Lets the transaction read only. -/
def setReadOnly (store : Store) (s : Session) : After Unit :=
  match s.working with
  | some _ => (.ok (), store, { s with readOnly := true })
  | none => (.error noTransaction, store, s)

/-- Publishes what a transaction wrote, unless another one came first. -/
def publish (store : Store) (t : Transaction) : Except Failure Unit × Store :=
  if t.canCommit store.committed then
    (.ok (),
      { store with
        committed := store.committed.publish t.tables t.writes
        stats.committed := store.stats.committed + 1 })
  else
    (.error concurrentUpdate, { store with stats.conflicts := store.stats.conflicts + 1 })

/-- Ends the transaction and publishes what it wrote. -/
def commit (store : Store) (s : Session) : After Unit :=
  match s.working with
  | none => (.error noTransaction, store, s)
  | some t =>
    match store.faults.onCommit with
    | f :: rest => (.error f, { store with faults.onCommit := rest }, s.discard)
    | [] =>
      if s.readOnly then
        (.ok (), { store with stats.committed := store.stats.committed + 1 }, s.discard)
      else
        let (answer, store) := store.publish t
        (answer, store, s.discard)

/-- Ends the transaction, if there is one, and drops what it wrote. -/
def rollback (store : Store) (s : Session) : After Unit :=
  let ended := if s.working.isSome then 1 else 0
  (if store.faults.failOnRollback then .error lostConnection else .ok (),
    { store with stats.rolledBack := store.stats.rolledBack + ended },
    s.discard)

/-- Gives the session back. -/
def release (store : Store) (s : Session) : After Unit :=
  if s.released then (.error alreadyReleased, store, s)
  else
    (if store.faults.failOnRelease then .error notReturned else .ok (),
      { store with stats.released := store.stats.released + 1 },
      { s.discard with released := true })

/-! ## Savepoints -/

/-- Sets a savepoint. -/
def savepoint (store : Store) (s : Session) (name : String) : After Unit :=
  match checkIdentifier name with
  | .error e => (.error e, store, s)
  | .ok () =>
    match s.working with
    | none => (.error noTransaction, store, s)
    | some t => (.ok (), store, { s with savepoints := (name, t) :: s.savepoints })

/-- Removes a savepoint and those inside it. -/
def releaseSavepoint (store : Store) (s : Session) (name : String) : After Unit :=
  match s.savepointsFrom name with
  | [] => (.error (noSavepoint name), store, s)
  | _ :: outer => (.ok (), store, { s with savepoints := outer })

/-- Takes the transaction back to a savepoint, which stays. -/
def rollbackToSavepoint (store : Store) (s : Session) (name : String) : After Unit :=
  match s.savepointsFrom name with
  | [] => (.error (noSavepoint name), store, s)
  | point :: outer =>
    (.ok (),
      { store with stats.savepointsRolledBack := store.stats.savepointsRolledBack + 1 },
      { s with working := some point.2, savepoints := point :: outer })

/-- The answer to a call on a session, with the store and the session after it. -/
def answer (store : Store) (s : Session) : (call : SessionCall) → After call.Value
  | .begin isolation => store.begin s isolation
  | .setReadOnly => store.setReadOnly s
  | .savepoint name => store.savepoint s name
  | .releaseSavepoint name => store.releaseSavepoint s name
  | .rollbackToSavepoint name => store.rollbackToSavepoint s name
  | .commit => store.commit s
  | .rollback => store.rollback s
  | .release => store.release s
  | .store call => ((s.store call).1, store, (s.store call).2)

end Store

end Appraisal.Memory
