import Appraisal.Proofs.Postgres.Kept
import Appraisal.Workflow.Event

/-!
# A server at READ COMMITTED

The server holds one recipient's row, which any number of transactions read and change.

* A query sees the row as it was committed last, or as its own transaction has changed it.
* An update checks its conditions on that row and sets the columns that it names.  From then on the
  row is locked until the transaction ends: an update of another transaction waits
  (`Server.Waits`) and then checks the row that was committed in the meantime.
* A commit publishes the change, and a rollback drops it.

Any statement may fail.  A commit that fails may have published the change nevertheless.

Statements are evaluated cell by cell, as they are sent: nothing is assumed of them beyond what
their conditions and assignments say.
-/

namespace Appraisal.Postgres

/-! ## Evaluating statements -/

/-- A row meets a condition.  Nothing equals an empty cell. -/
def Condition.holds (parameters : List Cell) (row : Row) : Condition → Bool
  | .equals column n =>
    match row.cell? column.name, parameters[n - 1]? with
    | some cell, some parameter => cell == parameter && cell != .null
    | _, _ => false
  | .isFalse column => row.cell? column.name == some (.bool false)
  | .isNull column => row.cell? column.name == some .null

/-- What a query shows of a row. -/
def Select.shown (q : Select) (row : Row) : Row :=
  match q.selection with
  | .columns columns => columns.filterMap fun c => (row.cell? c.name).map (c.name, ·)
  | .all | .count => row

/-- The rows of a table that a query returns. -/
def Select.of (q : Select) (parameters : List Cell) (rows : List Row) : List Row :=
  (rows.filter fun row => q.conditions.all (·.holds parameters row)).map q.shown

/-- A row after an update. -/
def Update.of (u : Update) (parameters : List Cell) (row : Row) : Row :=
  row.map fun cell =>
    match u.assignments.lookup cell.1 with
    | some n => (cell.1, parameters.getD (n - 1) .null)
    | none => cell

/-! ## The server -/

/-- A server with revision requests and the row of one recipient, and with any number of clients. -/
structure Server (ι : Type) where
  /-- The revision requests. -/
  requests : List Row
  /-- The row as it was committed last. -/
  row : Row
  /-- The row as a client has changed it, which locks it. -/
  pending : Option (ι × Row)
  /-- How often a change of the row was committed. -/
  version : Nat

/-- What the outside does in a turn. -/
structure Outside where
  /-- What the clock shows. -/
  now : Instant
  /-- The random bits. -/
  bits : Uuid
  /-- The mapping that is found. -/
  mapping : Except Failure (Option EvaluationMapping)
  /-- How a handler reacts to an event. -/
  reaction : Except String Unit
  /-- The failure of a statement, if it fails. -/
  failure : Option Failure
  /-- A commit takes effect even if it fails. -/
  lost : Bool

namespace Server

variable {ι : Type} [DecidableEq ι]

/-- The row as a client has changed it. -/
def heldBy (s : Server ι) (i : ι) : Option Row :=
  s.pending.bind fun p => if p.1 = i then some p.2 else none

theorem heldBy_eq_some_iff {s : Server ι} {i : ι} {row : Row} :
    s.heldBy i = some row ↔ s.pending = some (i, row) := by
  unfold heldBy
  cases s.pending with
  | none => simp
  | some p =>
    obtain ⟨j, row'⟩ := p
    by_cases same : j = i <;> simp [same]

/-- At most one client has changed the row. -/
theorem heldBy_of_heldBy {s : Server ι} {i j : ι} {row : Row} (held : s.heldBy i = some row)
    (other : j ≠ i) : s.heldBy j = none := by
  simp [heldBy, heldBy_eq_some_iff.1 held, other.symm]

/-- The row as a client sees it. -/
def visible (s : Server ι) (i : ι) : Row := (s.heldBy i).getD s.row

/-- The rows of a table as a client sees them. -/
def table (s : Server ι) (i : ι) (name : String) : List Row :=
  if name = requestTable then s.requests
  else if name = recipientTable then [s.visible i]
  else []

/-- A client's change is committed. -/
def publish (s : Server ι) (i : ι) : Server ι :=
  match s.heldBy i with
  | some row => { s with row, pending := none, version := s.version + 1 }
  | none => s

/-- A client's change is dropped. -/
def abandon (s : Server ι) (i : ι) : Server ι :=
  match s.heldBy i with
  | some _ => { s with pending := none }
  | none => s

section

variable {s : Server ι} {i j : ι} {row : Row}

theorem publish_of_held (held : s.heldBy i = some row) :
    s.publish i = { s with row, pending := none, version := s.version + 1 } := by
  rw [publish, held]

theorem publish_of_free (free : s.heldBy i = none) : s.publish i = s := by
  rw [publish, free]

@[simp] theorem abandon_row : (s.abandon i).row = s.row := by
  unfold abandon
  split <;> rfl

@[simp] theorem abandon_version : (s.abandon i).version = s.version := by
  unfold abandon
  split <;> rfl

@[simp] theorem heldBy_publish : (s.publish i).heldBy i = none := by
  unfold publish
  split
  · rfl
  · assumption

@[simp] theorem heldBy_abandon : (s.abandon i).heldBy i = none := by
  unfold abandon
  split
  · rfl
  · assumption

theorem heldBy_publish_of_ne (other : j ≠ i) : (s.publish i).heldBy j = s.heldBy j := by
  unfold publish
  split
  · exact (heldBy_of_heldBy (by assumption) other).symm
  · rfl

theorem heldBy_abandon_of_ne (other : j ≠ i) : (s.abandon i).heldBy j = s.heldBy j := by
  unfold abandon
  split
  · exact (heldBy_of_heldBy (by assumption) other).symm
  · rfl

end

/-- The server after an update, if the row meets its conditions. -/
def update? (s : Server ι) (i : ι) (u : Update) (parameters : List Cell) : Option (Server ι) :=
  if u.table = recipientTable ∧ u.conditions.all (·.holds parameters (s.visible i)) then
    some { s with pending := some (i, u.of parameters (s.visible i)) }
  else none

/-- Carries a statement out. -/
def execute (s : Server ι) (i : ι) (bound : Bound) : Reply × Server ι :=
  match bound.statement with
  | .select q => (⟨q.of bound.parameters (s.table i q.source.table), 0⟩, s)
  | .update u =>
    match s.update? i u bound.parameters with
    | some after => (⟨[], 1⟩, after)
    | none => (⟨[], 0⟩, s)
  | .commit => (⟨[], 0⟩, s.publish i)
  | .rollback => (⟨[], 0⟩, s.abandon i)
  | _ => (⟨[], 0⟩, s)

/-- The server after a statement that failed. -/
def afterFailure (s : Server ι) (i : ι) (lost : Bool) : Statement → Server ι
  | .commit => if lost then s.publish i else s.abandon i
  | .rollback => s.abandon i
  | _ => s

/-- Answers a request of an exchange. -/
def respond (w : Outside) (i : ι) : (request : Request) → Server ι → request.Answer × Server ι
  | .acquire, s => (w.failure.elim (.ok ()) .error, s)
  | .send bound, s =>
    match w.failure with
    | none => (.ok (s.execute i bound).1, (s.execute i bound).2)
    | some f => (.error f, s.afterFailure i w.lost bound.statement)
  | .draw, s => (w.bits, s)

/-- Has an exchange with a client. -/
def exchange {α : Type} (s : Server ι) (w : Outside) (i : ι) (p : Exchange α) : α × Server ι :=
  p.run (respond w i) s

/-- Answers a request of a client, with the server and the client's session after it. -/
def answer {ε : Type} (s : Server ι) (w : Outside) (i : ι) (session : Session) :
    (request : Appraisal.Request ε) → request.Answer × Server ι × Session
  | .openSession =>
    match s.exchange w i openSession.run with
    | (.ok opened, s) => (.ok (), s, opened)
    | (.error f, s) => (.error f, s, session)
  | .session call =>
    let (result, s) := s.exchange w i (session.answer call)
    (result.1, s, result.2)
  | .findMapping _ => (w.mapping, s, session)
  | .now => (w.now, s, session)
  | .draw => (w.bits, s, session)
  | .sleep _ => ((), s, session)
  | .signal _ => ((), s, session)
  | .deliver _ _ => (w.reaction, s, session)

/-- The request has to wait for another client's transaction. -/
def Waits {ε : Type} (s : Server ι) (i : ι) : Appraisal.Request ε → Prop
  | .session (.store (.updateRecipient _)) => s.pending.isSome ∧ s.heldBy i = none
  | _ => False

instance {ε : Type} (s : Server ι) (i : ι) (request : Appraisal.Request ε) :
    Decidable (s.Waits i request) := by
  unfold Waits
  split <;> infer_instance

end Server

end Appraisal.Postgres
