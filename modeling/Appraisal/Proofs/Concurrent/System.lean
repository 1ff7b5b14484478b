import Mathlib.Logic.Function.Basic
import Appraisal.Proofs.Workflow.Call
import Appraisal.Proofs.Concurrent.Turn

/-!
# Concurrent calls

Any number of calls of the workflow run on one store, and in each move one of them takes a turn.
Failures to begin and to commit may be planned at any time.

*Accounts.*  A call keeps an account of its turns: those before it opened a session, those of
attempts that were followed by another, and those from the last opening on.  Of these the first and
the last are kept: they are the turns of the call if its last attempt had been its only one.

*The line.*  A call enters the line when its transaction begins, goes to the end of it when it
begins again, and once more when its commit publishes rows.  The line is the order in which the
calls can be made one at a time: `SerialOrder` are the lists that follow it, and `serially` are the
moves that make the calls of such a list, each with the turns it has kept.
-/

namespace Appraisal.Memory

open Workflow

/-! ## Accounts -/

/-- The turns of a call so far. -/
structure Account where
  /-- Those before it opened a session. -/
  before : List Turn
  /-- Those of attempts that were followed by another. -/
  failed : List Turn
  /-- Those since it last opened a session. -/
  last : List Turn

instance : Inhabited Account := ⟨⟨[], [], []⟩⟩

namespace Account

/-- The account with one more turn. -/
def add (a : Account) (turn : Turn) : Account :=
  match turn.request with
  | .openSession => ⟨a.before, a.failed ++ a.last, [turn]⟩
  | _ =>
    if a.last.isEmpty then { a with before := a.before ++ [turn] }
    else { a with last := a.last ++ [turn] }

/-- All turns. -/
def turns (a : Account) : List Turn := a.before ++ a.failed ++ a.last

/-- The turns without those of attempts that were followed by another. -/
def kept (a : Account) : List Turn := a.before ++ a.last

end Account

/-! ## Calls in progress -/

/-- How far a call has come. -/
structure Progress where
  /-- Its session. -/
  session : Session
  /-- Its turns. -/
  account : Account
  /-- The committed tables where it stands in the line, before and after it, if it is there. -/
  span : Option (Tables × Tables)
  /-- It has published rows. -/
  published : Bool

instance : Inhabited Progress := ⟨⟨default, default, none, false⟩⟩

/-- The progress after a turn. -/
def Progress.next (b : Progress) (w : Outside) (store : Store)
    (request : Request WorkflowEvent) : Progress :=
  let after := w.answer store b.session request
  { session := after.2.2
    account := b.account.add ⟨request, w⟩
    span :=
      if Session.begins b.session after.2.2 then some (store.committed, store.committed)
      else if after.2.1.committed = store.committed then b.span
      else some (store.committed, after.2.1.committed)
    published := b.published || decide (after.2.1.committed ≠ store.committed) }

/-- A call that returns a value of some type. -/
structure Client (V : Type) where
  /-- What is left of its program. -/
  rest : Action WorkflowEvent (Except WorkflowError V)
  /-- How far it has come. -/
  progress : Progress

/-- The error is one of the application: neither of the store nor of a transaction given up. -/
def isApplication : WorkflowError → Bool
  | .storage _ | .transaction _ => false
  | _ => true

/-- The result is a value or an error of the application. -/
def counts {V : Type} : Except WorkflowError V → Bool
  | .ok _ => true
  | .error e => isApplication e

/-- The call has published rows, or it has returned a value or an error of the application. -/
def Client.Counts {V : Type} (c : Client V) : Prop :=
  c.progress.published = true ∨ ∃ r, c.rest = pure r ∧ counts r = true

/-! ## Systems -/

/-- Calls that run on one store. -/
structure System {ι : Type} (calls : ι → Call) where
  /-- The store. -/
  store : Store
  /-- The calls. -/
  clients : (i : ι) → Client (calls i).Value
  /-- The calls whose transactions have begun, in their line. -/
  line : List ι

/-- What may happen next. -/
inductive Happening (ι : Type)
  /-- A call takes a turn. -/
  | turn (i : ι) (w : Outside)
  /-- Failures to begin and to commit are planned. -/
  | plan (onBegin onCommit : List Failure)

namespace System

variable {ι : Type} {calls : ι → Call}

/-- No call has taken a turn. -/
def start (service : ι → Service) (calls : ι → Call) (store : Store) : System calls where
  store := store
  clients i := ⟨((calls i).action (service i)).run, default⟩
  line := []

variable [DecidableEq ι]

/-- The system after a call has made a request. -/
def respond (sys : System calls) (i : ι) (w : Outside) (request : Request WorkflowEvent)
    (next : request.Answer → Action WorkflowEvent (Except WorkflowError (calls i).Value)) :
    System calls :=
  let b := (sys.clients i).progress
  let after := w.answer sys.store b.session request
  { store := after.2.1
    clients := Function.update sys.clients i ⟨next after.1, b.next w sys.store request⟩
    line :=
      if Session.begins b.session after.2.2 ∨ after.2.1.committed ≠ sys.store.committed then
        sys.line.erase i ++ [i]
      else sys.line }

/-- The system after something happened. -/
def step (sys : System calls) : Happening ι → System calls
  | .plan onBegin onCommit =>
    { sys with store.faults := { sys.store.faults with onBegin, onCommit } }
  | .turn i w =>
    match (sys.clients i).rest with
    | .pure _ => sys
    | .call request next => sys.respond i w request next

/-- The system after some things happened. -/
def run (sys : System calls) (happenings : List (Happening ι)) : System calls :=
  happenings.foldl step sys

/-- The calls that count, in an order that follows the line.  Those that never began a transaction
stand anywhere. -/
structure SerialOrder (sys : System calls) (order : List ι) : Prop where
  /-- No call is there twice. -/
  nodup : order.Nodup
  /-- The calls are those that count. -/
  mem : ∀ i, i ∈ order ↔ (sys.clients i).Counts
  /-- They follow the line. -/
  line : order.filter (· ∈ sys.line) = sys.line.filter (· ∈ order)

/-- The calls of a list, made one at a time, with the turns they have kept and no failures. -/
def serially (sys : System calls) (order : List ι) : List (Happening ι) :=
  .plan [] [] ::
    order.flatMap fun i =>
      (sys.clients i).progress.account.kept.map fun turn => .turn i turn.outside

end System

end Appraisal.Memory
