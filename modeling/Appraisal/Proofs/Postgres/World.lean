import Mathlib.Logic.Function.Basic
import Appraisal.Proofs.Postgres.Server
import Appraisal.Workflow.RevisionWork

/-!
# Calls about one row

Any number of clients read and complete one revision request for one recipient.  Each makes one
call, on sessions of its own.  The calls take turns in any order: in a turn, one request of one
client is answered, and a request that has to wait is made again later.

The world keeps a log of the changes that were committed.  Beside each change stands the row that
the client had loaded when it decided on the change.  A change is *overtaken* if somebody else has
changed the time of reading in between (`Publication.Overtaken`).
-/

namespace Appraisal.Postgres

open Workflow

/-- What a client does about the row. -/
inductive Touch
  /-- It marks the request read. -/
  | read
  /-- It completes the request. -/
  | complete (comment : String)

/-- The call of a client. -/
def Touch.action (s : Service) (requestId : RevisionRequestId) (recipientId : EmployeeId) :
    Touch → WorkflowWork RecipientRow
  | .read => markRead s requestId recipientId
  | .complete comment => submitCompletion s requestId recipientId comment

/-! ## Clients -/

/-- What a client knows of its session and its transaction. -/
structure Standing where
  /-- It has a session that was not given back. -/
  opened : Bool
  /-- The row that it has loaded last. -/
  loaded : Option RecipientRow
  /-- Its transaction has changed the row. -/
  written : Bool

instance : Inhabited Standing := ⟨⟨false, none, false⟩⟩

/-- What a client knows after a request was answered. -/
def Standing.next {ε : Type} (b : Standing) : (request : Appraisal.Request ε) → request.Answer →
    Standing
  | .openSession, .ok () => { b with opened := true }
  | .session .release, _ => { b with opened := false }
  | .session (.store (.findRecipient _ _)), .ok (some row) => { b with loaded := some row }
  | .session (.store (.updateRecipient _)), .ok true => { b with written := true }
  | .session .commit, _ | .session .rollback, _ => { b with written := false }
  | _, _ => b

/-- A call in progress. -/
structure Client where
  /-- What is left of it. -/
  rest : Action WorkflowEvent (Except WorkflowError RecipientRow)
  session : Session
  standing : Standing

/-! ## The world -/

/-- A change that was committed. -/
structure Publication (ι : Type) where
  client : ι
  /-- The row that the client had loaded. -/
  loaded : Option RecipientRow
  /-- The row that the change replaced. -/
  found : Row

/-- The cell of the time of reading. -/
def readCell (row : Row) : Option Cell := row.cell? "read_at"

/-- The time of reading was changed after the client had loaded the row. -/
def Publication.Overtaken {ι : Type} (p : Publication ι) : Prop :=
  (p.loaded.map fun r => readCell (recipientRow r)) ≠ some (readCell p.found)

instance {ι : Type} (p : Publication ι) : Decidable p.Overtaken := by
  unfold Publication.Overtaken
  infer_instance

/-- Clients and their server. -/
structure World (ι : Type) where
  server : Server ι
  clients : ι → Client
  /-- The changes that were committed, the first one first. -/
  log : List (Publication ι)
  /-- The events that were handed to handlers: by whom, and to which handler. -/
  told : List (ι × Nat × WorkflowEvent)

/-- What a request tells a handler. -/
def telling {ε : Type} : Appraisal.Request ε → Option (Nat × ε)
  | .deliver place event => some (place, event)
  | _ => none

namespace World

section

variable {ι : Type}

/-- The next request of a client. -/
def asks (world : World ι) (i : ι) : Option (Appraisal.Request WorkflowEvent) :=
  match (world.clients i).rest with
  | .pure _ => none
  | .call request _ => some request

/-- What a client has returned. -/
def returned (world : World ι) (i : ι) : Option (Except WorkflowError RecipientRow) :=
  match (world.clients i).rest with
  | .pure outcome => some outcome
  | .call _ _ => none

/-- The events that a client handed to handlers. -/
def toldBy [DecidableEq ι] (world : World ι) (i : ι) : List (Nat × WorkflowEvent) :=
  (world.told.filter fun t => t.1 = i).map Prod.snd

variable {world : World ι} {i : ι}

theorem call_of_asks {request : Appraisal.Request WorkflowEvent}
    (asked : world.asks i = some request) :
    ∃ next, (world.clients i).rest = .call request next := by
  unfold asks at asked
  split at asked
  · cases asked
  · cases asked
    exact ⟨_, by assumption⟩

theorem returned_iff {outcome : Except WorkflowError RecipientRow} :
    world.returned i = some outcome ↔ (world.clients i).rest = pure outcome := by
  unfold returned
  cases (world.clients i).rest with
  | pure outcome' =>
    constructor
    · rintro ⟨⟩
      rfl
    · rintro ⟨⟩
      rfl
  | call request next => exact ⟨nofun, nofun⟩

end

variable {ι : Type} [DecidableEq ι]

/-- The world before any turn. -/
def start (services : ι → Service) (requestId : RevisionRequestId) (recipientId : EmployeeId)
    (touches : ι → Touch) (requests : List Row) (row : Row) : World ι where
  server := ⟨requests, row, none, 0⟩
  clients i := ⟨((touches i).action (services i) requestId recipientId).run, default, default⟩
  log := []
  told := []

/-- A client makes a request. -/
def respond (world : World ι) (i : ι) (w : Outside) (request : Appraisal.Request WorkflowEvent)
    (next : request.Answer → Action WorkflowEvent (Except WorkflowError RecipientRow)) :
    World ι :=
  let client := world.clients i
  let after := world.server.answer w i client.session request
  { server := after.2.1
    clients := Function.update world.clients i
      ⟨next after.1, after.2.2, client.standing.next request after.1⟩
    log :=
      if after.2.1.version = world.server.version then world.log
      else world.log ++ [⟨i, client.standing.loaded, world.server.row⟩]
    told := world.told ++ ((telling request).map (i, ·)).toList }

section

variable {world : World ι} {i : ι} {w : Outside} {request : Appraisal.Request WorkflowEvent}
  {next : request.Answer → Action WorkflowEvent (Except WorkflowError RecipientRow)}

theorem clients_respond_self : (world.respond i w request next).clients i =
    let after := world.server.answer w i (world.clients i).session request
    ⟨next after.1, after.2.2, (world.clients i).standing.next request after.1⟩ :=
  Function.update_self _ _ _

theorem clients_respond_of_ne {j : ι} (other : j ≠ i) :
    (world.respond i w request next).clients j = world.clients j :=
  Function.update_of_ne other _ _

end

/-- A client takes a turn, unless it has to wait. -/
def turn (world : World ι) (t : ι × Outside) : World ι :=
  match (world.clients t.1).rest with
  | .pure _ => world
  | .call request next =>
    if world.server.Waits t.1 request then world else world.respond t.1 t.2 request next

/-- Clients take turns. -/
def run (world : World ι) (turns : List (ι × Outside)) : World ι := turns.foldl turn world

end World

end Appraisal.Postgres
