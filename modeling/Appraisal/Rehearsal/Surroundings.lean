import Appraisal.Memory.Store
import Appraisal.Postgres.Mapping
import Appraisal.Postgres.Session
import Appraisal.Rehearsal.Handler

/-!
# Surroundings

What a rehearsal plays against: a store in memory or a server that answers as planned, a clock that
moves only while somebody waits, fixed random bits, planned handlers and planned faults.  What is
logged, counted and reported goes into a journal.

A fault stands in a queue for one method.  It lets some calls through, and then it meets one call
and is gone.  A call that meets a fault does not reach the store.

`answer` answers the requests of actions and changes the surroundings.  Something may be planned to
happen just before a commit, such as the commit of another session.
-/

namespace Appraisal.Rehearsal

/-! ## Parts -/

/-- A clock. -/
structure Clock where
  /-- What it showed first. -/
  start : Instant
  /-- The nanoseconds that were waited since. -/
  waited : Nat

/-- What the clock shows. -/
def Clock.now (c : Clock) : Instant := c.start.add (.ofNanos c.waited)

/-- The nanoseconds of the longest sleep: thirty years of 365 days. -/
def longestSleep : Nat := 30 * 365 * 86400 * nanosPerSecond

/-- The clock after a sleep, which ends after `longestSleep` at the latest. -/
def Clock.sleep (c : Clock) (nanos : Nat) : Clock :=
  { c with waited := c.waited + min nanos longestSleep }

/-- What came out beside the answers. -/
structure Journal where
  /-- The log. -/
  logs : List LogEntry := []
  /-- The failed clean-ups. -/
  diagnostics : List Diagnostic := []
  /-- The events that handlers remembered, with their names. -/
  events : List (String × AnyEvent) := []

/-- A planned fault. -/
structure Fault where
  /-- The method it waits for. -/
  method : String
  /-- The failure it causes, or none to let a store refuse a row. -/
  failure : Option Failure
  /-- How many calls it lets through. -/
  skip : Nat

/-- A server that answers as planned. -/
structure Server where
  /-- The answers to the next statements. -/
  replies : List (Except Failure Postgres.Reply)
  /-- The statements that were sent, the newest first. -/
  sent : List Postgres.Bound
  /-- The pool of connections is closed. -/
  closed : Bool

/-- An open session. -/
inductive Live
  /-- On the store in memory. -/
  | memory (session : Memory.Session)
  /-- On the server. -/
  | remote (session : Postgres.Session)

/-- Everything that is played against, with a state `σ` of the rehearsal's own. -/
structure Surroundings (σ : Type) where
  /-- The store in memory. -/
  store : Memory.Store := default
  /-- The server that is used instead of it. -/
  server : Option Server := none
  /-- The current session. -/
  current : Live := .memory default
  /-- The registered handlers. -/
  handlers : List HandlerPlan := []
  /-- The planned faults. -/
  faults : List Fault := []
  /-- The clock. -/
  clock : Clock := ⟨default, 0⟩
  /-- The random bits. -/
  bits : Uuid := default
  /-- The counters. -/
  counters : List (String × Nat) := []
  /-- The journal. -/
  journal : Journal := {}
  /-- The state of the rehearsal. -/
  own : σ

/-- A change of the surroundings that has a result. -/
abbrev Play (σ α : Type) : Type := Surroundings σ → α × Surroundings σ

variable {σ : Type}

/-! ## Signals and handlers -/

/-- Counts one more. -/
def countOne (key : String) : List (String × Nat) → List (String × Nat)
  | [] => [(key, 1)]
  | (k, n) :: rest => if k = key then (k, n + 1) :: rest else (k, n) :: countOne key rest

/-- The name of a counter with its labels. -/
def counterKey (name : String) (labels : List (String × String)) : String :=
  name ++ "\x7b" ++ String.intercalate "," (labels.map fun l => l.1 ++ "=" ++ l.2) ++ "\x7d"

/-- Takes note of a signal. -/
def heed (signal : Signal) (s : Surroundings σ) : Surroundings σ :=
  match signal with
  | .log entry => { s with journal.logs := s.journal.logs ++ [entry] }
  | .count name labels => { s with counters := countOne (counterKey name labels) s.counters }
  | .sample name => { s with counters := countOne (counterKey name []) s.counters }
  | .diagnostic report => { s with journal.diagnostics := s.journal.diagnostics ++ [report] }

/-- Lets a handler react to an event. -/
def react (plan : Option HandlerPlan) (event : AnyEvent) : Play σ (Except String Unit) := fun s =>
  match plan with
  | none => (.ok (), s)
  | some plan =>
    match plan.failure? event with
    | some message => (.error message, s)
    | none =>
      if plan.remembers then
        (.ok (), { s with journal.events := s.journal.events ++ [(plan.name, event)] })
      else (.ok (), s)

/-- Hands an event of the workflow to a handler. -/
def deliverWorkflow (place : Nat) (event : WorkflowEvent) : Play σ (Except String Unit) := fun s =>
  react s.handlers[place]? (.workflow event) s

/-- Hands an event of any kind to a handler. -/
def deliverAny (place : Nat) (event : AnyEvent) : Play σ (Except String Unit) := fun s =>
  react (s.handlers.filter HandlerPlan.isGeneral)[place]? event s

/-! ## Faults -/

/-- The name of a store call in plans of faults. -/
def storeMethod : StoreCall → String
  | .findApproval _ => "find_step_approval"
  | .saveApproval _ => "save_step_approval"
  | .insertRequest _ => "insert_revision_request"
  | .insertRecipient _ => "insert_recipient"
  | .findRequest _ => "find_revision_request"
  | .findRecipient .. => "find_recipient"
  | .recipientsOf _ => "recipients_of"
  | .updateRecipient _ => "update_recipient"
  | .listFor .. => "list_for_recipient"
  | .countUnread _ => "count_unread"

/-- The name of a call in plans of faults. -/
def sessionMethod : SessionCall → String
  | .begin _ => "begin"
  | .setReadOnly => "set_read_only"
  | .savepoint _ => "savepoint"
  | .releaseSavepoint _ => "release_savepoint"
  | .rollbackToSavepoint _ => "rollback_to_savepoint"
  | .commit => "commit"
  | .rollback => "rollback"
  | .release => "release"
  | .store call => storeMethod call

/-- The fault that a call of a method meets, and the faults after it. -/
def tripFault (method : String) : List Fault → Option Fault × List Fault
  | [] => (none, [])
  | f :: rest =>
    if f.method = method then
      if f.skip = 0 then (some f, rest) else (none, { f with skip := f.skip - 1 } :: rest)
    else
      let (met, rest) := tripFault method rest
      (met, f :: rest)

/-- Makes a call of a method, unless it meets a fault. -/
def unlessFault {α : Type} (method : String) (refusal : Option α)
    (call : Play σ (Except Failure α)) : Play σ (Except Failure α) := fun s =>
  let (met, faults) := tripFault method s.faults
  let s := { s with faults := faults }
  match met.map Fault.failure, refusal with
  | some (some f), _ => (.error f, s)
  | some none, some a => (.ok a, s)
  | _, _ => call s

/-- What a refused call answers, if a call can be refused. -/
def refusal : (call : SessionCall) → Option call.Value
  | .store (.updateRecipient _) => some false
  | _ => none

/-! ## The store and the server -/

/-- Answers a request to the server. -/
def answerServer : (request : Postgres.Request) → Play σ request.Answer
  | .acquire => fun s =>
    match s.server with
    | some server => (if server.closed then .error .poolClosed else .ok (), s)
    | none => (.error .poolClosed, s)
  | .send bound => fun s =>
    match s.server with
    | some server =>
      let sent := bound :: server.sent
      match server.replies with
      | reply :: replies => (reply, { s with server := some { server with replies, sent } })
      | [] => (.ok ⟨[], 0⟩, { s with server := some { server with sent } })
    | none => (.error .poolClosed, s)
  | .draw => fun s => (s.bits, s)

/-- Runs an exchange with the server. -/
def converse {α : Type} (exchange : Postgres.Exchange α) : Play σ α :=
  exchange.run answerServer

/-- Opens a session and makes it the current one. -/
def openSession : Play σ (Except Failure Unit) := fun s =>
  match s.server with
  | some _ =>
    match converse Postgres.openSession.run s with
    | (.ok session, s) => (.ok (), { s with current := .remote session })
    | (.error f, s) => (.error f, s)
  | none =>
    let (session, store) := s.store.openSession
    (.ok (), { s with store := store, current := .memory session })

/-- Passes a call on to the current session. -/
def callSession (call : SessionCall) : Play σ call.Answer := fun s =>
  match s.current with
  | .memory session =>
    let (answer, store, session) := s.store.answer session call
    (answer, { s with store := store, current := .memory session })
  | .remote session =>
    let ((answer, session), s) := converse (session.answer call) s
    (answer, { s with current := .remote session })

/-- Looks a mapping up. -/
def findMapping (id : MappingId) : Play σ (Except Failure (Option EvaluationMapping)) := fun s =>
  match s.server with
  | some _ => converse (Postgres.findMapping id).run s
  | none => (.ok (s.store.findMapping id), s)

/-! ## Actions -/

/-- What happens before a call. -/
def before (beforeCommit : Surroundings σ → Surroundings σ) (call : SessionCall)
    (s : Surroundings σ) : Surroundings σ :=
  match call with
  | .commit => beforeCommit s
  | _ => s

/-- Answers a request of an action. -/
def answer {ε : Type} (beforeCommit : Surroundings σ → Surroundings σ)
    (deliver : Nat → ε → Play σ (Except String Unit)) :
    (request : Request ε) → Play σ request.Answer
  | .openSession => unlessFault "open" none openSession
  | .session call => fun s =>
    unlessFault (sessionMethod call) (refusal call) (callSession call) (before beforeCommit call s)
  | .findMapping id => unlessFault "find_mapping" none (findMapping id)
  | .now => fun s => (s.clock.now, s)
  | .draw => fun s => (s.bits, s)
  | .sleep duration => fun s =>
    ((), { s with clock := s.clock.sleep duration.nanos })
  | .signal signal => fun s => ((), heed signal s)
  | .deliver place event => deliver place event

/-- Performs an action. -/
def perform {ε α : Type} (beforeCommit : Surroundings σ → Surroundings σ)
    (deliver : Nat → ε → Play σ (Except String Unit)) (action : Action ε α) : Play σ α :=
  action.run (answer beforeCommit deliver)

/-! ## Tests -/

example : (Clock.sleep ⟨default, 5⟩ 7).waited = 12 := by decide
example : (Clock.sleep ⟨default, 5⟩ (longestSleep + 7)).waited = 5 + longestSleep := by decide

end Appraisal.Rehearsal
