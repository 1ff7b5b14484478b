import Appraisal.Dispatch
import Appraisal.Proofs.Postgres.Server
import Appraisal.Proofs.Program
import Appraisal.Workflow.Error

/-!
# Transactions that the server has aborted

A statement that fails aborts the transaction that it is sent in.  From then on the server refuses
every statement but the end of the transaction and the way back to a savepoint, which mends it.
`COMMIT` of an aborted transaction rolls it back, and is answered without an error.

A session takes the answer to its `COMMIT` for what it says.  So a run that comes to a value has
committed exactly if the transaction was not aborted when its work was done (`endings_of_ok`).  Work
that passes over a failure may end in an aborted transaction, and is told nothing of it
(`told_of_rolledBack`).
-/

namespace Appraisal.Postgres

open Coordinator

/-! ## Transactions as the server has them -/

/-- What the server keeps of a connection.  A savepoint is kept with what had been carried out
before it. -/
inductive Block
  /-- No transaction is open. -/
  | idle
  /-- A transaction is open.  It keeps what was carried out in it and not undone, and its
  savepoints, the innermost first. -/
  | underway (done : List Bound) (saved : List (String × List Bound))
  /-- A statement failed in the transaction. -/
  | aborted (saved : List (String × List Bound))
deriving DecidableEq

/-- How a transaction ended. -/
inductive Ending
  /-- What was carried out in it took effect. -/
  | committed (done : List Bound)
  /-- Nothing did. -/
  | rolledBack
deriving DecidableEq

/-- The savepoints from the innermost one of a name on.  The server takes no notice of case. -/
def savedFrom (name : String) (saved : List (String × List Bound)) :
    List (String × List Bound) :=
  saved.dropWhile fun s => s.1.toLower != name.toLower

/-- A transaction taken back to a savepoint. -/
def goBack? (name : String) (saved : List (String × List Bound)) : Option Block :=
  match savedFrom name saved with
  | [] => none
  | s :: outer => some (.underway s.2 (s :: outer))

namespace Block

/-- The connection after a statement that is carried out, unless it has to be refused. -/
def carryOut? (bound : Bound) : Block → Option Block
  | idle =>
    match bound.statement with
    | .begin _ => some (.underway [] [])
    | .savepoint _ | .releaseSavepoint _ | .rollbackToSavepoint _ => none
    | _ => some .idle
  | underway done saved =>
    match bound.statement with
    | .savepoint name => some (.underway done ((name, done) :: saved))
    | .releaseSavepoint name =>
      match savedFrom name saved with
      | [] => none
      | _ :: outer => some (.underway done outer)
    | .rollbackToSavepoint name => goBack? name saved
    | .commit | .rollback => some .idle
    | .begin _ | .setReadOnly => some (.underway done saved)
    | .select _ | .insert _ | .update _ => some (.underway (done ++ [bound]) saved)
  | aborted saved =>
    match bound.statement with
    | .rollbackToSavepoint name => goBack? name saved
    | .commit | .rollback => some .idle
    | _ => none

/-- Why a statement is refused. -/
def refusal : Block → Failure
  | idle => .rejected "25P01" "there is no transaction in progress"
  | underway _ _ => .rejected "3B001" "savepoint does not exist"
  | aborted _ => .rejected "25P02"
      "current transaction is aborted, commands ignored until end of transaction block"

/-- How `COMMIT` ends the open transaction, if there is one. -/
def onCommit : Block → List Ending
  | idle => []
  | underway done _ => [.committed done]
  | aborted _ => [.rolledBack]

/-- How `ROLLBACK` ends the open transaction, if there is one. -/
def onRollback : Block → List Ending
  | idle => []
  | _ => [.rolledBack]

/-- The endings that a statement brings about.  Outside of transactions, a query or a change is a
transaction of its own. -/
def endings (bound : Bound) (block : Block) : List Ending :=
  match bound.statement, block with
  | .commit, block => block.onCommit
  | .rollback, block => block.onRollback
  | .select _, idle | .insert _, idle | .update _, idle => [.committed [bound]]
  | _, _ => []

/-- The connection after a statement that failed. -/
def afterFailure (bound : Bound) (block : Block) : Block :=
  match bound.statement, block with
  | .commit, _ | .rollback, _ => idle
  | _, underway _ saved => aborted saved
  | _, block => block

end Block

/-- The server, as a client sees it. -/
structure Backend where
  block : Block
  /-- How the client's transactions ended, the first one first. -/
  endings : List Ending
deriving DecidableEq

/-- What the outside does in a turn, with the reply to a statement. -/
structure Chance extends Outside where
  reply : Reply

namespace Backend

/-- The server after a statement that failed.  A commit that fails may have taken effect. -/
def fail (b : Backend) (lost : Bool) (bound : Bound) : Backend :=
  ⟨b.block.afterFailure bound, b.endings ++
    match bound.statement with
    | .commit => if lost then b.block.onCommit else b.block.onRollback
    | .rollback => b.block.onRollback
    | _ => []⟩

/-- Answers a statement. -/
def obey (b : Backend) (chance : Chance) (bound : Bound) : Except Failure Reply × Backend :=
  match chance.failure with
  | some f => (.error f, b.fail chance.lost bound)
  | none =>
    match b.block.carryOut? bound with
    | some block => (.ok chance.reply, ⟨block, b.endings ++ b.block.endings bound⟩)
    | none => (.error b.block.refusal, b.fail false bound)

/-- Answers a request of an exchange. -/
def respond (chance : Chance) : (request : Request) → Backend → request.Answer × Backend
  | .acquire, b => (chance.failure.elim (.ok ()) .error, b)
  | .send bound, b => b.obey chance bound
  | .draw, b => (chance.bits, b)

end Backend

/-! ## A client -/

/-- A client with its session, what the server keeps of it, and the events that it handed to
handlers. -/
structure Wire (ε : Type) where
  /-- How many requests were answered. -/
  turn : Nat
  session : Session
  backend : Backend
  told : List (Nat × ε)

/-- A client that has done nothing yet. -/
instance {ε : Type} : Inhabited (Wire ε) := ⟨⟨0, default, ⟨.idle, []⟩, []⟩⟩

namespace Wire

variable {ε : Type}

/-- The client after a request that is none to the server. -/
def elsewhere (w : Wire ε) : Wire ε := { w with turn := w.turn + 1 }

/-- Answers a request.  A session is opened on a connection without a transaction. -/
def answer (chances : Nat → Chance) :
    (request : Appraisal.Request ε) → Wire ε → request.Answer × Wire ε
  | .openSession, w =>
    match openSession.run.run (Backend.respond (chances w.turn)) w.backend with
    | (.ok session, b) =>
      (.ok (), { w.elsewhere with session, backend := { b with block := .idle } })
    | (.error f, b) => (.error f, { w.elsewhere with backend := b })
  | .session call, w =>
    let ran := (w.session.answer call).run (Backend.respond (chances w.turn)) w.backend
    (ran.1.1, { w.elsewhere with session := ran.1.2, backend := ran.2 })
  | .findMapping _, w => ((chances w.turn).mapping, w.elsewhere)
  | .now, w => ((chances w.turn).now, w.elsewhere)
  | .draw, w => ((chances w.turn).bits, w.elsewhere)
  | .sleep _, w => ((), w.elsewhere)
  | .signal _, w => ((), w.elsewhere)
  | .deliver place event, w =>
    ((chances w.turn).reaction, { w.elsewhere with told := w.told ++ [(place, event)] })

/-! ## The answers to the calls of an attempt -/

section

variable {chances : Nat → Chance} {w : Wire ε}

theorem run_execute {s : Session} {chance : Chance} {b : Backend} (statement : Statement)
    (connected : s.connected = true) :
    (s.execute statement).run.run (Backend.respond chance) b =
      ((b.obey chance ⟨statement, []⟩).1.map fun _ => (), (b.obey chance ⟨statement, []⟩).2) := by
  rw [Session.execute, Session.send, if_pos connected]
  show Program.run (Backend.respond chance) (.call (.send ⟨statement, []⟩) _) b = _
  rw [Program.run, Backend.respond]
  cases (b.obey chance ⟨statement, []⟩).1 <;> rfl

theorem run_execute_released {s : Session} {chance : Chance} {b : Backend} (statement : Statement)
    (released : s.connected = false) :
    (s.execute statement).run.run (Backend.respond chance) b = (.error alreadyReleased, b) := by
  rw [Session.execute, Session.send, released]
  rfl

/-- What a statement that was answered without an error has done. -/
theorem obey_ok {b : Backend} {chance : Chance} {bound : Bound} {reply : Reply}
    (came : (b.obey chance bound).1 = .ok reply) :
    ∃ block, b.block.carryOut? bound = some block ∧
      (b.obey chance bound).2 = ⟨block, b.endings ++ b.block.endings bound⟩ := by
  unfold Backend.obey at came ⊢
  cases failure : chance.failure with
  | some f =>
    rw [failure] at came
    cases came
  | none =>
    rw [failure] at came
    cases carried : b.block.carryOut? bound with
    | none =>
      rw [carried] at came
      cases came
    | some block => exact ⟨block, rfl, rfl⟩

theorem answer_openSession_ok (came : (answer chances .openSession w).1 = .ok ()) :
    (answer chances .openSession w).2 =
      { w.elsewhere with session := default, backend := { w.backend with block := .idle } } := by
  have said : openSession.run.run (Backend.respond (chances w.turn)) w.backend =
      (chances w.turn).failure.elim (.ok default, w.backend) fun f => (.error f, w.backend) := by
    show Program.run (Backend.respond (chances w.turn)) (.call .acquire _) w.backend = _
    rw [Program.run, Backend.respond]
    cases (chances w.turn).failure <;> rfl
  rw [answer, said] at came ⊢
  cases failure : (chances w.turn).failure with
  | none => rfl
  | some f =>
    rw [failure] at came
    cases came

/-- A statement of a session that was answered without an error. -/
theorem run_execute_ok {s : Session} {chance : Chance} {b : Backend} {statement : Statement}
    (came : ((s.execute statement).run.run (Backend.respond chance) b).1 = .ok ()) :
    ∃ block, b.block.carryOut? ⟨statement, []⟩ = some block ∧
      (s.execute statement).run.run (Backend.respond chance) b =
        (.ok (), ⟨block, b.endings ++ b.block.endings ⟨statement, []⟩⟩) := by
  cases connected : s.connected with
  | false =>
    rw [run_execute_released _ connected] at came
    cases came
  | true =>
    rw [run_execute _ connected] at came ⊢
    cases said : (b.obey chance ⟨statement, []⟩).1 with
    | error f =>
      rw [said] at came
      cases came
    | ok reply =>
      obtain ⟨block, carried, after⟩ := obey_ok said
      exact ⟨block, carried, by rw [after]; rfl⟩

theorem run_begin_ok {s : Session} {chance : Chance} {b : Backend} {isolation : Isolation}
    (idle : b.block = .idle)
    (came : ((s.begin isolation).run (Backend.respond chance) b).1.1 = .ok ()) :
    (s.begin isolation).run (Backend.respond chance) b =
      ((.ok (), { s with inTransaction := true }), { b with block := .underway [] [] }) := by
  rw [Session.begin, Program.run_bind] at came ⊢
  cases said : ((s.execute (.begin (some isolation))).run.run (Backend.respond chance) b).1 with
  | error f =>
    rw [said] at came
    cases came
  | ok u =>
    obtain ⟨block, carried, after⟩ := run_execute_ok said
    rw [idle] at carried
    cases carried
    rw [after]
    simp only [Block.endings, List.append_nil]
    rfl

theorem run_commit_ok {s : Session} {chance : Chance} {b : Backend}
    (came : ((s.finish .commit).run (Backend.respond chance) b).1.1 = .ok ()) :
    (s.finish .commit).run (Backend.respond chance) b =
      ((.ok (), { s with inTransaction := false }),
        ⟨.idle, b.endings ++ b.block.onCommit⟩) := by
  rw [Session.finish, Program.run_bind] at came ⊢
  obtain ⟨block, carried, after⟩ := run_execute_ok came
  rw [after]
  obtain rfl : block = .idle := by
    cases h : b.block <;> rw [h] at carried <;> cases carried <;> rfl
  rfl

theorem answer_begin_ok {isolation : Isolation} (idle : w.backend.block = .idle)
    (came : (answer chances (.session (.begin isolation)) w).1 = .ok ()) :
    (answer chances (.session (.begin isolation)) w).2 =
      { w.elsewhere with
        session := { w.session with inTransaction := true }
        backend := { w.backend with block := .underway [] [] } } := by
  let ran := (w.session.begin isolation).run (Backend.respond (chances w.turn)) w.backend
  show { w.elsewhere with session := ran.1.2, backend := ran.2 } = _
  rw [show ran = _ from run_begin_ok idle came]

/-- A `COMMIT` that is answered without an error ends the transaction as it stands. -/
theorem answer_commit_ok (came : (answer chances (.session .commit) w).1 = .ok ()) :
    (answer chances (.session .commit) w).2 =
      { w.elsewhere with
        session := { w.session with inTransaction := false }
        backend := ⟨.idle, w.backend.endings ++ w.backend.block.onCommit⟩ } := by
  let ran := (w.session.finish .commit).run (Backend.respond (chances w.turn)) w.backend
  show { w.elsewhere with session := ran.1.2, backend := ran.2 } = _
  rw [show ran = _ from run_commit_ok came]

/-- Giving back a session without a transaction sends nothing. -/
theorem answer_release (outside : w.session.inTransaction = false) :
    (answer chances (.session .release) w).2.backend = w.backend := by
  simp only [answer, Session.answer, Session.release, outside]
  cases w.session.connected <;> rfl

/-! ## Runs -/

variable {E α : Type} [WorkError E] {c : Coordinator} {context : String} {o : TransactionOptions}
  {work : Work ε E α} {v : α}

/-- The client is left after a transaction that was begun, did its work to a value and was then
committed, as it seemed to the client. -/
def Finished (chances : Nat → Chance) (work : Work ε E α) (v : α) (after : Wire ε) : Prop :=
  ∃ begun done : Wire ε, begun.backend.block = .underway [] [] ∧
    work.run.run (answer chances) begun = (.ok v, done) ∧
    after.backend = ⟨.idle, done.backend.endings ++ done.backend.block.onCommit⟩

/-- A clean-up of a session without a transaction. -/
theorem run_release {after : Wire ε} {u : Unit} (outside : w.session.inTransaction = false)
    (ran : (c.cleanUp context .release (Action.session .release) : Action ε Unit).run
      (answer chances) w = (u, after)) : after.backend = w.backend := by
  obtain ⟨result, released, said, ran⟩ := Program.run_bind_eq_iff.1 ran
  obtain rfl : _ = released := congrArg Prod.snd said
  cases result <;> cases ran <;> exact answer_release outside

theorem finished_of_transaction {after : Wire ε} (idle : w.backend.block = .idle)
    (ran : (c.transaction context o work).run.run (answer chances) w = (.ok v, after)) :
    Finished chances (c.body context o work) v after ∧ after.session.inTransaction = false := by
  obtain ⟨began, begun, said, ran⟩ := Program.run_bind_eq_iff.1 ran
  cases began with
  | error f => cases ran
  | ok u =>
    obtain ⟨outcome, done, did, ran⟩ := Program.run_bind_eq_iff.1 ran
    cases outcome with
    | error e =>
      obtain ⟨_, _, -, ended⟩ := Program.run_bind_eq_iff.1 ran
      cases ended
    | ok a =>
      obtain ⟨ended, committed, told, ran⟩ := Program.run_bind_eq_iff.1 ran
      cases ended with
      | error f =>
        obtain ⟨_, _, -, ended⟩ := Program.run_bind_eq_iff.1 ran
        cases ended
      | ok u =>
        cases ran
        obtain rfl : _ = begun := congrArg Prod.snd said
        obtain rfl : _ = after := congrArg Prod.snd told
        have opened := answer_begin_ok idle (congrArg Prod.fst said)
        have closed := answer_commit_ok (congrArg Prod.fst told)
        exact ⟨⟨_, done, congrArg (·.backend.block) opened, did, congrArg (·.backend) closed⟩,
          congrArg (·.session.inTransaction) closed⟩

theorem finished_of_attempt {after : Wire ε}
    (ran : (c.attempt context o work).run.run (answer chances) w = (.ok v, after)) :
    Finished chances (c.body context o work) v after := by
  obtain ⟨opening, opened, said, ran⟩ := Program.run_bind_eq_iff.1 ran
  cases opening with
  | error f => cases ran
  | ok u =>
    obtain ⟨outcome, ended, did, ran⟩ := Program.run_bind_eq_iff.1 ran
    obtain ⟨_, released, gave, ran⟩ := Program.run_bind_eq_iff.1 ran
    cases ran
    obtain rfl : _ = opened := congrArg Prod.snd said
    have idle := congrArg (·.backend.block) (answer_openSession_ok (congrArg Prod.fst said))
    obtain ⟨⟨begun, done, fresh, worked, same⟩, outside⟩ := finished_of_transaction idle did
    exact ⟨begun, done, fresh, worked, (run_release outside gave).trans same⟩

/-- Attempts that come to a value do so at the first of them or at a later one. -/
theorem attempts_cases {left number : Nat} {after : Wire ε}
    (ran : (c.attempts context o work left number).run.run (answer chances) w = (.ok v, after)) :
    (c.attempt context o work).run.run (answer chances) w = (.ok v, after) ∨
      ∃ fewer : Nat, left = fewer + 1 ∧ ∃ next : Wire ε,
        (c.attempts context o work fewer (number + 1)).run.run (answer chances) next =
          (.ok v, after) := by
  rw [Coordinator.attempts.eq_def] at ran
  obtain ⟨outcome, tried, did, ran⟩ := Program.run_bind_eq_iff.1 ran
  cases outcome with
  | ok a =>
    cases ran
    exact .inl did
  | error e =>
    dsimp only at ran
    split at ran
    · cases ran
    · cases left with
      | zero =>
        obtain ⟨_, _, -, ended⟩ := Program.run_bind_eq_iff.1 ran
        cases ended
      | succ fewer =>
        dsimp only at ran
        split at ran
        · obtain ⟨_, next, -, again⟩ := Program.run_bind_eq_iff.1 ran
          exact .inr ⟨fewer, rfl, next, again⟩
        · obtain ⟨_, _, -, ended⟩ := Program.run_bind_eq_iff.1 ran
          cases ended

theorem finished_of_attempts {left number : Nat} {after : Wire ε}
    (ran : (c.attempts context o work left number).run.run (answer chances) w = (.ok v, after)) :
    Finished chances (c.body context o work) v after := by
  induction left generalizing w number with
  | zero =>
    obtain did | ⟨_, more, -⟩ := attempts_cases ran
    · exact finished_of_attempt did
    · cases more
  | succ left ih =>
    obtain did | ⟨_, more, next, again⟩ := attempts_cases ran
    · exact finished_of_attempt did
    · cases more
      exact ih again

/-- A run that comes to a value has done its work, in the end, in a transaction of its own, and the
last thing that it asked of the server was to commit it.  The server has committed what was carried
out if the transaction was underway, and rolled it back if it was aborted. -/
theorem endings_of_ok {after : Wire ε}
    (ran : (c.runWith context o work).run.run (answer chances) w = (.ok v, after)) :
    ∃ begun done : Wire ε, begun.backend.block = .underway [] [] ∧
      (c.body context o work).run.run (answer chances) begun = (.ok v, done) ∧
      after.backend = ⟨.idle, done.backend.endings ++
        match done.backend.block with
        | .underway carriedOut _ => [.committed carriedOut]
        | .aborted _ => [.rolledBack]
        | .idle => []⟩ := by
  obtain ⟨_, _, said, ran⟩ := Program.run_bind_eq_iff.1 ran
  obtain ⟨outcome, tried, did, ran⟩ := Program.run_bind_eq_iff.1 ran
  obtain ⟨_, _, sampled, ran⟩ := Program.run_bind_eq_iff.1 ran
  cases ran
  cases sampled
  obtain ⟨begun, done, fresh, worked, same⟩ := finished_of_attempts did
  refine ⟨begun, done, fresh, worked, same.trans ?_⟩
  cases done.backend.block <;> rfl

end

/-- Work that saves a record, passes over a failure to do so, and tells of it. -/
def heedless (record : ApprovalRecord) : Work String WorkflowError (Recorded String Unit) := do
  tryCatch (Work.saveApproval record) fun _ => pure ()
  return ⟨(), ["saved"]⟩

/-- An outside that lets the request of one turn fail, if it is one to the server. -/
def failingAt (place turn : Nat) : Chance where
  now := default
  bits := default
  mapping := .ok none
  reaction := .ok ()
  failure := if turn = place then some (.rejected "23514" "violates a check") else none
  lost := false
  reply := ⟨[], 0⟩

/-- Heedless work whose record the server rejects. -/
theorem endings_of_ok_heedless :
    let ran := ((default : Coordinator).runWith "save" default
      (heedless (.fresh default default))).run.run (answer (failingAt 3)) default
    ran.1 = .ok ⟨(), ["saved"]⟩ ∧
      ∃ begun done : Wire String, begun.backend.block = .underway [] [] ∧
        ((default : Coordinator).body "save" default (heedless (.fresh default default))).run.run
          (answer (failingAt 3)) begun = (.ok ⟨(), ["saved"]⟩, done) ∧
        ran.2.backend = ⟨.idle, done.backend.endings ++
          match done.backend.block with
          | .underway carriedOut _ => [.committed carriedOut]
          | .aborted _ => [.rolledBack]
          | .idle => []⟩ := by
  intro ran
  have came : ran.1 = .ok ⟨(), ["saved"]⟩ := by
    unfold ran
    rw [Coordinator.runWith, Coordinator.attempts]
    rfl
  exact ⟨came, endings_of_ok (Prod.ext came rfl)⟩

/-- The server rejects a record, work passes over that, and the run comes to a value: its event is
handed on, and nothing was committed. -/
theorem told_of_rolledBack :
    let ran := ((default : Coordinator).runWithEventsUsing "save" default ⟨[⟨"recorder", none⟩]⟩
      (heedless (.fresh default default))).run.run (answer (failingAt 3)) default
    ran.1 = .ok ⟨(), []⟩ ∧ ran.2.told = [(0, "saved")] ∧
      ran.2.backend = ⟨.idle, [.rolledBack]⟩ := by
  rw [Coordinator.runWithEventsUsing, Coordinator.runWith, Coordinator.attempts]
  exact ⟨rfl, rfl, rfl⟩

end Wire

end Appraisal.Postgres
