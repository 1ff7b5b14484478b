import Appraisal.Proofs.Postgres.Aborted
import Appraisal.Proofs.Workflow.Forthright

/-!
# Work that passes over no failure

Work *heeds* failures if it ends with an error once a call on its session has failed.  As long as no
call fails, the server carries every statement out, so the transaction stays underway
(`underway_of_heeds`).  If a run of such work comes to a value, the server has committed
(`committed_of_heeds`).

Savepoints do not change this (`Heeds.inSavepoint`), and all calls of the workflow do such work
(`committed_of_call`).
-/

namespace Appraisal.Postgres.Wire

open Memory Coordinator Workflow

variable {ε E α β : Type} {chances : Nat → Chance} {w : Wire ε}

/-! ## Heeding -/

/-- The call neither begins nor ends a transaction, and keeps the session. -/
def Amid : SessionCall → Prop
  | .begin _ | .commit | .rollback | .release => False
  | _ => True

/-- The program ends with an error. -/
def Fails (p : Action ε (Except E α)) : Prop := p.Within (fun _ => True) fun r => ∃ e, r = .error e

/-- The program works in one transaction, and once a call on the session has failed, it ends with an
error. -/
def Heeds : Action ε (Except E α) → Prop
  | .pure _ => True
  | .call .openSession _ => False
  | .call (.session call) next =>
    Amid call ∧ (∀ f, Fails (next (.error f))) ∧ ∀ v, Heeds (next (.ok v))
  | .call (.findMapping _) next => ∀ answer, Heeds (next answer)
  | .call .now next => ∀ answer, Heeds (next answer)
  | .call .draw next => ∀ answer, Heeds (next answer)
  | .call (.sleep _) next => ∀ answer, Heeds (next answer)
  | .call (.signal _) next => ∀ answer, Heeds (next answer)
  | .call (.deliver _ _) next => ∀ answer, Heeds (next answer)

/-- The transaction of a connection is underway, and none has ended since. -/
def Underway (endings : List Ending) (b : Backend) : Prop :=
  (∃ done saved, b.block = .underway done saved) ∧ b.endings = endings

theorem underway_of_carryOut? {bound : Bound} {done : List Bound}
    {saved : List (String × List Bound)} {block : Block} (amid : bound.statement ≠ .commit)
    (amid' : bound.statement ≠ .rollback)
    (carried : (Block.underway done saved).carryOut? bound = some block) :
    (∃ done saved, block = .underway done saved) ∧
      (Block.underway done saved).endings bound = [] := by
  unfold Block.carryOut? at carried
  unfold Block.endings
  cases sent : bound.statement with
  | commit => exact absurd sent amid
  | rollback => exact absurd sent amid'
  | releaseSavepoint name | rollbackToSavepoint name =>
    simp only [sent, goBack?] at carried
    split at carried <;> cases carried
    exact ⟨⟨_, _, rfl⟩, rfl⟩
  | _ =>
    simp only [sent] at carried
    cases carried
    exact ⟨⟨_, _, rfl⟩, rfl⟩

/-- An exchange that does not fail leaves the transaction underway. -/
def Stays {α : Type} (p : FallibleExchange α) : Prop :=
  ∀ chance endings b v after, Underway endings b →
    p.run.run (Backend.respond chance) b = (.ok v, after) → Underway endings after

namespace Stays

variable {α β : Type}

theorem decoded (result : Except Failure α) : Stays (Exchange.decoded result) := by
  rintro chance endings b v after underway ran
  cases result <;> cases ran
  exact underway

theorem bind {p : FallibleExchange α} {f : α → FallibleExchange β} (h : Stays p)
    (rest : ∀ a, Stays (f a)) : Stays (p >>= f) := by
  intro chance endings b v after underway ran
  obtain ⟨outcome, middle, first, second⟩ := Program.run_bind_eq_iff.1 ran
  cases outcome with
  | error f => cases second
  | ok a =>
    have going := h chance endings b a middle underway first
    exact rest a chance endings middle v after going second

theorem send (s : Session) {bound : Bound} (amid : bound.statement ≠ .commit)
    (amid' : bound.statement ≠ .rollback) : Stays (s.send bound) := by
  unfold Session.send
  split
  · rintro chance endings b v after ⟨⟨done, saved, underway⟩, rfl⟩ ran
    have said : b.obey chance bound = (.ok v, after) := ran
    obtain ⟨block, carried, left⟩ := obey_ok (congrArg Prod.fst said)
    obtain rfl : _ = after := congrArg Prod.snd said
    rw [underway] at carried left
    obtain ⟨going, none⟩ := underway_of_carryOut? amid amid' carried
    rw [left, none]
    exact ⟨going, List.append_nil _⟩
  · exact decoded _

theorem execute (s : Session) {statement : Statement} (amid : statement ≠ .commit)
    (amid' : statement ≠ .rollback) : Stays (s.execute statement) :=
  (send s amid amid').bind fun _ => decoded (.ok ())

theorem executeNamed (s : Session) (name : String) {statement : String → Statement}
    (amid : statement name ≠ .commit) (amid' : statement name ≠ .rollback) :
    Stays (s.executeNamed name statement) :=
  (decoded _).bind fun _ => execute s amid amid'

theorem store (s : Session) (call : StoreCall) : Stays (s.store call) := by
  cases call <;> refine (send s ?_ ?_).bind fun _ => decoded _ <;> nofun

end Stays

/-- A call amid a transaction that does not fail leaves the transaction underway. -/
theorem underway_of_answer {call : SessionCall} (amid : Amid call) {endings : List Ending}
    (underway : Underway endings w.backend) {v : call.Value} {after : Wire ε}
    (said : answer chances (.session call) w = (.ok v, after)) :
    Underway endings after.backend := by
  have kept : ∀ p : FallibleExchange call.Value, Stays p →
      (w.session.keeping p).run (Backend.respond (chances w.turn)) w.backend =
        ((.ok v, after.session), after.backend) → Underway endings after.backend := by
    intro p stays ran
    obtain ⟨outcome, b, did, ended⟩ := Program.run_bind_eq_iff.1 ran
    obtain rfl : outcome = .ok v := congrArg (·.1.1) ended
    obtain rfl : b = after.backend := congrArg (·.2) ended
    exact stays _ _ _ _ _ underway did
  have ran : (w.session.answer call).run (Backend.respond (chances w.turn)) w.backend =
      ((.ok v, after.session), after.backend) := by
    have first := congrArg Prod.fst said
    obtain rfl : _ = after := congrArg Prod.snd said
    exact Prod.ext (Prod.ext first rfl) rfl
  cases call with
  | begin | commit | rollback | release => exact amid.elim
  | setReadOnly => exact kept (w.session.execute .setReadOnly) (.execute _ nofun nofun) ran
  | savepoint name =>
    exact kept (w.session.executeNamed name .savepoint) (.executeNamed _ _ nofun nofun) ran
  | releaseSavepoint name =>
    exact kept (w.session.executeNamed name .releaseSavepoint) (.executeNamed _ _ nofun nofun) ran
  | rollbackToSavepoint name =>
    exact kept (w.session.executeNamed name .rollbackToSavepoint)
      (.executeNamed _ _ nofun nofun) ran
  | store call => exact kept (w.session.store call) (.store _ call) ran

/-- Work that passes over no failure and comes to a value leaves its transaction underway. -/
theorem underway_of_heeds {p : Action ε (Except E α)} (heeds : Heeds p) {endings : List Ending}
    (underway : Underway endings w.backend) {v : α} {after : Wire ε}
    (ran : p.run (answer chances) w = (.ok v, after)) : Underway endings after.backend := by
  induction p generalizing w with
  | pure a =>
    cases ran
    exact underway
  | call request next ih =>
    have later : (next (answer chances request w).1).run (answer chances)
        (answer chances request w).2 = (.ok v, after) := ran
    cases request with
    | openSession => exact heeds.elim
    | session call =>
      obtain ⟨amid, fails, goes⟩ := heeds
      generalize said : answer chances (.session call) w = answered at later
      obtain ⟨result, left⟩ := answered
      cases result with
      | error f =>
        obtain ⟨e, failed⟩ := (fails f).of_run later
        cases failed
      | ok u => exact ih (.ok u) (goes u) (underway_of_answer amid underway said) later
    | _ =>
      refine ih _ (heeds _) ?_ later
      exact underway

theorem Heeds.bind {p : Action ε (Except E α)} {k : Except E α → Action ε (Except E β)}
    (h : Heeds p) (quits : ∀ e, Heeds (k (.error e)) ∧ Fails (k (.error e)))
    (goes : ∀ a, Heeds (k (.ok a))) : Heeds (p >>= k) := by
  induction p with
  | pure r =>
    cases r with
    | error e => exact (quits e).1
    | ok a => exact goes a
  | call request next ih =>
    cases request with
    | openSession => exact h.elim
    | session call =>
      obtain ⟨amid, failing, rest⟩ := h
      refine ⟨amid, fun f => (failing f).bind ?_, fun v => ih (.ok v) (rest v)⟩
      rintro _ ⟨e, rfl⟩
      exact (quits e).2
    | _ => exact fun a => ih a (h a)

theorem Heeds.work_bind {work : Work ε E α} {next : α → Work ε E β} (h : Heeds work.run)
    (goes : ∀ a, Heeds (next a).run) : Heeds (work >>= next).run :=
  h.bind (fun e => ⟨trivial, e, rfl⟩) goes

section

variable [WorkError E] {c : Coordinator} {context : String} {o : TransactionOptions}
  {work : Work ε E α}

omit [WorkError E] in
/-- Work that failed in a savepoint is undone, and stays failed. -/
theorem heeds_goBack (name : String) (e : E) :
    let p : Action ε (Except E α) := do
      c.cleanUp context .rollbackToSavepoint (Action.session (.rollbackToSavepoint name))
      return .error e
    Heeds p ∧ Fails p := by
  refine ⟨⟨trivial, fun f => ⟨trivial, fun _ => ⟨e, rfl⟩⟩, fun u => trivial⟩, trivial, ?_⟩
  intro answer
  cases answer with
  | ok u => exact ⟨e, rfl⟩
  | error f => exact ⟨trivial, fun _ => ⟨e, rfl⟩⟩

theorem Heeds.inSavepoint (h : Heeds work.run) (name : String) :
    Heeds (c.inSavepoint context name work).run := by
  refine ⟨trivial, fun f => ⟨_, rfl⟩, fun _ => h.bind (fun e => heeds_goBack name e) fun a => ?_⟩
  exact ⟨trivial, fun f => ⟨_, rfl⟩, fun _ => trivial⟩

theorem Heeds.body (h : Heeds work.run) : Heeds (c.body context o work).run := by
  have saved : Heeds (c.inOptionalSavepoint context o work).run := by
    unfold inOptionalSavepoint
    split
    · exact h.inSavepoint _
    · exact h
  unfold Coordinator.body
  split
  · exact ⟨trivial, fun f => ⟨_, rfl⟩, fun _ => saved⟩
  · exact saved

end

theorem Heeds.perform {action : Action WorkflowEvent α} (away : action.Within Away fun _ => True) :
    Heeds (Work.perform action : WorkflowWork α).run := by
  show Heeds (action >>= fun a => pure (.ok a) : Action WorkflowEvent (Except WorkflowError α))
  induction action with
  | pure a => trivial
  | call request next ih =>
    obtain ⟨away, rest⟩ := away
    cases request with
    | openSession | session call | findMapping id => exact away.elim
    | _ => exact fun answer => ih answer (rest answer)

/-- Work that is put together from store calls and goes on only from values. -/
theorem heeds_of_forthright {work : WorkflowWork α} (h : Forthright work) : Heeds work.run := by
  induction h with
  | value a => trivial
  | reject application => trivial
  | store call => exact ⟨trivial, fun f => ⟨_, rfl⟩, fun v => trivial⟩
  | perform away => exact .perform away
  | bind _ _ first rest => exact first.work_bind rest

/-! ## Runs that have committed -/

section

variable [WorkError E] {c : Coordinator} {context : String} {o : TransactionOptions}
  {work : Work ε E α} {v : α} {after : Wire ε}

/-- If the work of a run passes over no failure and the run comes to a value, the server has
committed. -/
theorem committed_of_heeds (heeds : Heeds work.run)
    (ran : (c.runWith context o work).run.run (answer chances) w = (.ok v, after)) :
    ∃ endings carriedOut, after.backend = ⟨.idle, endings ++ [.committed carriedOut]⟩ := by
  obtain ⟨begun, done, fresh, worked, same⟩ := endings_of_ok ran
  obtain ⟨⟨carriedOut, saved, going⟩, -⟩ :=
    underway_of_heeds heeds.body ⟨⟨_, _, fresh⟩, rfl⟩ worked
  rw [going] at same
  exact ⟨_, _, same⟩

end

/-- A program that stays away from the store leaves the server as it is. -/
theorem backend_of_away {p : Action WorkflowEvent α} {w after : Wire WorkflowEvent} {a : α}
    (away : p.Within Away fun _ => True) (ran : p.run (answer chances) w = (a, after)) :
    after.backend = w.backend := by
  induction p generalizing w with
  | pure b =>
    cases ran
    rfl
  | call request next ih =>
    have later : (next (answer chances request w).1).run (answer chances)
        (answer chances request w).2 = (a, after) := ran
    have same : (answer chances request w).2.backend = w.backend := by
      cases request with
      | openSession | session call | findMapping id => exact away.1.elim
      | _ => rfl
    exact (ih _ (away.2 _) later).trans same

/-- If a call of the workflow comes to a value, the server has committed its transaction. -/
theorem committed_of_call {s : Service} {c : Call} {v : c.Value} {w after : Wire WorkflowEvent}
    (ran : (c.action s).run.run (answer chances) w = (.ok v, after)) :
    ∃ endings carriedOut, after.backend = ⟨.idle, endings ++ [.committed carriedOut]⟩ := by
  rw [Call.action_eq] at ran
  obtain ⟨prepared, ready, -, ran⟩ := Program.run_bind_eq_iff.1 ran
  cases prepared with
  | error e => cases ran
  | ok plan =>
    have ran : (c.job s plan).action.run (answer chances) ready = (.ok v, after) := ran
    rw [Job.action_eq] at ran
    obtain ⟨outcome, ended, worked, ran⟩ := Program.run_bind_eq_iff.1 ran
    cases outcome with
    | error e => cases ran
    | ok b =>
      obtain ⟨endings, carriedOut, same⟩ :=
        committed_of_heeds (heeds_of_forthright (.work s c plan)) worked
      have away := ((outward_conclude s c plan (.ok b)).2 ()).mono (fun _ => Outward.away)
        fun _ _ => trivial
      exact ⟨endings, carriedOut, (backend_of_away away ran).trans same⟩

end Appraisal.Postgres.Wire
