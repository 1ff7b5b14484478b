import Mathlib.Data.List.Nodup
import Mathlib.Data.Stream.Defs
import Appraisal.Proofs.Answers
import Appraisal.Proofs.Concurrent.Settling
import Appraisal.Proofs.Memory.Calls
import Appraisal.Proofs.Memory.History
import Appraisal.Proofs.Workflow.Growth
import Appraisal.Proofs.Workflow.Revised

/-!
# A store of one's own

`Solo` is a client with a store that nobody else uses.  What the clock will show, which bits will be
drawn and how handlers will react is fixed beforehand, so whatever the client runs comes to one
result (`Solo.perform`).

The work of a transaction is run step by step, with one lemma for each way in which work goes on.
Around the work a program goes on as another one, and nobody hears of anything in between (`Leads`).

*Calls.*  What a call comes to is its result, the tables that it leaves and the events that others
are told of (`ComesTo`).  If the work ends with a value, its rows are published at the first attempt
(`comesTo_of_stored`), and nothing is if the call only reads (`comesTo_of_read`).  If the work ends
with an error that is no reason to try again, the call gives up after that attempt and nothing is
published (`comesTo_of_error`).

*Gains.*  The tables after a job hold the rows that its work stored, each of them counted once more,
and are otherwise as before (`Tables.Gains`).
-/

namespace Appraisal.Memory

open Workflow

/-! ## Rows that are published -/

/-- Some tables are others with rows stored, each of them counted once more, and otherwise they are
the same. -/
structure Tables.Gains (base : Tables) (rows : List Row) (left : Tables) : Prop where
  stored : ∀ r ∈ rows, left.row r.key = some r ∧ left.version r.key = base.version r.key + 1
  others : ∀ k, k ∉ rows.map Row.key → left.row k = base.row k ∧ left.version k = base.version k

namespace Tables

variable {base left : Tables} {rows : List Row}

theorem gains_nil (base : Tables) : base.Gains [] base :=
  ⟨fun _ mem => absurd mem List.not_mem_nil, fun _ _ => ⟨rfl, rfl⟩⟩

namespace Gains

theorem version (gains : base.Gains rows left) (k : RowKey) :
    left.version k = base.version k + if k ∈ rows.map Row.key then 1 else 0 := by
  split
  · rename_i mem
    obtain ⟨r, mem', rfl⟩ := List.mem_map.1 mem
    exact (gains.stored r mem').2
  · rename_i missing
    exact (gains.others k missing).2

theorem keyed (gains : base.Gains rows left) (keyed : base.Keyed) : left.Keyed := by
  intro k r found
  by_cases stored : k ∈ rows.map Row.key
  · obtain ⟨own, mem, rfl⟩ := List.mem_map.1 stored
    rw [(gains.stored own mem).1] at found
    cases found
    rfl
  · rw [(gains.others k stored).1] at found
    exact keyed k r found

/-- A row that is there stays there. -/
theorem isSome (gains : base.Gains rows left) {k : RowKey} (there : (base.row k).isSome) :
    (left.row k).isSome := by
  by_cases mem : k ∈ rows.map Row.key
  · obtain ⟨r, mem', rfl⟩ := List.mem_map.1 mem
    rw [(gains.stored r mem').1]
    rfl
  · rwa [(gains.others k mem).1]

end Gains

end Tables

theorem Tables.row_putAll_of_mem (t : Tables) {rows : List Row}
    (distinct : (rows.map Row.key).Nodup) {r : Row} (mem : r ∈ rows) :
    (t.putAll rows).row r.key = some r := by
  rcases t.row_putAll_cases rows r.key with ⟨missing, -⟩ | ⟨r', mem', key, found⟩
  · exact absurd (List.mem_map_of_mem mem) missing
  · rw [found, List.inj_on_of_nodup_map distinct mem' mem key]

/-- A session that stored rows on the committed tables publishes them. -/
theorem gains_leaves (base : Tables) {rows : List Row} (distinct : (rows.map Row.key).Nodup) :
    base.Gains rows (((Session.opened base).plus rows).leaves base) := by
  have version : ∀ k, (((Session.opened base).plus rows).leaves base).version k =
      if k ∈ rows.map Row.key then base.version k + 1 else base.version k := by
    intro k
    have nodup : (Transaction.start base).writes.Nodup := .nil
    rw [Session.leaves_of_working (Session.working_plus rfl rows),
      Tables.version_publish _ _ (Transaction.nodup_writes_putAll nodup rows)]
    refine if_congr ?_ rfl rfl
    rw [Transaction.mem_writes_putAll]
    exact or_iff_left List.not_mem_nil
  refine ⟨fun r mem => ⟨?_, ?_⟩, fun k missing => ⟨?_, ?_⟩⟩
  · rw [row_leaves_plus, base.row_putAll_of_mem distinct mem]
  · rw [version, if_pos (List.mem_map_of_mem mem)]
  · rw [row_leaves_plus, Tables.row_putAll_of_not_mem missing]
  · rw [version, if_neg missing]

/-! ## Clients -/

/-- A client with a store that nobody else uses, and what the outside will say. -/
structure Solo where
  store : Store
  session : Session
  /-- What the clock will show. -/
  clock : Stream' Instant
  /-- The random bits that will be drawn. -/
  bits : Stream' Uuid
  /-- How handlers will react. -/
  reactions : Stream' (Except String Unit)

namespace Solo

variable {α β V : Type} {q q' : Solo}

/-- What the outside says next. -/
def outside (q : Solo) : Outside := ⟨q.clock.head, q.bits.head, q.reactions.head⟩

/-- The client after the outside has answered a request, if it is one to the outside. -/
def heard (q : Solo) : Request WorkflowEvent → Solo
  | .now => { q with clock := q.clock.tail }
  | .draw => { q with bits := q.bits.tail }
  | .deliver _ _ => { q with reactions := q.reactions.tail }
  | _ => q

/-- The answer to a request, and the client after it. -/
def answer (request : Request WorkflowEvent) (q : Solo) : request.Answer × Solo :=
  let after := q.outside.answer q.store q.session request
  (after.1, { q.heard request with store := after.2.1, session := after.2.2 })

/-- What work comes to, and the client after it. -/
def perform (q : Solo) (work : WorkflowWork α) : Except WorkflowError α × Solo :=
  work.run.run answer q

/-! ## Work step by step -/

theorem perform_pure (q : Solo) (a : α) : q.perform (pure a) = (.ok a, q) := rfl

theorem perform_ofCheck (q : Solo) (result : Except WorkflowError α) :
    q.perform (Work.ofCheck result) = (result, q) := rfl

theorem perform_log (q : Solo) (level : LogLevel) (message : String)
    (fields : List (String × LogValue)) :
    q.perform (Work.perform (Action.log level message fields)) = (.ok (), q) := rfl

/-- The client after it has read the clock. -/
def ticked (q : Solo) : Solo := { q with clock := q.clock.tail }

theorem perform_now (q : Solo) :
    q.perform (Work.perform Action.now) = (.ok q.clock.head, q.ticked) := rfl

section

variable {work : WorkflowWork α} {f : α → WorkflowWork β} {a : α} {e : WorkflowError}

theorem perform_bind (done : q.perform work = (.ok a, q')) :
    q.perform (work >>= f) = q'.perform (f a) := by
  have first : work.run.run answer q = (.ok a, q') := done
  rw [perform, ExceptT.run_bind, Program.run_bind, first]
  rfl

theorem perform_bind_error (failed : q.perform work = (.error e, q')) :
    q.perform (work >>= f) = (.error e, q') := by
  have first : work.run.run answer q = (.error e, q') := failed
  rw [perform, ExceptT.run_bind, Program.run_bind, first]
  rfl

end

/-- The client after a call on its session. -/
def after (q : Solo) (call : SessionCall) : Solo :=
  let done := q.store.answer q.session call
  { q with store := done.2.1, session := done.2.2 }

theorem committed_after (q : Solo) {call : SessionCall} (other : call ≠ .commit) :
    (q.after call).store.committed = q.store.committed :=
  q.store.committed_answer q.session other

/-- Where no failures are queued, a program uses none up. -/
theorem faults_run {p : Action WorkflowEvent α} (onBegin : q.store.faults.onBegin = [])
    (onCommit : q.store.faults.onCommit = []) :
    (p.run answer q).2.store.faults = q.store.faults := by
  induction p generalizing q with
  | pure a => rfl
  | call request next ih =>
    have same : (answer request q).2.store.faults = q.store.faults :=
      q.outside.faults_answer q.session request onBegin onCommit
    exact (ih _ (same ▸ onBegin) (same ▸ onCommit)).trans same

theorem run_session (q : Solo) (call : SessionCall) :
    (Action.session call).run answer q = ((q.store.answer q.session call).1, q.after call) := rfl

section

variable {action : Action WorkflowEvent (Except Failure α)} {call : StoreCall} {s : Session}
  {f : Failure}

theorem perform_ofAnswer {a : α} (ran : action.run answer q = (.ok a, q')) :
    q.perform (Work.ofAnswer action) = (.ok a, q') := by
  rw [perform, Work.ofAnswer, ExceptT.run_mk, Program.run_bind, ran]
  rfl

theorem perform_ofAnswer_error (ran : action.run answer q = (.error f, q')) :
    q.perform (Work.ofAnswer action) = (.error (.storage f), q') := by
  rw [perform, Work.ofAnswer, ExceptT.run_mk, Program.run_bind, ran]
  rfl

theorem perform_store {v : call.Value} (answered : q.session.store call = (.ok v, s)) :
    q.perform (Work.store call) = (.ok v, { q with session := s }) := by
  refine perform_ofAnswer ((q.run_session (.store call)).trans ?_)
  show ((q.session.store call).1, { q with session := (q.session.store call).2 }) = _
  rw [answered]

/-- A call that only reads answers what the transaction sees. -/
theorem perform_reading {t : Transaction} (working : q.session.working = some t)
    (reading : Reading call) : q.perform (Work.store call) = (.ok (t.tables.answer call), q) :=
  perform_store (store_of_reading working reading)

theorem perform_store_error (answered : q.session.store call = (.error f, s)) :
    q.perform (Work.store call) = (.error (.storage f), { q with session := s }) := by
  refine perform_ofAnswer_error ((q.run_session (.store call)).trans ?_)
  show ((q.session.store call).1, { q with session := (q.session.store call).2 }) = _
  rw [answered]

end

/-- The client with rows stored in its transaction. -/
def plus (q : Solo) (rows : List Row) : Solo := { q with session := q.session.plus rows }

theorem plus_nil (q : Solo) : q.plus [] = q := by
  rw [plus, Session.plus_nil]

theorem plus_plus (q : Solo) (rows more : List Row) :
    (q.plus rows).plus more = q.plus (rows ++ more) := by
  simp only [plus, Session.plus_plus]

/-! ## What others hear -/

/-- The events that the handler at a place is told of in the course of some work. -/
def told (q : Solo) (work : WorkflowWork α) (place : Nat) : List WorkflowEvent :=
  (Program.asked answer work.run q).filterMap (hears place)

/-- A program goes on as another one, and nobody hears of anything in between. -/
structure Leads (q : Solo) (p : Action WorkflowEvent α) (q' : Solo) (p' : Action WorkflowEvent α) :
    Prop where
  run : p.run answer q = p'.run answer q'
  asked : ∃ made, Program.asked answer p q = made ++ Program.asked answer p' q' ∧
    ∀ request ∈ made, Silent request

namespace Leads

variable {q'' : Solo} {p p' p'' : Action WorkflowEvent α}

theorem refl (q : Solo) (p : Action WorkflowEvent α) : q.Leads p q p :=
  ⟨rfl, [], rfl, fun _ none => absurd none List.not_mem_nil⟩

theorem trans (first : q.Leads p q' p') (second : q'.Leads p' q'' p'') : q.Leads p q'' p'' := by
  obtain ⟨made, asked, silent⟩ := first.asked
  obtain ⟨more, asked', silent'⟩ := second.asked
  refine ⟨first.run.trans second.run, made ++ more, ?_, fun request mem => ?_⟩
  · rw [asked, asked', List.append_assoc]
  · exact (List.mem_append.1 mem).elim (silent request) (silent' request)

theorem bind {first : Action WorkflowEvent β} {f : β → Action WorkflowEvent α} {b : β}
    {post : β → Prop} (silent : first.Within Silent post)
    (ran : first.run answer q = (b, q')) : q.Leads (first >>= f) q' (f b) where
  run := by rw [Program.run_bind, ran]
  asked := ⟨Program.asked answer first q, by rw [Program.asked_bind, ran],
    fun _ mem => silent.of_mem_asked mem⟩

theorem ask (request : Request WorkflowEvent) (silent : Silent request)
    {next : request.Answer → Action WorkflowEvent α} :
    q.Leads (.call request next) (answer request q).2 (next (answer request q).1) :=
  ⟨rfl, [request], rfl, fun _ mem => List.mem_singleton.1 mem ▸ silent⟩

/-- What is heard of a program is heard of the one that it goes on as. -/
theorem filterMap_asked {X : Type} {f : Request WorkflowEvent → Option X} (blind : Blind f)
    (leads : q.Leads p q' p') :
    (Program.asked answer p q).filterMap f = (Program.asked answer p' q').filterMap f := by
  obtain ⟨made, asked, silent⟩ := leads.asked
  rw [asked, List.filterMap_append, filterMap_of_silent blind silent, List.nil_append]

end Leads

/-! ## Jobs -/

/-- The client when its transaction has begun on a session that was just opened. -/
def begun (q : Solo) (isolation : Isolation) : Solo :=
  { q with
    store := (q.store.openSession.2.begin default isolation).2.1
    session := .opened q.store.committed }

theorem committed_begun (q : Solo) (isolation : Isolation) :
    (q.begun isolation).store.committed = q.store.committed :=
  (begin_cases q.store.openSession.2 isolation).1

theorem faults_begun (onBegin : q.store.faults.onBegin = []) (isolation : Isolation) :
    (q.begun isolation).store.faults = q.store.faults := by
  show (q.store.openSession.2.begin default isolation).2.1.faults = _
  simp only [Store.begin, Store.openSession, onBegin]
  rfl

/-- The commit of a session that stored rows on the committed tables. -/
theorem commit_of_plus {store : Store} {s : Session} {rows : List Row}
    (session : s = (Session.opened store.committed).plus rows)
    (onCommit : store.faults.onCommit = []) :
    (store.commit s).1 = .ok () ∧ (store.commit s).2.1.committed = s.leaves store.committed := by
  obtain ⟨unlimited, working⟩ := Session.writable_eq_ok_iff.1
    (Session.writable_plus (s := .opened store.committed) (t := .start store.committed) rfl rows)
  rw [← session] at unlimited working
  have can := Transaction.canCommit_putAll_start store.committed rows
  refine ⟨(commit_eq_ok_iff working unlimited onCommit).2 can, ?_⟩
  rw [committed_of_publishes working unlimited onCommit can, Session.leaves_of_working working]

section

variable {j : Job β V} {left number : Nat} {outcome : Except WorkflowError β}

theorem leads_opening (onBegin : q.store.faults.onBegin = []) :
    q.Leads (Action.openSession >>= j.afterOpening left number)
      (q.begun j.options.isolationLevel) (j.body >>= j.afterBody left number) := by
  let isolation := j.options.isolationLevel
  have begins : q.store.openSession.2.begin default isolation =
      (.ok (), (q.begun isolation).store, .opened q.store.committed) := by
    simp only [begun, Store.begin, Store.openSession, onBegin]
    rfl
  let opened : Solo := { q with store := q.store.openSession.2, session := default }
  have opens : q.Leads (Action.openSession >>= j.afterOpening left number) opened
      (j.afterOpening left number (.ok ())) :=
    .ask .openSession trivial
  have starts : opened.Leads (Action.session (.begin isolation) >>= j.afterBegin left number)
      (opened.after (.begin isolation))
      (j.afterBegin left number (q.store.openSession.2.begin default isolation).1) :=
    .ask (.session (.begin isolation)) trivial
  have same : opened.after (.begin isolation) = q.begun isolation := by
    show { q with
      store := (q.store.openSession.2.begin default isolation).2.1
      session := (q.store.openSession.2.begin default isolation).2.2 } = _
    rw [begins]
    rfl
  rw [same, begins] at starts
  exact opens.trans starts

/-- Cleaning up leaves the client as the call does, whether that fails or not. -/
theorem run_cleanUp (c : Coordinator) (context : String) (stage : CleanupStage)
    {action : Action WorkflowEvent (Except Failure Unit)} {answered : Except Failure Unit}
    (ran : action.run answer q = (answered, q')) :
    (c.cleanUp context stage action).run answer q = ((), q') := by
  unfold Coordinator.cleanUp
  rw [Program.run_bind, ran]
  cases answered <;> rfl

theorem leads_rollBack (q : Solo) {next : Unit → Action WorkflowEvent α} :
    q.Leads (j.rollBack >>= next) (q.after .rollback) (next ()) :=
  .bind ((still_rollBack j).mono (fun _ h => h.2) fun _ h => h)
    (run_cleanUp _ _ _ (q.run_session .rollback))

theorem leads_release (q : Solo) :
    q.Leads (j.afterTransaction left number outcome) (q.after .release)
      (j.afterAttempt left number outcome >>= j.conclude) :=
  .bind ((still_release j).mono (fun _ h => h.2) fun _ h => h)
    (run_cleanUp _ _ _ (q.run_session .release))

/-- What a call ends with when its work has ended with an error that is no reason to try again. -/
def givenUp (j : Job β V) (e : WorkflowError) : WorkflowError :=
  match WorkError.failure? e with
  | none => e
  | some f => .transaction ⟨f.kind, f, j.context, 1⟩

/-- Work is not tried again after an error of the application, or a failure that would recur. -/
def Final (e : WorkflowError) : Prop :=
  ∀ f, WorkError.failure? e = some f → f.kind.isRetryable = false

theorem leads_afterAttempt (q : Solo) {e : WorkflowError} (final : Final e) :
    q.Leads (j.afterAttempt left 1 (.error e) >>= j.conclude) q
      (j.conclude (.error (givenUp j e))) := by
  rw [givenUp, Job.afterAttempt]
  cases raised : WorkError.failure? e with
  | none => exact .refl _ _
  | some f =>
    have gives : q.Leads (Coordinator.giveUp j.context 1 f >>= fun e => j.conclude (.error e)) q
        (j.conclude (.error (.transaction ⟨f.kind, f, j.context, 1⟩))) := by
      have silent : (Coordinator.giveUp j.context 1 f :
          Action WorkflowEvent WorkflowError).Within Silent fun _ => True :=
        ⟨trivial, fun _ => ⟨silent_count (by decide), fun _ => trivial⟩⟩
      exact .bind silent rfl
    cases left with
    | zero => exact gives
    | succ left =>
      have stops : j.policy.shouldRetry f.kind 1 = false := by
        rw [RetryPolicy.shouldRetry, final f raised, Bool.false_and]
      show q.Leads ((if j.policy.shouldRetry f.kind 1 then _ else _ :
        Action WorkflowEvent (Except WorkflowError β)) >>= j.conclude) q _
      rw [stops]
      exact gives

theorem leads_attempts (j : Job β V) (q : Solo) :
    q.Leads j.action q (Action.openSession >>= j.afterOpening j.maxRetries 1) := by
  rw [← j.attempts_bind]
  exact .ask (.signal _) (silent_count (by decide))

variable (onBegin : q.store.faults.onBegin = [])
  (silent : j.body.Within Silent fun _ => True)

include onBegin silent

theorem leads_body
    (worked : j.body.run answer (q.begun j.options.isolationLevel) = (outcome, q')) :
    q.Leads j.action q' (j.afterBody j.maxRetries 1 outcome) :=
  (leads_attempts j q).trans ((leads_opening onBegin).trans (.bind silent worked))

/-- A job whose work ends with a value goes on to conclude if its commit succeeds. -/
theorem leads_committed {b : β}
    (worked : j.body.run answer (q.begun j.options.isolationLevel) = (.ok b, q'))
    (commits : (q'.store.commit q'.session).1 = .ok ()) :
    q.Leads j.action ((q'.after .commit).after .release) (j.conclude (.ok b)) := by
  have commit : q'.Leads (j.afterBody j.maxRetries 1 (.ok b)) (q'.after .commit)
      (j.afterCommit j.maxRetries 1 b (q'.store.commit q'.session).1) :=
    .ask (.session .commit) trivial
  rw [commits] at commit
  exact (leads_body onBegin silent worked).trans (commit.trans (leads_release _))

/-- A job whose work ends with an error that is no reason to try again concludes after one
attempt. -/
theorem leads_givenUp {e : WorkflowError} (final : Final e)
    (worked : j.body.run answer (q.begun j.options.isolationLevel) = (.error e, q')) :
    q.Leads j.action ((q'.after .rollback).after .release)
      (j.conclude (.error (givenUp j e))) :=
  (leads_body onBegin silent worked).trans
    ((leads_rollBack q').trans ((leads_release _).trans (leads_afterAttempt _ final)))

end

/-- What is handed to others leaves the store as it is. -/
theorem run_outward {p : Action WorkflowEvent α} {post : α → Prop} (h : p.Within Outward post)
    (q : Solo) : (p.run answer q).2.store = q.store := by
  induction p generalizing q with
  | pure a => rfl
  | call request next ih =>
    refine (ih _ (h.2 _) (answer request q).2).trans ?_
    cases request with
    | signal | deliver => rfl
    | _ => exact h.1.elim

/-! ## Calls -/

/-- What a call comes to: its result, the tables that it leaves, and the events that others are told
of. -/
structure ComesTo (q : Solo) (s : Service) (c : Call) (result : Except WorkflowError c.Value)
    (left : Tables) (events : List WorkflowEvent) : Prop where
  result : (q.perform (c.action s)).1 = result
  left : (q.perform (c.action s)).2.store.committed = left
  told : ∀ place, Observes s place → q.told (c.action s) place = events

/-- The client when its transaction is ready for the work of a call. -/
def readied (q : Solo) (options : TransactionOptions) : Solo :=
  { q.begun options.isolationLevel with
    session := .readied q.store.committed options.readOnly }

section

variable {s : Service} {c : Call} {plan : c.Plan} {p : Solo}

/-- A call that is turned down goes no further. -/
theorem perform_action_refused {e : WorkflowError}
    (refused : q.perform c.prepare = (.error e, q')) :
    q.perform (c.action s) = (.error e, q') := by
  have first : c.prepare.run.run answer q = (.error e, q') := refused
  rw [perform, Call.action_eq, Program.run_bind, first]
  rfl

/-- The outcome that a call concludes with says what it comes to. -/
theorem comesTo_of_leads {p' : Solo} {outcome : Except WorkflowError c.Result}
    (ready : q.perform c.prepare = (.ok plan, p))
    (leads : p.Leads (c.job s plan).action p' ((c.job s plan).conclude outcome)) :
    q.ComesTo s c (outcome.map (returned c)) p'.store.committed (raised c outcome) := by
  have whole : q.Leads (c.action s).run p' ((c.job s plan).conclude outcome) := by
    rw [Call.action_eq]
    exact (Leads.bind ((still_prepare c).mono (fun _ h => h.2) fun _ h => h) ready).trans leads
  have ran : q.perform (c.action s) = ((c.job s plan).conclude outcome).run answer p' := whole.run
  refine ⟨?_, ?_, fun place observes => ?_⟩
  · rw [ran]
    exact (within_conclude s c plan outcome).of_run rfl
  · rw [ran, run_outward (outward_conclude s c plan outcome)]
  · have emits := emits_conclude (blind_hears place) s c plan outcome
    rw [told, whole.filterMap_asked (blind_hears place), emits.filterMap_asked,
      concluded_hears observes]

/-- Between the begin of a transaction and its end stands the work of the call. -/
theorem run_body (p : Solo) :
    (c.job s plan).body.run answer (p.begun (c.job s plan).options.isolationLevel) =
      (p.readied (c.job s plan).options).perform (c.job s plan).work := by
  cases readOnly : (c.job s plan).options.readOnly with
  | false =>
    rw [body_of_writes readOnly, readied, readOnly]
    rfl
  | true =>
    rw [body_of_reads readOnly, readied, readOnly]
    rfl

theorem silent_body : (c.job s plan).body.Within Silent fun _ => True :=
  still_body.mono (fun _ h => h.2) fun _ h => h

section

variable (ready : q.perform c.prepare = (.ok plan, p)) (onBegin : p.store.faults.onBegin = [])

include ready onBegin

/-- A call whose work ends with a value publishes what the work stored. -/
theorem comesTo_of_stored (onCommit : p.store.faults.onCommit = []) {b : c.Result}
    {rows : List Row}
    (worked : (p.readied (c.job s plan).options).perform (c.job s plan).work = (.ok b, q'))
    (store : q'.store = (p.begun (c.job s plan).options.isolationLevel).store)
    (session : q'.session = (Session.opened p.store.committed).plus rows) :
    q.ComesTo s c (.ok (returned c b))
      (((Session.opened p.store.committed).plus rows).leaves p.store.committed)
      (raised c (.ok b)) := by
  have committed : q'.store.committed = p.store.committed := by
    rw [store, committed_begun]
  have faultless : q'.store.faults.onCommit = [] := by
    rw [store, faults_begun onBegin, onCommit]
  obtain ⟨succeeds, left⟩ := commit_of_plus (committed ▸ session) faultless
  have published : ((q'.after .commit).after .release).store.committed =
      ((Session.opened p.store.committed).plus rows).leaves p.store.committed := by
    refine (committed_after (q'.after .commit) (by decide)).trans ?_
    show (q'.store.commit q'.session).2.1.committed = _
    rw [left, committed, session]
  rw [← published]
  exact comesTo_of_leads ready
    (leads_committed onBegin silent_body ((run_body p).trans worked) succeeds)

/-- A call that only reads publishes nothing. -/
theorem comesTo_of_read (onCommit : p.store.faults.onCommit = []) {b : c.Result}
    (worked : (p.readied (c.job s plan).options).perform (c.job s plan).work = (.ok b, q'))
    (store : q'.store = (p.begun (c.job s plan).options.isolationLevel).store)
    (session : q'.session = .readied p.store.committed true) :
    q.ComesTo s c (.ok (returned c b)) p.store.committed (raised c (.ok b)) := by
  have commits : (q'.store.commit q'.session).1 = .ok () ∧
      (q'.store.commit q'.session).2.1.committed = p.store.committed := by
    rw [session, store]
    simp only [Store.commit, Session.readied, Session.opened, faults_begun onBegin, onCommit]
    exact ⟨rfl, p.committed_begun _⟩
  have same : ((q'.after .commit).after .release).store.committed = p.store.committed :=
    (committed_after (q'.after .commit) (by decide)).trans commits.2
  rw [← same]
  exact comesTo_of_leads ready
    (leads_committed onBegin silent_body ((run_body p).trans worked) commits.1)

/-- A call whose work ends with an error that is no reason to try again gives up after one attempt
and publishes nothing. -/
theorem comesTo_of_error {e : WorkflowError} (final : Final e)
    (worked : (p.readied (c.job s plan).options).perform (c.job s plan).work = (.error e, q'))
    (store : q'.store = (p.begun (c.job s plan).options.isolationLevel).store) :
    q.ComesTo s c (.error (givenUp (c.job s plan) e)) p.store.committed [] := by
  have same : ((q'.after .rollback).after .release).store.committed = p.store.committed := by
    refine (committed_after (q'.after .rollback) (by decide)).trans ?_
    exact (committed_after q' (by decide)).trans (store ▸ p.committed_begun _)
  have silent : raised c (.error (givenUp (c.job s plan) e)) = [] := by
    cases c <;> rfl
  rw [← same, ← silent]
  exact comesTo_of_leads ready
    (leads_givenUp onBegin silent_body final ((run_body p).trans worked))

/-- A call whose work ends with an error that is no failure ends with this error. -/
theorem comesTo_of_refusal {e : WorkflowError} (raised : WorkError.failure? e = none)
    (worked : (p.readied (c.job s plan).options).perform (c.job s plan).work = (.error e, q'))
    (store : q'.store = (p.begun (c.job s plan).options.isolationLevel).store) :
    q.ComesTo s c (.error e) p.store.committed [] := by
  have final : Final e := by
    intro f failed
    rw [raised] at failed
    cases failed
  have same : givenUp (c.job s plan) e = e := by
    rw [givenUp, raised]
  have comes := comesTo_of_error ready onBegin final worked store
  rwa [same] at comes

end

end

end Solo

end Appraisal.Memory
