import Appraisal.Proofs.Memory.Placed
import Appraisal.Proofs.Transaction.Indifferent
import Appraisal.Proofs.Transaction.Once

/-!
# Batches

A batch is the sequential composition of its units (`runBatch_attempts`), at every site and with any
failures queued.

*Units in turn.*  The units of a pass run one after the other, each on the session as the ones
before it left it, up to the first that fails (`InTurn`).  That is what the work of a batch does
(`InTurn.makes`).

*Attempts.*  An attempt that begins makes one pass, on a copy of the tables as they are committed
then (`Attempt`).  Nothing of earlier attempts is kept, since the work is the same each time, and a
failed attempt leaves the committed tables as they are (`Attempts.committed_of_error`).
-/

namespace Appraisal.Memory

open Coordinator

variable {ε E α β : Type}

/-! ## Units made of store calls -/

/-- The request is a store call. -/
def StoreOnly : Request ε → Prop
  | .session (.store _) => True
  | _ => False

/-- The program makes these store calls on a session, ends with the value and leaves the session as
given. -/
inductive Makes : Action ε β → Session → List StoreCall → β → Session → Prop
  | done (b : β) (s : Session) : Makes (.pure b) s [] b s
  | call {call : StoreCall} {next : Except Failure call.Value → Action ε β} {s s' : Session}
    {calls : List StoreCall} {b : β}
    (rest : Makes (next (s.store call).1) (s.store call).2 calls b s') :
    Makes (.call (.session (.store call)) next) s (call :: calls) b s'

/-- Units make these store calls in turn, each on the session as the ones before it left it.  If a
unit fails, those after it are not invoked.  Otherwise the results are those of the units, in
order. -/
inductive InTurn :
    List (Work ε E α) → Session → List StoreCall → Except E (List α) → Session → Prop
  | done (s : Session) : InTurn [] s [] (.ok []) s
  | failed {unit : Work ε E α} {units : List (Work ε E α)} {s s' : Session}
    {calls : List StoreCall} {e : E} (ran : Makes unit.run s calls (.error e) s') :
    InTurn (unit :: units) s calls (.error e) s'
  | next {unit : Work ε E α} {units : List (Work ε E α)} {s mid s' : Session}
    {calls more : List StoreCall} {a : α} {r : Except E (List α)}
    (ran : Makes unit.run s calls (.ok a) mid) (rest : InTurn units mid more r s') :
    InTurn (unit :: units) s (calls ++ more) (r.map (a :: ·)) s'

namespace Makes

variable {p : Action ε β} {s mid s' : Session} {calls more : List StoreCall} {b : β}

theorem bind {γ : Type} {f : β → Action ε γ} {c : γ} (first : Makes p s calls b mid)
    (second : Makes (f b) mid more c s') : Makes (p >>= f) s (calls ++ more) c s' := by
  induction first with
  | done => exact second
  | call rest ih => exact .call (ih second)

/-- A program of store calls runs on every session. -/
theorem of_within (h : p.Within StoreOnly fun _ => True) (s : Session) :
    ∃ calls b s', Makes p s calls b s' := by
  induction p generalizing s with
  | pure b => exact ⟨[], b, s, .done b s⟩
  | call request next ih =>
    cases request with
    | session call =>
      cases call with
      | store call =>
        obtain ⟨calls, b, s', rest⟩ := ih _ (h.2 _) (s.store call).2
        exact ⟨call :: calls, b, s', .call rest⟩
      | _ => exact h.1.elim
    | _ => exact h.1.elim

/-- Store calls leave the session with some more rows. -/
theorem plus (h : Makes p s calls b s') : ∃ rows, s' = s.plus rows := by
  induction h with
  | done b s => exact ⟨[], (Session.plus_nil s).symm⟩
  | @call call next s s' calls b rest ih =>
    obtain ⟨rows, after⟩ := ih
    rw [s.store_eq_plus call, Session.plus_plus] at after
    exact ⟨_, after⟩

end Makes

namespace InTurn

variable {units : List (Work ε E α)} {s s' : Session} {calls : List StoreCall}
  {r : Except E (List α)}

theorem of_within (h : ∀ unit ∈ units, unit.run.Within StoreOnly fun _ => True) (s : Session) :
    ∃ calls r s', InTurn units s calls r s' := by
  induction units generalizing s with
  | nil => exact ⟨[], _, s, .done s⟩
  | cons unit units ih =>
    obtain ⟨first, others⟩ := List.forall_mem_cons.1 h
    obtain ⟨calls, outcome, mid, ran⟩ := Makes.of_within first s
    cases outcome with
    | error e => exact ⟨calls, _, mid, .failed ran⟩
    | ok a =>
      obtain ⟨more, r, s', rest⟩ := ih others mid
      exact ⟨calls ++ more, _, s', .next ran rest⟩

/-- A pass makes the calls of the work that does the units in order. -/
theorem makes (h : InTurn units s calls r s') : Makes (inOrder units).run s calls r s' := by
  induction h with
  | done s => exact .done _ s
  | @failed unit units s s' calls e ran =>
    rw [inOrder, ExceptT.run_bind, ← List.append_nil calls]
    exact ran.bind (.done _ _)
  | @next unit units s mid s' calls more a r ran rest ih =>
    rw [inOrder, ExceptT.run_bind]
    refine ran.bind ?_
    show Makes (inOrder units >>= fun as => pure (a :: as)).run mid more (r.map (a :: ·)) s'
    rw [ExceptT.run_bind, ← List.append_nil more]
    refine ih.bind ?_
    cases r with
    | error e => exact .done _ _
    | ok as => exact .done _ _

theorem length_eq (h : InTurn units s calls r s') {results : List α} (ok : r = .ok results) :
    results.length = units.length := by
  induction h generalizing results with
  | done s =>
    cases ok
    rfl
  | failed ran => cases ok
  | @next unit units s mid s' calls more a r ran rest ih =>
    cases r with
    | error e => cases ok
    | ok as =>
      cases ok
      rw [List.length_cons, List.length_cons, ih rfl]

end InTurn

/-- The unit that invokes units from the left to the right, after some results, and stops at the
first error. -/
def leftToRight (results : List α) : List (Work ε E α) → Work ε E (List α)
  | [] => pure results
  | unit :: units => do
    let a ← unit
    leftToRight (results ++ [a]) units

theorem leftToRight_eq (units : List (Work ε E α)) (results : List α) :
    leftToRight results units = (results ++ ·) <$> inOrder units := by
  induction units generalizing results with
  | nil => rw [leftToRight, inOrder, map_pure, List.append_nil]
  | cons unit units ih =>
    rw [leftToRight, inOrder, map_bind]
    refine congrArg (unit >>= ·) (funext fun a => ?_)
    rw [ih, map_eq_pure_bind, map_eq_pure_bind, bind_assoc]
    simp only [pure_bind, List.append_assoc, List.singleton_append]

theorem inOrder_eq_leftToRight (units : List (Work ε E α)) :
    inOrder units = leftToRight [] units := by
  rw [leftToRight_eq]
  exact (id_map _).symm

/-! ## Runs -/

/-- A run that goes on from another one's site comes after its requests. -/
def Run.after {σ η : Type} (run : Run ε σ η α) (requests : List (Request ε)) : Run ε σ η α :=
  { run with requests := requests ++ run.requests }

@[simp] theorem Run.value_after {σ η : Type} (run : Run ε σ η α) (requests : List (Request ε)) :
    (run.after requests).value = run.value := rfl

@[simp] theorem Run.site_after {σ η : Type} (run : Run ε σ η α) (requests : List (Request ε)) :
    (run.after requests).site = run.site := rfl

@[simp] theorem Run.requests_after {σ η : Type} (run : Run ε σ η α)
    (requests : List (Request ε)) : (run.after requests).requests = requests ++ run.requests := rfl

section

variable {σ η : Type} (elsewhere : Elsewhere σ) (react : Reaction ε η)

theorem Site.run_bind (p : Action ε α) (f : α → Action ε β) (site : Site σ η) :
    site.run elsewhere react (p >>= f) =
      ((site.run elsewhere react p).site.run elsewhere react
        (f (site.run elsewhere react p).value)).after (site.run elsewhere react p).requests := by
  induction p generalizing site with
  | pure a => rfl
  | call request next ih =>
    exact congrArg (Run.after · [request]) (ih _ (site.answer elsewhere react request).2)

/-- Store calls go to the session and leave the rest of the site as it is. -/
theorem Makes.run {p : Action ε β} {s s' : Session} {calls : List StoreCall} {b : β}
    (h : Makes p s calls b s') (site : Site σ η) (on : site.session = s) :
    site.run elsewhere react p =
      ⟨b, calls.map fun call => .session (.store call), { site with session := s' }⟩ := by
  induction h generalizing site with
  | done b s =>
    subst on
    rfl
  | @call call next s s' calls b rest ih =>
    subst on
    exact congrArg (Run.after · [.session (.store call)])
      (ih { site with session := (site.session.store call).2 } rfl)

end

/-! ## Passes -/

/-- A request in front of what is noted of a run: the store calls up to the next session, and those
of each session from there on. -/
def note (request : Request ε) (noted : List StoreCall × List (List StoreCall)) :
    List StoreCall × List (List StoreCall) :=
  match request with
  | .openSession => ([], noted.1 :: noted.2)
  | .session (.store call) => (call :: noted.1, noted.2)
  | _ => noted

/-- The store calls of each attempt, in order.  Every attempt opens a session of its own. -/
def passes (requests : List (Request ε)) : List (List StoreCall) :=
  (requests.foldr note ([], [])).2

theorem length_passes (requests : List (Request ε)) :
    (passes requests).length = requests.countP opens := by
  induction requests with
  | nil => rfl
  | cons request requests ih =>
    rw [List.countP_cons, ← ih]
    cases request with
    | openSession => rfl
    | session call => cases call <;> rfl
    | _ => rfl

theorem foldr_note_calls (calls : List StoreCall) (noted : List StoreCall × List (List StoreCall)) :
    (calls.map fun call => (.session (.store call) : Request ε)).foldr note noted =
      (calls ++ noted.1, noted.2) := by
  induction calls with
  | nil => rfl
  | cons call calls ih => rw [List.map_cons, List.foldr_cons, ih]; rfl

/-- A run makes no store calls, opens no session, and leaves the committed tables and the queued
failures as they were in a store. -/
structure Run.Idle {σ η : Type} (run : Run ε σ η α) (found : Store) : Prop where
  committed : run.site.store.committed = found.committed
  faults : run.site.store.faults = found.faults
  noted : ∀ noted, run.requests.foldr note noted = noted

section

variable {σ η : Type} {elsewhere : Elsewhere σ} {react : Reaction ε η} {site : Site σ η}
  {c : Coordinator} {context : String}

theorem Run.Idle.bind {p : Action ε α} {f : α → Action ε β}
    (first : (site.run elsewhere react p).Idle site.store)
    (second : ((site.run elsewhere react p).site.run elsewhere react
      (f (site.run elsewhere react p).value)).Idle (site.run elsewhere react p).site.store) :
    (site.run elsewhere react (p >>= f)).Idle site.store := by
  rw [Site.run_bind]
  refine ⟨second.committed.trans first.committed, second.faults.trans first.faults, fun noted => ?_⟩
  rw [Run.requests_after, List.foldr_append, second.noted, first.noted]

/-- Cleaning up is idle if the action is. -/
theorem idle_cleanUp {stage : CleanupStage} {action : Action ε (Except Failure Unit)}
    (idle : (site.run elsewhere react action).Idle site.store) :
    (site.run elsewhere react (c.cleanUp context stage action)).Idle site.store := by
  refine idle.bind ?_
  cases (site.run elsewhere react action).value with
  | ok u => exact ⟨rfl, rfl, fun _ => rfl⟩
  | error f => exact ⟨rfl, rfl, fun _ => rfl⟩

theorem idle_rollBack : (site.run elsewhere react (c.rollBack context)).Idle site.store :=
  idle_cleanUp ⟨rfl, rfl, fun _ => rfl⟩

theorem idle_release : (site.run elsewhere react
    (c.cleanUp context .release (Action.session .release))).Idle site.store := by
  refine idle_cleanUp ⟨?_, ?_, fun _ => rfl⟩
  · have other : SessionCall.release ≠ .commit := nofun
    exact site.store.committed_answer site.session other
  · show (site.store.release site.session).2.1.faults = site.store.faults
    rw [Store.release]
    split <;> rfl

theorem run_session (call : SessionCall) (f : call.Answer → Action ε β) :
    site.run elsewhere react (Action.session call >>= f) =
      (Site.run elsewhere react (f (site.store.answer site.session call).1)
        { site with
          store := (site.store.answer site.session call).2.1
          session := (site.store.answer site.session call).2.2 }).after [.session call] := rfl

/-- Idle actions may come before a value. -/
theorem run_bind_pure {p : Action ε α} (idle : (site.run elsewhere react p).Idle site.store)
    (b : β) :
    let run := site.run elsewhere react (p >>= fun _ => pure b)
    run.value = b ∧ run.Idle site.store := by
  refine ⟨?_, idle.bind ⟨rfl, rfl, fun _ => rfl⟩⟩
  rw [Site.run_bind]
  rfl

end

/-! ## Failures that are queued -/

namespace Store

variable {store : Store} {s : Session} {f : Failure} {rest : List Failure}

theorem begin_of_fault (fails : store.faults.onBegin = f :: rest) (isolation : Isolation) :
    store.begin s isolation = (.error f, { store with faults.onBegin := rest }, s) := by
  simp only [begin, fails]

theorem commit_of_fault {t : Transaction} (working : s.working = some t)
    (fails : store.faults.onCommit = f :: rest) :
    store.commit s = (.error f, { store with faults.onCommit := rest }, s.discard) := by
  simp only [commit, working, fails]

end Store

/-! ## Attempts -/

variable [WorkError E]

/-- An attempt at a batch makes some store calls, comes to an outcome and leaves a store. -/
inductive Attempt (units : List (Work ε E α)) (found : Store) :
    List StoreCall → Except E (List α) → Store → Prop
  /-- The transaction does not begin. -/
  | unbegun {left : Store} {f : Failure} {rest : List Failure}
    (fails : found.faults.onBegin = f :: rest) (kept : left.committed = found.committed)
    (used : left.faults = { found.faults with onBegin := rest }) :
    Attempt units found [] (.error (ofFailure f)) left
  /-- A unit fails, and the transaction is rolled back. -/
  | failed {left : Store} {calls : List StoreCall} {e : E} {s' : Session}
    (begins : found.faults.onBegin = [])
    (pass : InTurn units (.opened found.committed) calls (.error e) s')
    (kept : left.committed = found.committed) (used : left.faults = found.faults) :
    Attempt units found calls (.error e) left
  /-- No unit fails, but the commit does. -/
  | uncommitted {left : Store} {calls : List StoreCall} {results : List α} {s' : Session}
    {f : Failure} {rest : List Failure} (begins : found.faults.onBegin = [])
    (pass : InTurn units (.opened found.committed) calls (.ok results) s')
    (fails : found.faults.onCommit = f :: rest) (kept : left.committed = found.committed)
    (used : left.faults = { found.faults with onCommit := rest }) :
    Attempt units found calls (.error (ofFailure f)) left
  /-- What the units wrote is published. -/
  | committed {left : Store} {calls : List StoreCall} {results : List α} {s' : Session}
    {t : Transaction} (begins : found.faults.onBegin = [])
    (pass : InTurn units (.opened found.committed) calls (.ok results) s')
    (commits : found.faults.onCommit = []) (working : s'.working = some t)
    (published : left.committed = found.committed.publish t.tables t.writes)
    (used : left.faults = found.faults) :
    Attempt units found calls (.ok results) left

/-- What a run comes to after its last attempt. -/
def ended (context : String) (number : Nat) : Except E β → Except E β
  | .ok b => .ok b
  | .error e =>
    match WorkError.failure? e with
    | none => .error e
    | some f => .error (WorkError.ofTransaction ⟨f.kind, f, context, number⟩)

/-- Attempts at a batch in a row, the first of them with the given number.  Each of them but the
last one fails in a way that may pass, and the next one finds the store as it left it. -/
inductive Attempts (policy : RetryPolicy) (context : String) (units : List (Work ε E α)) :
    Nat → Store → List (List StoreCall) → Except E (List α) → Store → Prop
  | last {number : Nat} {found left : Store} {calls : List StoreCall} {r : Except E (List α)}
    (attempt : Attempt units found calls r left)
    (ends : ∀ e f, r = .error e → WorkError.failure? e = some f →
      policy.shouldRetry f.kind number = false) :
    Attempts policy context units number found [calls] (ended context number r) left
  | again {number : Nat} {found mid left : Store} {calls : List StoreCall}
    {more : List (List StoreCall)} {e : E} {f : Failure} {r : Except E (List α)}
    (attempt : Attempt units found calls (.error e) mid) (raised : WorkError.failure? e = some f)
    (retried : policy.shouldRetry f.kind number = true)
    (rest : Attempts policy context units (number + 1) mid more r left) :
    Attempts policy context units number found (calls :: more) r left

/-- Of the stores only the committed tables and the queued failures matter. -/
theorem Attempt.congr {units : List (Work ε E α)} {found found' left left' : Store}
    {calls : List StoreCall} {r : Except E (List α)} (h : Attempt units found calls r left)
    (committed : found'.committed = found.committed) (faults : found'.faults = found.faults)
    (committed' : left'.committed = left.committed) (faults' : left'.faults = left.faults) :
    Attempt units found' calls r left' := by
  cases h with
  | unbegun fails kept used =>
    rw [← committed] at kept
    rw [← faults] at fails used
    exact .unbegun fails (committed'.trans kept) (faults'.trans used)
  | failed begins pass kept used =>
    rw [← committed] at pass kept
    rw [← faults] at begins used
    exact .failed begins pass (committed'.trans kept) (faults'.trans used)
  | uncommitted begins pass fails kept used =>
    rw [← committed] at pass kept
    rw [← faults] at begins fails used
    exact .uncommitted begins pass fails (committed'.trans kept) (faults'.trans used)
  | committed begins pass commits working published used =>
    rw [← committed] at pass published
    rw [← faults] at begins commits used
    exact .committed begins pass commits working (committed'.trans published) (faults'.trans used)

/-- An attempt that fails leaves the committed tables as they are. -/
theorem Attempt.committed_of_error {units : List (Work ε E α)} {found left : Store}
    {calls : List StoreCall} {e : E} (h : Attempt units found calls (.error e) left) :
    left.committed = found.committed := by
  cases h with
  | unbegun fails kept used => exact kept
  | failed begins pass kept used => exact kept
  | uncommitted begins pass fails kept used => exact kept

namespace Attempts

variable {policy : RetryPolicy} {context : String} {units : List (Work ε E α)} {number : Nat}
  {found left : Store} {made : List (List StoreCall)} {r : Except E (List α)}

theorem committed_of_error (h : Attempts policy context units number found made r left) {e : E}
    (error : r = .error e) : left.committed = found.committed := by
  induction h with
  | @last number found left calls r attempt ends =>
    cases r with
    | ok results => cases error
    | error e => exact attempt.committed_of_error
  | again attempt raised retried rest ih => exact (ih error).trans attempt.committed_of_error

/-- There is one result for each unit. -/
theorem length_eq (h : Attempts policy context units number found made r left) {results : List α}
    (ok : r = .ok results) : results.length = units.length := by
  induction h with
  | @last number found left calls r attempt ends =>
    cases attempt with
    | committed begins pass commits working published used =>
      cases ok
      exact pass.length_eq rfl
    | _ =>
      rw [ended] at ok
      split at ok <;> cases ok
  | again attempt raised retried rest ih => exact ih ok

end Attempts

/-! ## The run of a batch -/

section

variable {σ η : Type} {elsewhere : Elsewhere σ} {react : Reaction ε η} {site : Site σ η}
  {c : Coordinator} {context : String} {units : List (Work ε E α)} {calls : List StoreCall}
  {r : Except E (List α)}

/-- What an attempt does after a pass. -/
theorem attempt_ending {found : Store} (begins : found.faults.onBegin = [])
    (committed : site.store.committed = found.committed) (faults : site.store.faults = found.faults)
    (pass : InTurn units (.opened found.committed) calls r site.session) :
    let run := site.run elsewhere react (ending c context r)
    Attempt units found calls run.value run.site.store ∧
      ∀ noted, run.requests.foldr note noted = noted := by
  intro run
  cases r with
  | error e =>
    obtain ⟨value, idle⟩ : run.value = .error e ∧ run.Idle site.store :=
      run_bind_pure idle_rollBack _
    rw [value]
    exact ⟨.failed begins pass (idle.committed.trans committed) (idle.faults.trans faults),
      idle.noted⟩
  | ok results =>
    obtain ⟨rows, after⟩ := pass.makes.plus
    obtain ⟨unlimited, working⟩ := Session.writable_eq_ok_iff.1
      (Session.writable_plus (s := .opened found.committed) (t := .start found.committed) rfl rows)
    rw [← after] at unlimited working
    cases commits : found.faults.onCommit with
    | cons f rest =>
      let failing : Site σ η := { site with
        store.faults.onCommit := rest
        session := site.session.discard }
      have ran : run = (failing.run elsewhere react
          (c.rollBack context >>= fun _ => pure (.error (ofFailure f)))).after
            [.session .commit] := by
        show site.run elsewhere react (Action.session .commit >>= _) = _
        rw [run_session, Store.answer, Store.commit_of_fault working (faults ▸ commits)]
      obtain ⟨value, idle⟩ := run_bind_pure
        (idle_rollBack (ε := ε) : (failing.run elsewhere react (c.rollBack context)).Idle _)
        (.error (ofFailure f) : Except E (List α))
      have used : failing.store.faults = { found.faults with onCommit := rest } := by
        rw [← faults]
      rw [ran, Run.value_after, value]
      exact ⟨.uncommitted begins pass commits (idle.committed.trans committed)
        (idle.faults.trans used), idle.noted⟩
    | nil =>
      let t := (Transaction.start found.committed).putAll rows
      let published : Site σ η := { site with
        store.committed := found.committed.publish t.tables t.writes
        store.stats.committed := site.store.stats.committed + 1
        session := site.session.discard }
      have can : t.canCommit site.store.committed = true := by
        rw [committed]
        exact Transaction.canCommit_putAll_start found.committed rows
      have ran : run = ⟨.ok results, [.session .commit], published⟩ := by
        show site.run elsewhere react (Action.session .commit >>= _) = _
        rw [run_session, Store.answer, Store.commit_eq working unlimited (faults ▸ commits),
          Store.publish, if_pos can, committed]
        rfl
      rw [ran]
      exact ⟨.committed begins pass commits working rfl faults, fun _ => rfl⟩

/-- The transaction of an attempt at a batch. -/
theorem attempt_transaction {s' : Session} (fresh : site.session = default)
    (pass : InTurn units (.opened site.store.committed) calls r s') :
    let run := site.run elsewhere react (c.transaction context default (inOrder units)).run
    ∃ made, Attempt units site.store made run.value run.site.store ∧
      ∀ done, run.requests.foldr note ([], done) = (made, done) := by
  intro run
  let isolation : Isolation := (default : TransactionOptions).isolationLevel
  cases begins : site.store.faults.onBegin with
  | cons f rest =>
    have ran : run = ⟨.error (ofFailure f), [.session (.begin isolation)],
        { site with store.faults.onBegin := rest }⟩ := by
      show site.run elsewhere react (c.transaction context default (inOrder units)).run = _
      rw [transaction_eq, run_session, Store.answer, Store.begin_of_fault begins]
      rfl
    rw [ran]
    exact ⟨[], .unbegun begins rfl rfl, fun _ => rfl⟩
  | nil =>
    let begun : Site σ η := { site with
      store.stats.begun := site.store.stats.begun + 1
      store.stats.lastIsolation := some isolation
      session := .opened site.store.committed }
    let worked : Site σ η := { begun with session := s' }
    let calling : List (Request ε) := calls.map fun call => .session (.store call)
    have ran : run = ((worked.run elsewhere react (ending c context r)).after calling).after
        [.session (.begin isolation)] := by
      have starts : site.store.begin site.session isolation =
          (.ok (), begun.store, .opened site.store.committed) := by
        rw [fresh]
        simp only [Store.begin, begins]
        rfl
      show site.run elsewhere react (c.transaction context default (inOrder units)).run = _
      rw [transaction_eq, run_session, Store.answer, starts]
      show (begun.run elsewhere react ((inOrder units).run >>= ending c context)).after _ = _
      rw [Site.run_bind, pass.makes.run elsewhere react begun rfl]
    let closing := worked.run elsewhere react (ending c context r)
    obtain ⟨attempt, noted⟩ : Attempt units site.store calls closing.value closing.site.store ∧
        ∀ noted, closing.requests.foldr note noted = noted :=
      attempt_ending begins rfl rfl pass
    rw [ran]
    refine ⟨calls, attempt, fun done => ?_⟩
    rw [Run.requests_after, Run.requests_after, List.foldr_append, List.foldr_append, noted,
      foldr_note_calls, List.append_nil]
    rfl

/-- An attempt at a batch. -/
theorem attempt_run (only : ∀ unit ∈ units, unit.run.Within StoreOnly fun _ => True) :
    let run := site.run elsewhere react (c.attempt context default (inOrder units)).run
    ∃ made, Attempt units site.store made run.value run.site.store ∧
      ∀ done, run.requests.foldr note ([], done) = ([], made :: done) := by
  intro run
  let opened : Site σ η := { site with store := site.store.openSession.2, session := default }
  let inside := opened.run elsewhere react (c.transaction context default (inOrder units)).run
  have ran : run = ((inside.site.run elsewhere react
      (c.cleanUp context .release (Action.session .release) >>= fun _ => pure inside.value)).after
        inside.requests).after [.openSession] := by
    have later := opened.run_bind elsewhere react
      (c.transaction context default (inOrder units)).run fun outcome =>
        c.cleanUp context .release (Action.session .release) >>= fun _ => pure outcome
    exact congrArg (Run.after · [.openSession]) later
  obtain ⟨calls, r, s', pass⟩ := InTurn.of_within only (.opened opened.store.committed)
  obtain ⟨made, attempt, noted⟩ : ∃ made, Attempt units opened.store made inside.value
      inside.site.store ∧ ∀ done, inside.requests.foldr note ([], done) = (made, done) :=
    attempt_transaction rfl pass
  obtain ⟨value, idle⟩ := run_bind_pure (idle_release (ε := ε) :
    (inside.site.run elsewhere react (c.cleanUp context .release _)).Idle _) inside.value
  rw [ran]
  refine ⟨made, ?_, fun done => ?_⟩
  · simp only [Run.value_after, Run.site_after, value]
    exact attempt.congr rfl rfl idle.committed idle.faults
  · rw [Run.requests_after, Run.requests_after, List.foldr_append, List.foldr_append, idle.noted,
      noted]
    rfl

/-- What attempts in a row do first: an attempt that is the last one, or one that another follows.
What bounds the attempts does not run out before the policy stops them. -/
theorem first_attempt {work : Work ε E β} {left number : Nat} {first : Run ε σ η (Except E β)}
    (attempted : site.run elsewhere react (c.attempt context default work).run = first)
    (bound : left + number = (c.settings.policyFor default).maxRetries + 1) :
    let policy := c.settings.policyFor default
    let run := site.run elsewhere react (c.attempts context default work left number).run
    (∃ closing : Run ε σ η (Except E β), run = closing.after first.requests ∧
        closing.value = ended context number first.value ∧ closing.Idle first.site.store ∧
        ∀ e f, first.value = .error e → WorkError.failure? e = some f →
          policy.shouldRetry f.kind number = false) ∨
      ∃ k e f, left = k + 1 ∧ first.value = .error e ∧ WorkError.failure? e = some f ∧
        policy.shouldRetry f.kind number = true ∧
        let waited := first.site.run elsewhere react (backOff policy number f)
        run = ((waited.site.run elsewhere react
          (c.attempts context default work k (number + 1)).run).after waited.requests).after
            first.requests := by
  intro policy run
  have ran : run = site.run elsewhere react (c.attempts context default work left number).run := rfl
  rw [attempts, ExceptT.run_mk, Site.run_bind, attempted] at ran
  cases outcome : first.value with
  | ok b =>
    rw [outcome] at ran
    refine .inl ⟨⟨.ok b, [], first.site⟩, ran, rfl, ⟨rfl, rfl, fun _ => rfl⟩, ?_⟩
    intro e f same
    cases same
  | error e =>
    rw [outcome] at ran
    cases raised : WorkError.failure? e with
    | none =>
      simp only [raised] at ran
      refine .inl ⟨⟨.error e, [], first.site⟩, ran, ?_, ⟨rfl, rfl, fun _ => rfl⟩, ?_⟩
      · simp only [ended, raised]
      · intro e' f same failed
        cases same
        cases raised.symm.trans failed
    | some f =>
      simp only [raised] at ran
      have gaveUp : run = (first.site.run elsewhere react (do
            let e ← (giveUp context number f : Action ε E)
            return .error e)).after first.requests →
          policy.shouldRetry f.kind number = false →
          ∃ closing : Run ε σ η (Except E β), run = closing.after first.requests ∧
            closing.value = ended context number (.error e) ∧ closing.Idle first.site.store ∧
            ∀ e' f', Except.error (α := β) e = .error e' → WorkError.failure? e' = some f' →
              policy.shouldRetry f'.kind number = false := by
        intro ran stops
        refine ⟨_, ran, ?_, ⟨rfl, rfl, fun _ => rfl⟩, fun e' f' same failed => ?_⟩
        · simp only [ended, raised]
          rfl
        · cases same
          cases raised.symm.trans failed
          exact stops
      cases left with
      | zero =>
        have spent : ¬ number < (c.settings.policyFor default).maxRetries := by omega
        refine .inl (gaveUp ran ?_)
        rw [RetryPolicy.shouldRetry, decide_eq_false spent, Bool.and_false]
      | succ k =>
        dsimp only at ran
        split at ran
        · rename_i retried
          rw [Site.run_bind] at ran
          exact .inr ⟨k, e, f, rfl, rfl, raised, retried, ran⟩
        · rename_i stops
          exact .inl (gaveUp ran (Bool.eq_false_iff.2 stops))

theorem attempts_run (only : ∀ unit ∈ units, unit.run.Within StoreOnly fun _ => True)
    {left number : Nat} (bound : left + number = (c.settings.policyFor default).maxRetries + 1) :
    let run := site.run elsewhere react
      (c.attempts context default (inOrder units) left number).run
    ∃ made, Attempts (c.settings.policyFor default) context units number site.store made run.value
        run.site.store ∧
      ∀ done, run.requests.foldr note ([], done) = ([], made ++ done) := by
  -- on the attempts left: the first attempt is the last one, or fewer are left for the others
  induction left using Nat.strongRecOn generalizing number site with
  | _ left ih =>
    intro run
    obtain ⟨first, attempted⟩ : ∃ first, site.run elsewhere react
        (c.attempt context default (inOrder units)).run = first := ⟨_, rfl⟩
    obtain ⟨calls, attempt, noted⟩ : ∃ made, Attempt units site.store made first.value
        first.site.store ∧ ∀ done, first.requests.foldr note ([], done) = ([], made :: done) := by
      rw [← attempted]
      exact attempt_run only
    obtain ⟨closing, ran, value, idle, ends⟩ | ⟨k, e, f, rfl, failed, raised, retried, ran⟩ :=
      first_attempt attempted bound
    · rw [show run = _ from ran, Run.value_after, Run.site_after, value]
      refine ⟨[calls], .last (attempt.congr rfl rfl idle.committed idle.faults) ends,
        fun done => ?_⟩
      rw [Run.requests_after, List.foldr_append, idle.noted, noted]
      rfl
    · let waited := first.site.run elsewhere react
        (backOff (c.settings.policyFor default) number f : Action ε Unit)
      have fewer : k + (number + 1) = (c.settings.policyFor default).maxRetries + 1 := by omega
      obtain ⟨more, rest, noted'⟩ := @ih k (Nat.lt_succ_self k) waited.site (number + 1) fewer
      rw [failed] at attempt
      rw [show run = _ from ran]
      refine ⟨calls :: more, .again attempt raised retried rest, fun done => ?_⟩
      rw [Run.requests_after, List.foldr_append]
      exact (congrArg (List.foldr note · first.requests) (noted' done)).trans (noted _)

end

/-- A batch is the work of its units in turn, whatever fails and however often it is attempted.  All
attempts begin with the first unit, on a copy of the tables as they are committed then. -/
theorem runBatch_attempts (c : Coordinator) (context : String) {units : List (Work ε E α)}
    (only : ∀ unit ∈ units, unit.run.Within StoreOnly fun _ => True) {σ η : Type}
    (elsewhere : Elsewhere σ) (react : Reaction ε η) (site : Site σ η) :
    c.runBatch context units = c.run context (leftToRight [] units) ∧
      let run := site.run elsewhere react (c.runBatch context units).run
      Attempts (c.settings.policyFor default) context units 1 site.store (passes run.requests)
          run.value run.site.store ∧
        (passes run.requests).length = run.requests.countP opens ∧
        (∀ results, run.value = .ok results → results.length = units.length) ∧
        ∀ e, run.value = .error e → run.site.store.committed = site.store.committed := by
  refine ⟨by rw [runBatch, inOrder_eq_leftToRight], ?_⟩
  intro run
  let tried := site.run elsewhere react (c.attempts context default (inOrder units)
    (c.settings.policyFor default).maxRetries 1).run
  have ran : run = (Run.after ⟨tried.value, [.signal (.sample "transaction_duration_seconds")],
      tried.site⟩ tried.requests).after [.signal (.count "transactions_total" [])] := by
    have later := site.run_bind elsewhere react (c.attempts context default (inOrder units)
      (c.settings.policyFor default).maxRetries 1).run fun outcome =>
        Action.signal (.sample "transaction_duration_seconds") >>= fun _ => pure outcome
    exact congrArg (Run.after · [.signal (.count "transactions_total" [])]) later
  obtain ⟨made, attempts, noted⟩ : ∃ made, Attempts (c.settings.policyFor default) context units 1
      site.store made tried.value tried.site.store ∧
      ∀ done, tried.requests.foldr note ([], done) = ([], made ++ done) :=
    attempts_run only rfl
  have made_eq : passes run.requests = made := by
    rw [ran, passes, Run.requests_after, Run.requests_after, List.foldr_append, List.foldr_append]
    show (List.foldr note (List.foldr note ([], []) tried.requests) _).2 = made
    rw [noted, List.append_nil]
    rfl
  rw [← made_eq] at attempts
  have whole : Attempts (c.settings.policyFor default) context units 1 site.store
      (passes run.requests) run.value run.site.store := by
    rw [ran] at attempts ⊢
    exact attempts
  exact ⟨whole, length_passes _, fun results ok => whole.length_eq ok,
    fun e error => whole.committed_of_error error⟩

/-- A unit that stores a record, and one that looks for it. -/
def storeThenFind : List (Work Unit RunError Bool) :=
  [do
    Work.saveApproval (.fresh default default)
    return false,
  do
    let found ← Work.findApproval default
    return found.isSome]

/-- The first commit fails.  The second attempt begins with the first unit again, and the second
unit finds the record. -/
theorem runBatch_attempts_storeThenFind :
    let run := troubled.run standing (fun _ _ _ => (.ok (), ()))
      ((default : Coordinator).runBatch "batch" storeThenFind).run
    let calls := [.saveApproval (.fresh default default), .findApproval default]
    run.value = .ok [false, true] ∧
      Attempts ((default : Coordinator).settings.policyFor default) "batch" storeThenFind 1
        troubled.store [calls, calls] (.ok [false, true]) run.site.store := by
  intro run calls
  have only : ∀ unit ∈ storeThenFind, unit.run.Within StoreOnly fun _ => True := by
    intro unit mem
    rcases List.mem_pair.1 mem with rfl | rfl <;>
      exact ⟨trivial, fun answer => by cases answer <;> trivial⟩
  have attempts : Attempts ((default : Coordinator).settings.policyFor default) "batch"
      storeThenFind 1 troubled.store (passes run.requests) run.value run.site.store :=
    (runBatch_attempts default "batch" only standing (fun _ _ _ => (.ok (), ())) troubled).2.1
  have value : run.value = .ok [false, true] := by decide +kernel
  have made : passes run.requests = [calls, calls] := by decide +kernel
  rw [value, made] at attempts
  exact ⟨value, attempts⟩

end Appraisal.Memory
