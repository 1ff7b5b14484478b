import Appraisal.Proofs.Memory.Calls
import Appraisal.Proofs.Transaction.Once

/-!
# Runs that only read

A run that is asked to only read tells every transaction so before it does any work.

*Requests on the way.*  `Session.Passes` says that a run may come to a request, with the sessions
before and after it and with the trace so far, as it does to each request of a trace
(`Traced.passes`).  Each request may find any store, so other sessions may commit in between.
`Session.Abides` says that every request on the way keeps to
a rule.  It is proved of a program step by step (`abides_bind`), and it holds wherever a run may
come (`Passes.keeps`).

*Reading sessions.*  `Session.Reads` is the invariant of work in a transaction that may only read:
the transaction is as it began, and so is every savepoint in it.  Going back to a savepoint takes
nothing back, since nothing was written.

*Snapshots.*  A store call or a commit in such a run finds a session that reads the tables
that the last begin found (`abides_runWith`).  What `runWith_reads` says of the run follows from
this for each request on its own.
-/

namespace Appraisal.Memory

open Coordinator

/-! ## Requests on the way -/

namespace Session

variable {ε α β : Type}

/-- A run of an action from a session may come to a request: after the trace, on the session before
it, with the session after it. -/
inductive Passes : Action ε α → Session → List (Exchange ε) → Session → Exchange ε → Session → Prop
  /-- It is the first request. -/
  | here {request : Request ε} {next : request.Answer → Action ε α} {s mid : Session}
    {answer : request.Answer} {found left : Store}
    (answered : Answered s request answer found left mid) :
    Passes (.call request next) s [] s ⟨request, answer, found, left⟩ mid
  /-- It comes after the first request. -/
  | later {request : Request ε} {next : request.Answer → Action ε α} {s mid before after : Session}
    {answer : request.Answer} {found left : Store} {trace : List (Exchange ε)} {x : Exchange ε}
    (answered : Answered s request answer found left mid)
    (rest : Passes (next answer) mid trace before x after) :
    Passes (.call request next) s (⟨request, answer, found, left⟩ :: trace) before x after

/-- The requests of a trace are those that the run passes. -/
theorem Traced.passes {p : Action ε α} {s s' : Session} {trace : List (Exchange ε)} {a : α}
    (h : Traced p s trace a s') {first rest : List (Exchange ε)} {x : Exchange ε}
    (split : trace = first ++ x :: rest) :
    ∃ before after : Session, Passes p s first before x after := by
  induction h generalizing first with
  | done a s => simp at split
  | ask answered _ ih =>
    cases first with
    | nil =>
      cases split
      exact ⟨_, _, .here answered⟩
    | cons y first =>
      cases split
      obtain ⟨before, after, passes⟩ := ih rfl
      exact ⟨before, after, .later answered passes⟩

/-- A call on a session is answered by the store that it finds. -/
theorem Answered.of_call {s s' : Session} {call : SessionCall} {answer : call.Answer}
    {found left : Store}
    (h : Answered s (.session call : Request ε) answer found left s') :
    answer = (found.answer s call).1 ∧ left = (found.answer s call).2.1 ∧
      s' = (found.answer s call).2.2 := by
  cases h with
  | call => exact ⟨rfl, rfl, rfl⟩
  | other off => exact off.elim

/-- What may be asked after a trace and on a session. -/
abbrev Rule (ε : Type) : Type := List (Exchange ε) → Session → Request ε → Prop

/-- Every run of an action keeps to the rule, and it ends as described.  The trace is what was asked
before. -/
def Abides (rule : Rule ε) (post : α → List (Exchange ε) → Session → Prop) :
    Action ε α → List (Exchange ε) → Session → Prop
  | .pure a, trace, s => post a trace s
  | .call request next, trace, s => rule trace s request ∧
    ∀ answer found left mid, Answered s request answer found left mid →
      Abides rule post (next answer) (trace ++ [⟨request, answer, found, left⟩]) mid

variable {rule : Rule ε} {post post' : α → List (Exchange ε) → Session → Prop}
  {trace : List (Exchange ε)} {s : Session}

theorem abides_bind {p : Action ε α} {f : α → Action ε β}
    {after : β → List (Exchange ε) → Session → Prop}
    (h : Abides rule (fun a trace s => Abides rule after (f a) trace s) p trace s) :
    Abides rule after (p >>= f) trace s := by
  induction p generalizing trace s with
  | pure a => exact h
  | call request next ih =>
    obtain ⟨keeps, rest⟩ := h
    exact ⟨keeps, fun answer found left mid answered => ih answer (rest _ found left mid answered)⟩

theorem Abides.mono {p : Action ε α} (h : Abides rule post p trace s)
    (weaker : ∀ a trace s, post a trace s → post' a trace s) : Abides rule post' p trace s := by
  induction p generalizing trace s with
  | pure a => exact weaker a trace s h
  | call request next ih =>
    obtain ⟨keeps, rest⟩ := h
    exact ⟨keeps, fun answer found left mid answered => ih answer (rest _ found left mid answered)⟩

/-- A call on the session, and what follows its answer. -/
theorem abides_session {call : SessionCall} {f : call.Answer → Action ε β}
    {after : β → List (Exchange ε) → Session → Prop} (keeps : rule trace s (.session call))
    (rest : ∀ found : Store, Abides rule after (f (found.answer s call).1)
      (trace ++ [⟨.session call, (found.answer s call).1, found, (found.answer s call).2.1⟩])
      (found.answer s call).2.2) :
    Abides rule after (Action.session call >>= f) trace s := by
  refine ⟨keeps, fun answer found left mid answered => ?_⟩
  cases answered with
  | call => exact rest found
  | other off => exact off.elim

/-- A rule is kept wherever a run may come. -/
theorem Passes.keeps {p : Action ε α} {first : List (Exchange ε)} {before after : Session}
    {x : Exchange ε} (passes : Passes p s first before x after)
    (h : Abides rule post p trace s) :
    rule (trace ++ first) before x.request ∧
      Answered before x.request x.answer x.found x.left after := by
  induction passes generalizing trace with
  | here answered => exact ⟨by rw [List.append_nil]; exact h.1, answered⟩
  | later answered _ ih =>
    have next := ih (h.2 _ _ _ _ answered)
    rwa [List.append_assoc] at next

end Session

/-! ## Sessions that read -/

/-- The transaction of the session may only read, and it and all its savepoints are as the
transaction began. -/
structure Session.Reads (base : Tables) (s : Session) : Prop where
  working : s.working = some (.start base)
  readOnly : s.readOnly = true
  savepoints : ∀ p ∈ s.savepoints, p.2 = .start base

namespace Session

variable {ε α : Type} {base : Tables} {s s' : Session}

theorem reads_opened (base : Tables) : ({ opened base with readOnly := true }).Reads base :=
  ⟨rfl, rfl, nofun⟩

/-- A store call or a call on savepoints leaves the session reading. -/
theorem Reads.step {committed : Tables} {call : SessionCall} (h : s.Reads base)
    (step : s.Step committed call s') (inner : Inner (.session call : Request ε)) :
    s'.Reads base := by
  have under : ∀ {name point outer}, s.savepointsFrom name = point :: outer →
      ∀ p ∈ point :: outer, p.2 = .start base :=
    fun found p hp => h.savepoints p (mem_of_mem_savepointsFrom (found ▸ hp))
  cases step with
  | stay => exact h
  | put call t r working writable => exact absurd (h.readOnly.symm.trans writable) nofun
  | savepoint name t working =>
    refine ⟨h.working, h.readOnly, fun p hp => ?_⟩
    rcases List.mem_cons.1 hp with rfl | hp
    · exact Option.some.inj (working.symm.trans h.working)
    · exact h.savepoints p hp
  | releaseSavepoint name point outer found =>
    exact ⟨h.working, h.readOnly, fun p hp => under found p (List.mem_cons_of_mem _ hp)⟩
  | rollbackToSavepoint name point outer found =>
    exact ⟨congrArg some (under found point List.mem_cons_self), h.readOnly, under found⟩
  | begin | setReadOnly | commit | rollback | release => exact inner.elim

/-- A transaction that may only read refuses to write. -/
theorem store_of_readOnly (readOnly : s.readOnly = true) {call : StoreCall}
    (writes : ¬ Reading call) : s.store call = (.error readOnlyTransaction, s) := by
  have refused : s.writable = .error readOnlyTransaction := by rw [writable, if_pos readOnly]
  cases call with
  | saveApproval | insertRequest | insertRecipient | updateRecipient =>
    simp only [store, write, refused]
  | _ => exact absurd trivial writes

/-- A commit of a transaction that may only read publishes nothing, and only a planned failure makes
it fail. -/
theorem Reads.commit (h : s.Reads base) (store : Store) :
    (store.commit s).2.1.committed = store.committed ∧
      (store.commit s).2.1.stats.conflicts = store.stats.conflicts ∧
      ∀ f, (store.commit s).1 = .error f →
        store.faults.onCommit = f :: (store.commit s).2.1.faults.onCommit := by
  simp only [Store.commit, h.working]
  cases planned : store.faults.onCommit with
  | nil =>
    rw [if_pos h.readOnly]
    exact ⟨rfl, rfl, fun f failed => by cases failed⟩
  | cons f faults => exact ⟨rfl, rfl, fun f' failed => by cases failed; rfl⟩

end Session

/-- No call but a commit counts a conflict. -/
theorem conflicts_answer (store : Store) (s : Session) {call : SessionCall}
    (other : call ≠ .commit) :
    (store.answer s call).2.1.stats.conflicts = store.stats.conflicts := by
  cases call with
  | begin isolation =>
    simp only [Store.answer, Store.begin]
    split
    · rfl
    · split <;> rfl
  | setReadOnly => simp only [Store.answer, Store.setReadOnly]; split <;> rfl
  | savepoint name =>
    simp only [Store.answer, Store.savepoint]
    split
    · rfl
    · split <;> rfl
  | releaseSavepoint name => simp only [Store.answer, Store.releaseSavepoint]; split <;> rfl
  | rollbackToSavepoint name => simp only [Store.answer, Store.rollbackToSavepoint]; split <;> rfl
  | release => simp only [Store.answer, Store.release]; split <;> rfl
  | rollback | store => rfl
  | commit => exact absurd rfl other

/-- A request leaves the committed tables as they are and counts no conflict, if it is no commit or
the session reads. -/
theorem Session.Answered.unchanged {ε : Type} {s s' : Session} {request : Request ε}
    {answer : request.Answer} {found left : Store}
    (h : Answered s request answer found left s')
    (commits : request = .session .commit → ∃ base, s.Reads base) :
    left.committed = found.committed ∧ left.stats.conflicts = found.stats.conflicts := by
  cases h with
  | call call =>
    by_cases same : call = .commit
    · subst same
      obtain ⟨base, reads⟩ := commits rfl
      exact ⟨(reads.commit found).1, (reads.commit found).2.1⟩
    · exact ⟨found.committed_answer s same, conflicts_answer found s same⟩
  | opened | refused | other => exact ⟨rfl, rfl⟩

/-! ## Snapshots -/

section

open Session

variable {ε E α : Type}

/-- The last begin of the trace found these tables committed, and no session was opened since. -/
def BegunOn (base : Tables) (trace : List (Exchange ε)) : Prop :=
  ∃ earlier begun inside, trace = earlier ++ begun :: inside ∧ begun.begins ∧
    begun.found.committed = base ∧ ∀ x ∈ inside, x.request ≠ .openSession ∧ ¬ x.begins

theorem begunOn_of_begins (trace : List (Exchange ε)) {x : Exchange ε} (begins : x.begins) :
    BegunOn x.found.committed (trace ++ [x]) :=
  ⟨trace, x, [], rfl, begins, rfl, fun _ hy => absurd hy List.not_mem_nil⟩

theorem BegunOn.append {base : Tables} {trace : List (Exchange ε)} (h : BegunOn base trace)
    {x : Exchange ε} (opens : x.request ≠ .openSession) (begins : ¬ x.begins) :
    BegunOn base (trace ++ [x]) := by
  obtain ⟨earlier, begun, inside, rfl, began, snapshot, since⟩ := h
  refine ⟨earlier, begun, inside ++ [x], by simp, began, snapshot, fun y hy => ?_⟩
  rcases List.mem_append.1 hy with hy | hy
  · exact since y hy
  · cases List.mem_singleton.1 hy
    exact ⟨opens, begins⟩

theorem not_begins_of_ne {x : Exchange ε}
    (h : ∀ isolation, x.request ≠ .session (.begin isolation)) : ¬ x.begins := by
  intro begins
  unfold Exchange.begins at begins
  split at begins
  · exact h _ rfl
  · exact begins

/-- The request reads or writes rows or commits. -/
def Touches : Request ε → Prop
  | .session (.store _) | .session .commit => True
  | _ => False

/-- A request that touches rows finds a session that reads what the last begin found. -/
def AtSnapshot : Rule ε := fun trace s request =>
  Touches request → ∃ base, BegunOn base trace ∧ s.Reads base

/-- Requests that touch no rows keep to the rule. -/
theorem abides_of_within {p : Action ε α} {post : α → Prop}
    (within : p.Within (fun request => ¬ Touches request) post) (trace : List (Exchange ε))
    (s : Session) : Abides AtSnapshot (fun a _ _ => post a) p trace s := by
  induction p generalizing trace s with
  | pure a => exact within
  | call request next ih =>
    exact ⟨fun touches => absurd touches within.1,
      fun answer _ _ _ _ => ih answer (within.2 answer) _ _⟩

/-- Work in a transaction that may only read keeps to the rule and leaves the session reading. -/
theorem abides_inner {p : Action ε α} {base : Tables} (inner : p.Within Inner fun _ => True)
    {trace : List (Exchange ε)} {s : Session} (begun : BegunOn base trace) (reads : s.Reads base) :
    Abides AtSnapshot (fun _ trace s => BegunOn base trace ∧ s.Reads base) p trace s := by
  induction p generalizing trace s with
  | pure a => exact ⟨begun, reads⟩
  | call request next ih =>
    refine ⟨fun _ => ⟨base, begun, reads⟩, fun answer found left mid answered => ?_⟩
    obtain ⟨inner, rest⟩ := inner
    refine ih answer (rest answer) (begun.append ?_ (not_begins_of_ne ?_)) ?_
    · rintro rfl
      exact inner
    · rintro isolation rfl
      exact inner
    · cases answered with
      | call call => exact reads.step (Store.step_answer _ _ call) inner
      | opened | refused => exact inner.elim
      | other => exact reads

variable [WorkError E] {c : Coordinator} {context : String} {options : TransactionOptions}
  {work : Work ε E α} {trace : List (Exchange ε)} {s : Session}

omit [WorkError E] in
/-- Cleaning up touches no rows. -/
theorem abides_cleanedUp (stage : CleanupStage) (action : Action ε (Except Failure Unit))
    (untouched : action.Within (fun request => ¬ Touches request) fun _ => True) (r : Except E α) :
    Abides AtSnapshot (fun _ _ _ => True) (c.cleanUp context stage action >>= fun _ => pure r) trace
      s := by
  have within := within_cleanUp c context stage untouched fun _ => id
  exact abides_bind ((abides_of_within within trace s).mono fun _ _ _ _ => trivial)

omit [WorkError E] in
/-- Rolling back is cleaning up. -/
theorem abides_rolledBack (r : Except E α) :
    Abides AtSnapshot (fun _ _ _ => True) (c.rollBack context >>= fun _ => pure r) trace s :=
  abides_cleanedUp .rollback (Action.session .rollback) ⟨id, fun _ => trivial⟩ r

/-- So does what a transaction does after its begin. -/
theorem abides_body (readOnly : options.readOnly = true)
    (inner : work.run.Within Inner fun _ => True) {base : Tables} (begun : BegunOn base trace) :
    Abides AtSnapshot (fun _ trace s => BegunOn base trace ∧ s.Reads base)
      (c.body context options work).run trace (.opened base) := by
  rw [body, if_pos readOnly]
  refine abides_session False.elim fun found => ?_
  have since : BegunOn base (trace ++ [⟨.session .setReadOnly,
      (found.answer (opened base) .setReadOnly).1, found,
      (found.answer (opened base) .setReadOnly).2.1⟩]) :=
    begun.append (fun same => by cases same) (not_begins_of_ne fun _ same => by cases same)
  exact abides_inner (inner_inOptionalSavepoint inner) since (reads_opened base)

/-- A transaction that is asked to only read keeps to the rule. -/
theorem abides_transaction (readOnly : options.readOnly = true)
    (inner : work.run.Within Inner fun _ => True) :
    Abides AtSnapshot (fun _ _ _ => True) (c.transaction context options work).run trace
      default := by
  rw [transaction_eq]
  refine abides_session False.elim fun found => ?_
  obtain ⟨-, ⟨⟨f, failed⟩, -⟩ | ⟨ok, starts⟩⟩ := begin_cases found options.isolationLevel
  · have failed' : (found.answer default (.begin options.isolationLevel)).1 = .error f := failed
    rw [failed']
    trivial
  · have ok' : (found.answer default (.begin options.isolationLevel)).1 = .ok () := ok
    have starts' : (found.answer default (.begin options.isolationLevel)).2.2 =
      .opened found.committed := starts
    have begun : BegunOn found.committed (trace ++ [⟨.session (.begin options.isolationLevel),
        (found.answer default (.begin options.isolationLevel)).1, found,
        (found.answer default (.begin options.isolationLevel)).2.1⟩]) :=
      begunOn_of_begins _ (by rw [ok']; trivial)
    rw [ok', starts']
    rw [ok'] at begun
    refine abides_bind ((abides_body readOnly inner begun).mono fun outcome trace s worked => ?_)
    cases outcome with
    | error e =>
      exact abides_rolledBack _
    | ok v =>
      refine abides_session (fun _ => ⟨_, worked⟩) fun found => ?_
      cases (found.answer s .commit).1 with
      | ok u => trivial
      | error f => exact abides_rolledBack _

/-- So does an attempt. -/
theorem abides_attempt (readOnly : options.readOnly = true)
    (inner : work.run.Within Inner fun _ => True) :
    Abides AtSnapshot (fun _ _ _ => True) (c.attempt context options work).run trace s := by
  rw [attempt, ExceptT.run_mk]
  refine ⟨False.elim, fun answer found left mid answered => ?_⟩
  cases answered with
  | refused f found => trivial
  | opened found =>
    change Abides AtSnapshot _ ((c.transaction context options work).run >>= _) _ _
    refine abides_bind ((abides_transaction readOnly inner).mono fun outcome trace s _ => ?_)
    exact abides_cleanedUp .release (Action.session .release) ⟨id, fun _ => trivial⟩ outcome
  | other off => exact off.elim

/-- An attempt and what follows it keep to the rule if the next attempts do. -/
theorem abides_of_next (readOnly : options.readOnly = true)
    (inner : work.run.Within Inner fun _ => True) {left number : Nat}
    (next : ∀ k, left = k + 1 → ∀ (trace : List (Exchange ε)) (s : Session),
      Abides AtSnapshot (fun _ _ _ => True) (c.attempts context options work k (number + 1)).run
        trace s) :
    Abides AtSnapshot (fun _ _ _ => True) (c.attempts context options work left number).run trace
      s := by
  have signals : ∀ signal, ¬ Touches (.signal signal : Request ε) := fun _ => id
  have givesUp : ∀ (f : Failure) (trace : List (Exchange ε)) (s : Session),
      Abides AtSnapshot (fun _ _ _ => True) (do
        let e ← (giveUp context number f : Action ε E)
        return (.error e : Except E α)) trace s := fun f trace s =>
    abides_bind ((abides_of_within (within_giveUp signals number f) trace s).mono
      fun _ _ _ _ => trivial)
  rw [attempts, ExceptT.run_mk]
  refine abides_bind ((abides_attempt readOnly inner).mono fun outcome trace s _ => ?_)
  cases outcome with
  | ok v => trivial
  | error e =>
    cases raw : WorkError.failure? e with
    | none =>
      simp only [raw]
      trivial
    | some f =>
      simp only [raw]
      cases left with
      | zero => exact givesUp f trace s
      | succ k =>
        simp only
        split
        · have waits : (backOff (c.settings.policyFor options) number f : Action ε Unit).Within
              (fun request => ¬ Touches request) fun _ => True :=
            within_backOff signals (fun _ => id) _ number f
          exact abides_bind ((abides_of_within waits trace s).mono fun _ trace s _ =>
            next k rfl trace s)
        · exact givesUp f trace s

/-- So do all attempts of a run. -/
theorem abides_attempts (readOnly : options.readOnly = true)
    (inner : work.run.Within Inner fun _ => True) (left number : Nat) (trace : List (Exchange ε))
    (s : Session) :
    Abides AtSnapshot (fun _ _ _ => True) (c.attempts context options work left number).run trace
      s := by
  induction left generalizing number trace s with
  | zero => exact abides_of_next readOnly inner fun k same => by cases same
  | succ left ih =>
    refine abides_of_next readOnly inner fun k same => ?_
    cases same
    exact ih (number + 1)

/-- Whatever a run that is asked to only read touches, it touches on a session that reads the tables
that the last begin found. -/
theorem abides_runWith (readOnly : options.readOnly = true)
    (inner : work.run.Within Inner fun _ => True) :
    Abides AtSnapshot (fun _ _ _ => True) (c.runWith context options work).run [] s := by
  have signals : ∀ (signal : Signal) (trace : List (Exchange ε)) (s : Session),
      Abides AtSnapshot (fun _ _ _ => True) (Action.signal signal) trace s :=
    fun signal => abides_of_within ⟨id, fun _ => trivial⟩
  rw [runWith, ExceptT.run_mk]
  refine abides_bind ((signals _ _ _).mono fun _ trace s _ => ?_)
  refine abides_bind ((abides_attempts readOnly inner _ _ trace s).mono fun _ trace s _ => ?_)
  exact abides_bind ((signals _ _ _).mono fun _ _ _ _ => trivial)

/-- A run of scoped work that is asked to only read changes no committed row and no version, counts
no conflict, and fails to commit only if that was planned, whatever others commit in between.  Every
store call in it finds the tables that were committed when its attempt began, and leaves the session
as it is.  A call that reads answers what these tables hold, and a call that writes fails. -/
theorem runWith_reads {names : String → Prop} (within : Scoped names work)
    (readOnly : options.readOnly = true) {before after : Session} {x : Exchange ε}
    (passes : Passes (c.runWith context options work).run s trace before x after) :
    x.left.committed = x.found.committed ∧
      x.left.stats.conflicts = x.found.stats.conflicts ∧
      (∀ f found left, x = ⟨.session .commit, .error f, found, left⟩ →
        found.faults.onCommit = f :: left.faults.onCommit) ∧
      ∀ call answer found left, x = ⟨.session (.store call), answer, found, left⟩ →
        ∃ snapshot, BegunOn snapshot trace ∧ before.tables = .ok snapshot ∧ after = before ∧
          (Reading call → answer = .ok (snapshot.answer call)) ∧
          (¬ Reading call → answer = .error readOnlyTransaction ∧
            readOnlyTransaction.code? = some "25006") := by
  obtain ⟨atSnapshot, answered⟩ := passes.keeps (abides_runWith readOnly within.inner)
  rw [List.nil_append] at atSnapshot
  obtain ⟨request, answer, found, left⟩ := x
  change Answered before request answer found left after at answered
  have unchanged := answered.unchanged fun same => by
    subst same
    obtain ⟨base, -, reads⟩ := atSnapshot trivial
    exact ⟨base, reads⟩
  refine ⟨unchanged.1, unchanged.2, fun f found' left' same => ?planned,
    fun call answer' found' left' same => ?snapshot⟩
  case planned =>
    cases same
    obtain ⟨base, -, reads⟩ := atSnapshot trivial
    obtain ⟨failed, rfl, -⟩ := answered.of_call
    exact (reads.commit found).2.2 f failed.symm
  case snapshot =>
    cases same
    obtain ⟨base, begun, reads⟩ := atSnapshot trivial
    obtain ⟨rfl, -, rfl⟩ := answered.of_call
    have tables : before.tables = .ok base := by rw [Session.tables, reads.working]; rfl
    by_cases reading : Reading call
    · have done : before.store call = (.ok (base.answer call), before) :=
        store_of_reading reads.working reading
      exact ⟨base, begun, tables, congrArg Prod.snd done, fun _ => congrArg Prod.fst done,
        fun writes => absurd reading writes⟩
    · have done := store_of_readOnly reads.readOnly reading
      exact ⟨base, begun, tables, congrArg Prod.snd done, fun reads => absurd reads reading,
        fun _ => ⟨congrArg Prod.fst done, rfl⟩⟩

end

/-- Work that fails to store a record in a savepoint, ignores that, and looks for the record. -/
def peeking : Work WorkflowEvent RunError (Option ApprovalRecord) :=
  ExceptT.mk (((default : Coordinator).inSavepoint "peek" "sp"
    (Work.saveApproval (.fresh default default) : Work WorkflowEvent RunError Unit)).run >>=
      fun _ => (Work.store (.findApproval default)).run)

theorem scoped_peeking : Scoped (fun _ => True) peeking :=
  .scope default "peek" trivial (.ofStore (.saveApproval _)) (fun _ => Work.store _)
    fun _ => .ofStore _

/-- A run of the work in a savepoint of its own. -/
def lookedAt : Work WorkflowEvent RunError (Option ApprovalRecord) :=
  (default : Coordinator).runWith "look" { TransactionOptions.reading with savepoint := some "out" }
    peeking

/-- The store after another session has committed the record. -/
def overtakenStore : Store :=
  { (default : Store) with
    committed := (default : Tables).put (.approval (.fresh default default)) }

/-- Another session commits the record after the write has failed.  The work does not find it. -/
theorem passes_lookedAt :
    ∃ (trace : List (Exchange WorkflowEvent)) (before after : Session),
      Session.Passes lookedAt.run default trace before
        ⟨.session (.store (.findApproval default)), .ok none, overtakenStore, overtakenStore⟩
        after := by
  rw [lookedAt, Coordinator.runWith, Coordinator.attempts]
  apply Exists.intro
  apply Exists.intro
  apply Exists.intro
  apply Session.Passes.later (.other (by trivial) (by exact ()) default)
  apply Session.Passes.later (.opened default)
  apply Session.Passes.later (.call _ default)
  apply Session.Passes.later (.call _ default)
  apply Session.Passes.later (.call _ default)
  apply Session.Passes.later (.call _ default)
  apply Session.Passes.later (.call _ default)
  apply Session.Passes.later (.call _ overtakenStore)
  exact .here (.call _ overtakenStore)

/-- What the work finds is what was committed when its transaction began. -/
theorem runWith_reads_lookedAt :
    (overtakenStore.committed.approvals.get? default).isSome ∧
      ∃ (trace : List (Exchange WorkflowEvent)) (before after : Session) (snapshot : Tables),
        Session.Passes lookedAt.run default trace before
          ⟨.session (.store (.findApproval default)), .ok none, overtakenStore, overtakenStore⟩
          after ∧
        BegunOn snapshot trace ∧ before.tables = .ok snapshot ∧ after = before ∧
        snapshot.approvals.get? default = none := by
  obtain ⟨trace, before, after, passes⟩ := passes_lookedAt
  obtain ⟨-, -, -, seen⟩ := runWith_reads scoped_peeking rfl passes
  obtain ⟨snapshot, begun, tables, same, answers, -⟩ := seen _ _ _ _ rfl
  have found : snapshot.approvals.get? default = none := (Except.ok.inj (answers trivial)).symm
  exact ⟨by decide, trace, before, after, snapshot, passes, begun, tables, same, found⟩

end Appraisal.Memory
