import Appraisal.Proofs.Concurrent.Turn
import Appraisal.Proofs.Memory.Placed
import Appraisal.Proofs.Transaction.Scope

/-!
# Traces

A trace lists the requests that an action made, each with its answer and with the store as it was
found and left.  Other sessions may change the store between any two requests, so a store that is
found need not be the one that was left before.

*Requests and traces.*  What bounds the requests of a program bounds its traces (`Traced.within`),
and the trace of two programs in a row is the trace of the first and then that of the second
(`Traced.of_bind`).

*Idle requests.*  A request is idle if it leaves the committed tables as they are and is no commit
that succeeded.  Every request but a commit is idle (`Answered.idle`), and so is a commit that fails
(`Answered.idle_of_failed`).

*Work.*  What scoped work asks for keeps its transaction open on a copy of the snapshot, and writes
nothing in a transaction that may only read (`Active.traced`).
-/

namespace Appraisal.Memory

/-! ## Requests that were answered -/

/-- A request that was answered, with the store before and after it. -/
structure Exchange (ε : Type) where
  request : Request ε
  answer : request.Answer
  /-- The store that it found. -/
  found : Store
  /-- The store that it left. -/
  left : Store

namespace Exchange

variable {ε : Type}

/-- A transaction has begun. -/
def begins : Exchange ε → Prop
  | ⟨.session (.begin _), .ok (), _, _⟩ => True
  | _ => False

/-- A commit has succeeded. -/
def commits : Exchange ε → Prop
  | ⟨.session .commit, .ok (), _, _⟩ => True
  | _ => False

/-- The request changed no committed row and no version, and it committed nothing. -/
structure Idle (x : Exchange ε) : Prop where
  unchanged : x.left.committed = x.found.committed
  uncommitted : ¬ x.commits

end Exchange

namespace Session

variable {ε α β : Type} {s mid s' : Session}

/-- A request may be answered so, and leaves the store and the session as given.  A session may fail
to open, and the answers to requests made elsewhere are arbitrary. -/
inductive Answered (s : Session) :
    (request : Request ε) → request.Answer → (found left : Store) → Session → Prop
  | opened (found : Store) :
    Answered s .openSession (.ok ()) found found.openSession.2 found.openSession.1
  | refused (f : Failure) (found : Store) : Answered s .openSession (.error f) found found s
  | call (call : SessionCall) (found : Store) :
    Answered s (.session call) (found.answer s call).1 found (found.answer s call).2.1
      (found.answer s call).2.2
  /-- The request is made elsewhere. -/
  | other {request : Request ε} (off : away request) (answer : request.Answer) (found : Store) :
    Answered s request answer found found s

/-- An action may run on a session with a trace to a value, and leave the session as given. -/
inductive Traced : Action ε α → Session → List (Exchange ε) → α → Session → Prop
  | done (a : α) (s : Session) : Traced (.pure a) s [] a s
  | ask {request : Request ε} {next : request.Answer → Action ε α} {s mid s' : Session} {a : α}
    {answer : request.Answer} {found left : Store} {trace : List (Exchange ε)}
    (answered : Answered s request answer found left mid)
    (rest : Traced (next answer) mid trace a s') :
    Traced (.call request next) s (⟨request, answer, found, left⟩ :: trace) a s'

namespace Traced

variable {trace : List (Exchange ε)}

theorem of_pure {a b : α} (h : Traced (pure a : Action ε α) s trace b s') :
    trace = [] ∧ b = a ∧ s' = s := by
  cases h
  exact ⟨rfl, rfl, rfl⟩

theorem of_bind {p : Action ε α} {f : α → Action ε β} {b : β}
    (h : Traced (p >>= f) s trace b s') :
    ∃ first a mid second, trace = first ++ second ∧ Traced p s first a mid ∧
      Traced (f a) mid second b s' := by
  induction p generalizing s trace with
  | pure a => exact ⟨[], a, s, trace, rfl, .done a s, h⟩
  | call request next ih =>
    cases h with
    | ask answered rest =>
      obtain ⟨first, a, mid, second, rfl, hp, hf⟩ := ih _ rest
      exact ⟨_ :: first, a, mid, second, rfl, .ask answered hp, hf⟩

theorem of_session {call : SessionCall} {f : call.Answer → Action ε β} {b : β}
    (h : Traced (Action.session call >>= f) s trace b s') :
    ∃ (found : Store) (rest : List (Exchange ε)),
      trace = ⟨.session call, (found.answer s call).1, found, (found.answer s call).2.1⟩ :: rest ∧
      Traced (f (found.answer s call).1) (found.answer s call).2.2 rest b s' := by
  cases h with
  | ask answered rest =>
    cases answered with
    | call => exact ⟨_, _, rfl, rest⟩
    | other off => exact off.elim

/-- A program that may make some requests only makes such requests in every trace. -/
theorem within {p : Action ε α} {a : α} {allowed : Request ε → Prop} {post : α → Prop}
    (h : Traced p s trace a s') (bound : p.Within allowed post) :
    (∀ x ∈ trace, allowed x.request) ∧ post a := by
  induction h with
  | done a s => exact ⟨fun x hx => absurd hx List.not_mem_nil, bound⟩
  | @ask request next s mid s' a answer found left trace answered rest ih =>
    obtain ⟨all, last⟩ := ih (bound.2 answer)
    refine ⟨fun x hx => ?_, last⟩
    rcases List.mem_cons.1 hx with rfl | hx
    · exact bound.1
    · exact all x hx

/-- Every request of a trace was answered on some session. -/
theorem answered {p : Action ε α} {a : α} (h : Traced p s trace a s') {x : Exchange ε}
    (hx : x ∈ trace) : ∃ before after : Session,
      Answered before x.request x.answer x.found x.left after := by
  induction h with
  | done => cases hx
  | ask answered rest ih =>
    rcases List.mem_cons.1 hx with rfl | hx
    · exact ⟨_, _, answered⟩
    · exact ih hx

end Traced

/-! ## Idle requests -/

namespace Answered

variable {request : Request ε} {answer : request.Answer} {found left : Store}

theorem idle (h : Answered s request answer found left s') (other : request ≠ .session .commit) :
    Exchange.Idle ⟨request, answer, found, left⟩ := by
  have uncommitted : ¬ Exchange.commits ⟨request, answer, found, left⟩ := by
    intro commits
    unfold Exchange.commits at commits
    split at commits
    · rename_i same
      cases same
      exact other rfl
    · exact commits
  refine ⟨?_, uncommitted⟩
  cases h with
  | opened => rfl
  | refused => rfl
  | call call => exact found.committed_answer s fun same => other (congrArg Request.session same)
  | other => rfl

end Answered

theorem idle_commit_of_failed {found : Store} {f : Failure}
    (failed : (found.commit s).1 = .error f) :
    Exchange.Idle (ε := ε)
      ⟨.session .commit, (found.commit s).1, found, (found.commit s).2.1⟩ where
  unchanged := by
    cases working : s.working with
    | none => simp only [Store.commit, working]
    | some t =>
      obtain ⟨-, ⟨-, same⟩ | ⟨ok, -⟩ | ⟨ok, -⟩⟩ := commit_cases found working
      · exact same
      · rw [failed] at ok; cases ok
      · rw [failed] at ok; cases ok
  uncommitted := by
    rw [failed]
    exact id

end Session

/-! ## Sessions that work -/

/-- The request is a store call, works with savepoints or is not made to a session at all. -/
def Inner {ε : Type} : Request ε → Prop
  | .openSession => False
  | .session (.store _) | .session (.savepoint _) => True
  | .session (.releaseSavepoint _) | .session (.rollbackToSavepoint _) => True
  | .session _ => False
  | _ => True

/-- The session has a transaction over the snapshot, and it has written nothing if it may only
read. -/
structure Session.Active (base : Tables) (s : Session) : Prop where
  working : s.working.isSome
  /-- It works on a copy of the snapshot. -/
  sound : s.Sound base
  /-- A transaction that may only read has written nothing, at no savepoint either. -/
  unwritten : s.readOnly = true →
    (∀ t, s.working = some t → t.writes = []) ∧ ∀ p ∈ s.savepoints, p.2.writes = []

namespace Session

variable {ε α : Type} {base : Tables} {s s' : Session}

theorem active_opened (base : Tables) : (opened base).Active base where
  working := rfl
  sound := ⟨nofun, fun t ht => by cases ht; exact Transaction.over_start base, nofun⟩
  unwritten _ := ⟨fun t ht => by cases ht; rfl, nofun⟩

/-- A transaction that has written nothing may be told to read only. -/
theorem active_readOnly (base : Tables) : ({ opened base with readOnly := true }).Active base where
  working := rfl
  sound := ⟨nofun, (active_opened base).sound.working, nofun⟩
  unwritten _ := ⟨fun t ht => by cases ht; rfl, nofun⟩

/-- A store call and a call on savepoints leave the transaction open and written as allowed. -/
theorem Active.step {committed : Tables} {call : SessionCall} (h : s.Active base)
    (step : s.Step committed call s') (inner : Inner (.session call : Request ε)) :
    s'.Active base := by
  have sound := h.sound.step step
  rw [begins_of_open h.working, if_neg Bool.false_ne_true] at sound
  have written : ∀ {name point outer}, s.savepointsFrom name = point :: outer →
      s.readOnly = true → ∀ p ∈ point :: outer, p.2.writes = [] :=
    fun found readOnly p hp => (h.unwritten readOnly).2 p (mem_of_mem_savepointsFrom (found ▸ hp))
  cases step with
  | stay => exact h
  | put call t r working writable =>
    exact ⟨rfl, sound, fun readOnly => absurd (readOnly.symm.trans writable) nofun⟩
  | savepoint name t working =>
    refine ⟨h.working, sound, fun readOnly => ⟨(h.unwritten readOnly).1, fun p hp => ?_⟩⟩
    rcases List.mem_cons.1 hp with rfl | hp
    · exact (h.unwritten readOnly).1 t working
    · exact (h.unwritten readOnly).2 p hp
  | releaseSavepoint name point outer found =>
    refine ⟨h.working, sound, fun readOnly => ⟨(h.unwritten readOnly).1, fun p hp => ?_⟩⟩
    exact written found readOnly p (List.mem_cons_of_mem _ hp)
  | rollbackToSavepoint name point outer found =>
    refine ⟨rfl, sound, fun readOnly => ⟨fun t ht => ?_, written found readOnly⟩⟩
    cases ht
    exact written found readOnly point List.mem_cons_self
  | begin => exact inner.elim
  | setReadOnly => exact inner.elim
  | commit => exact inner.elim
  | rollback => exact inner.elim
  | release => exact inner.elim

/-- Scoped work leaves its transaction open and written as allowed. -/
theorem Active.traced {p : Action ε α} {trace : List (Exchange ε)} {a : α} (h : s.Active base)
    (ran : Traced p s trace a s') (inner : p.Within Inner fun _ => True) : s'.Active base := by
  induction ran with
  | done => exact h
  | ask answered rest ih =>
    refine ih ?_ (inner.2 _)
    cases answered with
    | opened => exact inner.1.elim
    | refused => exact inner.1.elim
    | call call => exact h.step (Store.step_answer _ _ call) inner.1
    | other => exact h

end Session

/-! ## What scoped work asks for -/

section

variable {ε E α : Type} [WorkError E]

/-- A clean-up makes its call and may report that it failed. -/
theorem within_cleanUp {allowed : Request ε → Prop} (c : Coordinator) (context : String)
    (stage : CleanupStage) {action : Action ε (Except Failure Unit)}
    (within : action.Within allowed fun _ => True)
    (reports : ∀ signal, allowed (.signal signal)) :
    (c.cleanUp context stage action).Within allowed fun _ => True := by
  refine within.bind fun answer _ => ?_
  cases answer with
  | ok u => trivial
  | error f => exact ⟨reports _, fun _ => trivial⟩

theorem inner_inSavepoint (c : Coordinator) (context name : String) {work : Work ε E α}
    (inner : work.run.Within Inner fun _ => True) :
    (c.inSavepoint context name work).run.Within Inner fun _ => True := by
  refine ⟨trivial, fun answer => ?_⟩
  cases answer with
  | error f => trivial
  | ok u =>
    refine inner.bind fun outcome _ => ?_
    cases outcome with
    | ok a =>
      refine ⟨trivial, fun answer => ?_⟩
      cases answer <;> trivial
    | error e =>
      have back : (Action.session (.rollbackToSavepoint name) : Action ε _).Within Inner
          fun _ => True := ⟨trivial, fun _ => trivial⟩
      exact (within_cleanUp c context _ back fun _ => trivial).bind fun _ _ => trivial

/-- Scoped work only makes store calls, works with savepoints and asks elsewhere. -/
theorem Scoped.inner {names : String → Prop} {work : Work ε E α} (h : Scoped names work) :
    work.run.Within Inner fun _ => True := by
  induction h with
  | result r => trivial
  | store call next rest ih => exact ⟨trivial, ih⟩
  | other request off next rest ih =>
    refine ⟨?_, ih⟩
    cases request with
    | openSession => exact off
    | session call => exact off.elim
    | _ => trivial
  | scope c context allowed within next rest ihi ihn =>
    exact (inner_inSavepoint c context _ ihi).bind fun r _ => ihn r

end

/-! ## Traces on one store -/

/-- The trace of an action that has a store to itself, with its value and its session. -/
def Outside.trace {α : Type} (w : Outside) : Action WorkflowEvent α → Session → Store →
    List (Exchange WorkflowEvent) × α × Session
  | .pure a, s, _ => ([], a, s)
  | .call request next, s, σ =>
    let (answer, left, mid) := w.answer σ s request
    let (rest, a, s') := w.trace (next answer) mid left
    (⟨request, answer, σ, left⟩ :: rest, a, s')

theorem Outside.traced {α : Type} (w : Outside) (p : Action WorkflowEvent α) (s : Session)
    (σ : Store) :
    Session.Traced p s (w.trace p s σ).1 (w.trace p s σ).2.1 (w.trace p s σ).2.2 := by
  induction p generalizing s σ with
  | pure a => exact .done a s
  | call request next ih =>
    refine .ask ?_ (ih _ _ _)
    cases request with
    | openSession => exact .opened σ
    | session call => exact .call call σ
    | findMapping | now | draw | sleep | signal | deliver => exact .other (by trivial) _ σ

end Appraisal.Memory
