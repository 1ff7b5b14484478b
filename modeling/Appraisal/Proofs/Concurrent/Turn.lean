import Appraisal.Proofs.Memory.Snapshot
import Appraisal.Proofs.Program
import Appraisal.Workflow.Event

/-!
# Turns

A call advances by turns.  In each turn one request of its program is answered: by its session and
the store, or by the *outside*, which is the clock, the source of random bits and the handlers of
events.  `Goes` follows a program along its turns on a store that nobody else changes.

*Calm requests.*  A request that neither opens a session nor begins or commits a transaction is
calm.  Its answer does not depend on what is committed, so a program that makes only such requests
goes the same way whatever the others do.  `Follows` is `Goes` for calm turns, with no store that
changes, and `Follows.goes` says that it is the same on every store like the first one.
-/

namespace Appraisal.Memory

/-- What the outside would answer in a turn. -/
structure Outside where
  /-- What the clock shows. -/
  now : Instant
  /-- The random bits. -/
  bits : Uuid
  /-- How a handler reacts to an event. -/
  reaction : Except String Unit

/-- The answer to a request, with the store and the session after it. -/
def Outside.answer (w : Outside) (store : Store) (s : Session) :
    (request : Request WorkflowEvent) → request.Answer × Store × Session
  | .openSession => (.ok (), store.openSession.2, store.openSession.1)
  | .session call => store.answer s call
  | .findMapping id => (.ok (store.findMapping id), store, s)
  | .now => (w.now, store, s)
  | .draw => (w.bits, store, s)
  | .sleep _ => ((), store, s)
  | .signal _ => ((), store, s)
  | .deliver _ _ => (w.reaction, store, s)

/-- A request that was answered, and what the outside would have said. -/
structure Turn where
  /-- The request. -/
  request : Request WorkflowEvent
  /-- The outside. -/
  outside : Outside

/-! ## Stores that are alike -/

namespace Store

/-- The store has the same mappings and fails to clean up in the same way. -/
structure Like (origin store : Store) : Prop where
  /-- The mappings are the same. -/
  mappings : store.mappings = origin.mappings
  /-- Rollbacks fail in both or in neither. -/
  failOnRollback : store.faults.failOnRollback = origin.faults.failOnRollback
  /-- Releases fail in both or in neither. -/
  failOnRelease : store.faults.failOnRelease = origin.faults.failOnRelease

/-- The store is like another one, no failures are queued, and its committed tables are known. -/
structure Quiet (origin : Store) (committed : Tables) (store : Store) : Prop
    extends Like origin store where
  /-- The committed tables. -/
  committed_eq : store.committed = committed
  /-- No failure to begin is queued. -/
  onBegin : store.faults.onBegin = []
  /-- No failure to commit is queued. -/
  onCommit : store.faults.onCommit = []

theorem Like.refl (store : Store) : Like store store := ⟨rfl, rfl, rfl⟩

theorem Like.trans {a b c : Store} (first : Like a b) (second : Like b c) : Like a c :=
  ⟨second.mappings.trans first.mappings, second.failOnRollback.trans first.failOnRollback,
    second.failOnRelease.trans first.failOnRelease⟩

/-- What no call changes. -/
theorem like_answer (store : Store) (s : Session) (call : SessionCall) :
    Like store (store.answer s call).2.1 := by
  cases call with
  | begin isolation =>
    simp only [answer, begin]
    split
    · exact ⟨rfl, rfl, rfl⟩
    · split <;> exact ⟨rfl, rfl, rfl⟩
  | setReadOnly => simp only [answer, setReadOnly]; split <;> exact ⟨rfl, rfl, rfl⟩
  | savepoint name =>
    simp only [answer, savepoint]
    split
    · exact ⟨rfl, rfl, rfl⟩
    · split <;> exact ⟨rfl, rfl, rfl⟩
  | releaseSavepoint name =>
    simp only [answer, releaseSavepoint]
    split <;> exact ⟨rfl, rfl, rfl⟩
  | rollbackToSavepoint name =>
    simp only [answer, rollbackToSavepoint]
    split <;> exact ⟨rfl, rfl, rfl⟩
  | commit =>
    simp only [answer, commit]
    split
    · exact ⟨rfl, rfl, rfl⟩
    · split
      · exact ⟨rfl, rfl, rfl⟩
      · split
        · exact ⟨rfl, rfl, rfl⟩
        · simp only [publish]
          split <;> exact ⟨rfl, rfl, rfl⟩
  | rollback => exact ⟨rfl, rfl, rfl⟩
  | release => simp only [answer, release]; split <;> exact ⟨rfl, rfl, rfl⟩
  | store call => exact ⟨rfl, rfl, rfl⟩

end Store

theorem Outside.like_answer (w : Outside) (store : Store) (s : Session)
    (request : Request WorkflowEvent) : store.Like (w.answer store s request).2.1 := by
  cases request with
  | session call => exact store.like_answer s call
  | _ => exact ⟨rfl, rfl, rfl⟩

/-! ## Calm requests -/

/-- The request neither opens a session nor begins or commits a transaction. -/
def Calm : Request WorkflowEvent → Prop
  | .openSession | .session (.begin _) | .session .commit => False
  | _ => True

/-- A calm request is answered alike by stores that are alike, and changes no more than counts. -/
structure Store.AlikeOn (origin store : Store) (w : Outside) (s : Session)
    (request : Request WorkflowEvent) : Prop where
  /-- The answers are the same. -/
  answer : (w.answer store s request).1 = (w.answer origin s request).1
  /-- So are the sessions after it. -/
  session : (w.answer store s request).2.2 = (w.answer origin s request).2.2
  /-- Nothing is committed. -/
  committed : (w.answer store s request).2.1.committed = store.committed
  /-- No failure is used up. -/
  faults : (w.answer store s request).2.1.faults = store.faults

theorem Store.alikeOn {origin store : Store} (like : origin.Like store) (w : Outside)
    (s : Session) {request : Request WorkflowEvent} (calm : Calm request) :
    origin.AlikeOn store w s request := by
  cases request with
  | openSession => exact calm.elim
  | findMapping id =>
    have same : store.findMapping id = origin.findMapping id := by
      rw [findMapping, findMapping, like.mappings]
    exact ⟨congrArg Except.ok same, rfl, rfl, rfl⟩
  | now => exact ⟨rfl, rfl, rfl, rfl⟩
  | draw => exact ⟨rfl, rfl, rfl, rfl⟩
  | sleep duration => exact ⟨rfl, rfl, rfl, rfl⟩
  | signal signal => exact ⟨rfl, rfl, rfl, rfl⟩
  | deliver place event => exact ⟨rfl, rfl, rfl, rfl⟩
  | session call =>
    cases call with
    | begin isolation => exact calm.elim
    | commit => exact calm.elim
    | setReadOnly =>
      constructor <;> simp only [Outside.answer, answer, setReadOnly] <;> cases s.working <;> rfl
    | savepoint name =>
      constructor <;> simp only [Outside.answer, answer, savepoint] <;>
        cases checkIdentifier name <;> cases s.working <;> rfl
    | releaseSavepoint name =>
      constructor <;> simp only [Outside.answer, answer, releaseSavepoint] <;>
        cases s.savepointsFrom name <;> rfl
    | rollbackToSavepoint name =>
      constructor <;> simp only [Outside.answer, answer, rollbackToSavepoint] <;>
        cases s.savepointsFrom name <;> rfl
    | rollback =>
      constructor <;> simp only [Outside.answer, answer, rollback, like.failOnRollback]
      rfl
    | release =>
      constructor <;> simp only [Outside.answer, answer, release, like.failOnRelease] <;>
        cases s.released <;> rfl
    | store call => exact ⟨rfl, rfl, rfl, rfl⟩

/-- Where no failures are queued, an answer uses none up. -/
theorem Outside.faults_answer (w : Outside) {store : Store} (s : Session)
    (request : Request WorkflowEvent) (onBegin : store.faults.onBegin = [])
    (onCommit : store.faults.onCommit = []) :
    (w.answer store s request).2.1.faults = store.faults := by
  by_cases calm : Calm request
  · exact (Store.alikeOn (.refl store) w s calm).faults
  · cases request with
    | session call =>
      cases call with
      | begin isolation =>
        simp only [answer, Store.answer, Store.begin, onBegin]
        split <;> rfl
      | commit =>
        simp only [answer, Store.answer, Store.commit, onCommit]
        split
        · rfl
        · split
          · rfl
          · simp only [Store.publish]
            split <;> rfl
      | _ => exact absurd trivial calm
    | openSession => rfl
    | _ => exact absurd trivial calm

/-- A calm request leaves a quiet store quiet. -/
theorem Store.Quiet.answer {origin store : Store} {committed : Tables}
    (quiet : Quiet origin committed store) (w : Outside) (s : Session)
    {request : Request WorkflowEvent} (calm : Calm request) :
    Quiet origin committed (w.answer store s request).2.1 where
  toLike := quiet.toLike.trans (w.like_answer store s request)
  committed_eq := (Store.alikeOn quiet.toLike w s calm).committed.trans quiet.committed_eq
  onBegin := by rw [(Store.alikeOn quiet.toLike w s calm).faults, quiet.onBegin]
  onCommit := by rw [(Store.alikeOn quiet.toLike w s calm).faults, quiet.onCommit]

/-! ## Turns in a row -/

/-- A program goes from one state to another by turns that nobody interrupts. -/
inductive Goes {α : Type} : Action WorkflowEvent α → Session → Store → List Turn →
    Action WorkflowEvent α → Session → Store → Prop
  /-- No turn. -/
  | refl (p : Action WorkflowEvent α) (s : Session) (σ : Store) : Goes p s σ [] p s σ
  /-- A turn, and those after it. -/
  | turn {request : Request WorkflowEvent} {next : request.Answer → Action WorkflowEvent α}
    {s s' : Session} {σ σ' : Store} {turns : List Turn} {p' : Action WorkflowEvent α}
    (w : Outside)
    (rest : Goes (next (w.answer σ s request).1) (w.answer σ s request).2.2
      (w.answer σ s request).2.1 turns p' s' σ') :
    Goes (.call request next) s σ (⟨request, w⟩ :: turns) p' s' σ'

/-- A program goes by calm turns.  The store stands for all stores like it. -/
inductive Follows (origin : Store) {α : Type} : Action WorkflowEvent α → Session → List Turn →
    Action WorkflowEvent α → Session → Prop
  /-- No turn. -/
  | refl (p : Action WorkflowEvent α) (s : Session) : Follows origin p s [] p s
  /-- A calm turn, and those after it. -/
  | turn {request : Request WorkflowEvent} {next : request.Answer → Action WorkflowEvent α}
    {s s' : Session} {turns : List Turn} {p' : Action WorkflowEvent α} (w : Outside)
    (calm : Calm request)
    (rest : Follows origin (next (w.answer origin s request).1) (w.answer origin s request).2.2
      turns p' s') :
    Follows origin (.call request next) s (⟨request, w⟩ :: turns) p' s'

section

variable {α β : Type} {origin : Store}

theorem Goes.trans {p p' p'' : Action WorkflowEvent α} {s s' s'' : Session} {σ σ' σ'' : Store}
    {turns turns' : List Turn} (first : Goes p s σ turns p' s' σ')
    (second : Goes p' s' σ' turns' p'' s'' σ'') : Goes p s σ (turns ++ turns') p'' s'' σ'' := by
  induction first with
  | refl => exact second
  | turn w rest ih => exact .turn w (ih second)

theorem Goes.bind {p p' : Action WorkflowEvent α} {s s' : Session} {σ σ' : Store}
    {turns : List Turn} (h : Goes p s σ turns p' s' σ') (f : α → Action WorkflowEvent β) :
    Goes (p >>= f) s σ turns (p' >>= f) s' σ' := by
  induction h with
  | refl => exact .refl _ _ _
  | turn w rest ih => exact .turn w ih

namespace Follows

theorem bind {p p' : Action WorkflowEvent α} {s s' : Session} {turns : List Turn}
    (h : Follows origin p s turns p' s') (f : α → Action WorkflowEvent β) :
    Follows origin (p >>= f) s turns (p' >>= f) s' := by
  induction h with
  | refl => exact .refl _ _
  | turn w calm rest ih => exact .turn w calm ih

/-- What follows on one store goes on every store like it. -/
theorem goes {p p' : Action WorkflowEvent α} {s s' : Session} {turns : List Turn}
    (h : Follows origin p s turns p' s') {σ : Store} {committed : Tables}
    (quiet : Store.Quiet origin committed σ) :
    ∃ σ', Goes p s σ turns p' s' σ' ∧ Store.Quiet origin committed σ' := by
  induction h generalizing σ with
  | refl => exact ⟨σ, .refl _ _ _, quiet⟩
  | @turn request next s s' turns p' w calm rest ih =>
    have alike := Store.alikeOn quiet.toLike w s calm
    obtain ⟨σ', goes, quiet'⟩ := ih (quiet.answer w s calm)
    refine ⟨σ', .turn w ?_, quiet'⟩
    rw [alike.answer, alike.session]
    exact goes

/-- Two programs in a row follow their turns one after the other. -/
theorem bind_pure {p : Action WorkflowEvent α} {f : α → Action WorkflowEvent β} {b : β}
    {s s' : Session} {turns : List Turn}
    (h : Follows origin (p >>= f) s turns (pure b) s') :
    ∃ first a mid second, turns = first ++ second ∧ Follows origin p s first (pure a) mid ∧
      Follows origin (f a) mid second (pure b) s' := by
  induction p generalizing s turns with
  | pure a => exact ⟨[], a, s, turns, rfl, .refl _ _, h⟩
  | call request next ih =>
    cases h with
    | turn w calm rest =>
      obtain ⟨first, a, mid, second, rfl, hp, hf⟩ := ih _ rest
      exact ⟨_ :: first, a, mid, second, rfl, .turn w calm hp, hf⟩

/-- The turns of a program that may make some requests only are such requests. -/
theorem within {p p' : Action WorkflowEvent α} {s s' : Session} {turns : List Turn}
    {allowed : Request WorkflowEvent → Prop} {post : α → Prop}
    (h : Follows origin p s turns p' s') (bound : p.Within allowed post) :
    (∀ turn ∈ turns, allowed turn.request) ∧ p'.Within allowed post := by
  induction h with
  | refl => exact ⟨fun _ h => absurd h List.not_mem_nil, bound⟩
  | @turn request next s s' turns p' w calm rest ih =>
    have later := bound.2 (w.answer origin s request).1
    obtain ⟨all, last⟩ := ih later
    refine ⟨fun turn ht => ?_, last⟩
    rcases List.mem_cons.1 ht with rfl | ht
    · exact bound.1
    · exact all turn ht

theorem of_pure {a b : α} {s s' : Session} {turns : List Turn}
    (h : Follows origin (pure a) s turns (pure b) s') : turns = [] ∧ b = a ∧ s' = s := by
  cases h
  exact ⟨rfl, rfl, rfl⟩

end Follows

end

end Appraisal.Memory
