import Appraisal.Proofs.Memory.Snapshot
import Appraisal.Transaction.Coordinator

/-!
# Work in savepoints

`Session.Runs` follows an action on one session.  Nothing is said about the store, which other
sessions may change between any two calls, nor about the answers to other requests.

*Scopes.*  `Scoped` is work made of store calls and of further work in savepoints, whose errors it
may handle or hand on.  Whatever it does, it only stacks savepoints on those that it finds
(`Scoped.inside`): a scope that fails leaves its savepoint behind, and one that succeeds releases a
savepoint of its own name.

*Failing scopes.*  A failing scope goes back to the innermost savepoint of its name.  That is its
own one unless an inner scope of the same name has failed.  `inSavepoint_error_iff` says exactly
when the transaction is as before, and `not_inSavepoint_atomic` that it need not be.
-/

namespace Appraisal.Memory

/-! ## Runs on a session -/

/-- The request is made neither to a session nor to open one. -/
def away {ε : Type} : Request ε → Prop
  | .openSession | .session _ => False
  | _ => True

/-- An action may run on a session to a value and leave the session as given.  Each call may find
any store. -/
inductive Session.Runs {ε α : Type} : Action ε α → Session → α → Session → Prop
  /-- The action has ended. -/
  | done (a : α) (s : Session) : Runs (.pure a) s a s
  /-- A call on the session, and the rest. -/
  | call {call : SessionCall} {next : call.Answer → Action ε α} {s s' : Session} {a : α}
    (store : Store)
    (rest : Runs (next (store.answer s call).1) (store.answer s call).2.2 a s') :
    Runs (.call (.session call) next) s a s'
  /-- Another request, and the rest. -/
  | other {request : Request ε} {next : request.Answer → Action ε α} {s s' : Session} {a : α}
    (off : away request) (answer : request.Answer) (rest : Runs (next answer) s a s') :
    Runs (.call request next) s a s'

namespace Session.Runs

variable {ε α β : Type} {s s' : Session}

theorem pure_iff {a b : α} : Runs (pure a : Action ε α) s b s' ↔ b = a ∧ s' = s := by
  constructor
  · rintro ⟨⟩
    exact ⟨rfl, rfl⟩
  · rintro ⟨rfl, rfl⟩
    exact .done _ _

theorem call_iff {call : SessionCall} {next : call.Answer → Action ε α} {a : α} :
    Runs (.call (.session call) next) s a s' ↔
      ∃ store : Store,
        Runs (next (store.answer s call).1) (store.answer s call).2.2 a s' := by
  constructor
  · intro h
    cases h with
    | call store rest => exact ⟨store, rest⟩
    | other off => exact off.elim
  · rintro ⟨store, rest⟩
    exact .call store rest

theorem other_iff {request : Request ε} {next : request.Answer → Action ε α} {a : α}
    (off : away request) :
    Runs (.call request next) s a s' ↔ ∃ answer, Runs (next answer) s a s' := by
  constructor
  · intro h
    cases h with
    | call => exact off.elim
    | other _ answer rest => exact ⟨answer, rest⟩
  · rintro ⟨answer, rest⟩
    exact .other off answer rest

theorem bind_iff {p : Action ε α} {f : α → Action ε β} {b : β} :
    Runs (p >>= f) s b s' ↔ ∃ a mid, Runs p s a mid ∧ Runs (f a) mid b s' := by
  constructor
  · intro h
    induction p generalizing s with
    | pure a => exact ⟨a, s, .done a s, h⟩
    | call request next ih =>
      cases h with
      | call store rest =>
        obtain ⟨a, mid, first, second⟩ := ih _ rest
        exact ⟨a, mid, .call store first, second⟩
      | other off answer rest =>
        obtain ⟨a, mid, first, second⟩ := ih _ rest
        exact ⟨a, mid, .other off answer first, second⟩
  · rintro ⟨a, mid, first, second⟩
    induction first with
    | done a s => exact second
    | call store rest ih => exact .call store (ih second)
    | other off answer rest ih => exact .other off answer (ih second)

theorem session_iff {call : SessionCall} {a : call.Answer} :
    Runs (Action.session call : Action ε call.Answer) s a s' ↔
      ∃ store : Store, a = (store.answer s call).1 ∧ s' = (store.answer s call).2.2 := by
  constructor
  · intro h
    obtain ⟨store, rest⟩ := call_iff.1 h
    exact ⟨store, pure_iff.1 rest⟩
  · rintro ⟨store, rfl, rfl⟩
    exact .call store (.done _ _)

end Session.Runs

/-! ## Savepoints that stack up -/

/-- The transaction of the innermost savepoint with a name. -/
def Savepoints.innermost (points : Savepoints) (name : String) : Option Transaction :=
  (points.find? fun p => p.1 == name).map (·.2)

/-- The session with a savepoint of its transaction. -/
def Session.saved (s : Session) (name : String) (t : Transaction) : Session :=
  { s with savepoints := (name, t) :: s.savepoints }

/-- The second session may come of the first by work in its transaction.  What stacked up on the
savepoints has names as described. -/
structure Session.Inside (names : String → Prop) (s s' : Session) : Prop where
  /-- A transaction is open as before. -/
  working : s.working.isSome → s'.working.isSome
  /-- Savepoints are only added. -/
  savepoints : ∃ left : Savepoints, s'.savepoints = left ++ s.savepoints ∧ ∀ p ∈ left, names p.1
  /-- It may write as before. -/
  readOnly : s'.readOnly = s.readOnly
  /-- It is held as before. -/
  released : s'.released = s.released

namespace Session

theorem Inside.refl (names : String → Prop) (s : Session) : Inside names s s :=
  ⟨id, ⟨[], rfl, nofun⟩, rfl, rfl⟩

theorem Inside.trans {names : String → Prop} {s u v : Session} (first : Inside names s u)
    (second : Inside names u v) : Inside names s v where
  working := second.working ∘ first.working
  savepoints := by
    obtain ⟨left, hl, named⟩ := first.savepoints
    obtain ⟨more, hm, named'⟩ := second.savepoints
    refine ⟨more ++ left, by rw [hm, hl, List.append_assoc], fun p hp => ?_⟩
    rcases List.mem_append.1 hp with hp | hp
    · exact named' p hp
    · exact named p hp
  readOnly := second.readOnly.trans first.readOnly
  released := second.released.trans first.released

/-- A store call works inside the transaction. -/
theorem inside_store (names : String → Prop) (s : Session) (call : StoreCall) :
    Inside names s (s.store call).2 := by
  rcases s.store_cases call with ⟨-, same⟩ | ⟨t, r, -, -, -, -, after⟩
  · rw [same]
    exact .refl names s
  · rw [after]
    exact ⟨fun _ => rfl, ⟨[], rfl, nofun⟩, rfl, rfl⟩

/-- What is found under a name, if a savepoint of that name lies under what stacked up.  The last
fact counts the savepoint that was found among what stacked up, or it is the one underneath. -/
theorem savepointsFrom_append {s : Session} {left σ : Savepoints} {name : String}
    {t : Transaction} (h : s.savepoints = left ++ (name, t) :: σ) :
    ∃ more, s.savepointsFrom name = (name, (left.innermost name).getD t) :: more ∧
      (more = σ ∨ ∃ part : Savepoints, more = part ++ (name, t) :: σ ∧ part.Sublist left) := by
  rw [savepointsFrom, h]
  clear h
  induction left with
  | nil => exact ⟨σ, by simp [Savepoints.innermost], .inl rfl⟩
  | cons p left ih =>
    rw [List.cons_append]
    by_cases hp : p.1 = name
    · obtain ⟨n, u⟩ := p
      cases hp
      refine ⟨left ++ (n, t) :: σ, by simp [Savepoints.innermost], .inr ⟨left, rfl, ?_⟩⟩
      exact List.sublist_cons_self _ _
    · obtain ⟨more, found, rest⟩ := ih
      have skip : Savepoints.innermost (p :: left) name = Savepoints.innermost left name := by
        simp [Savepoints.innermost, hp]
      refine ⟨more, ?_, ?_⟩
      · rw [List.dropWhile_cons_of_pos (by simpa using hp), skip]
        exact found
      · rcases rest with same | ⟨part, split, sub⟩
        · exact .inl same
        · exact .inr ⟨part, split, sub.cons p⟩

end Session

/-! ## Scoped work -/

section

open Coordinator Session

variable {ε E α : Type} [WorkError E]

/-- Work made of store calls, of requests made elsewhere, and of work in savepoints with names as
described.  What comes after a savepoint may depend on whether the work in it failed. -/
inductive Scoped {ε E : Type} [WorkError E] (names : String → Prop) : {α : Type} → Work ε E α → Prop
  /-- A value or an error. -/
  | result {α : Type} (r : Except E α) : Scoped names (ExceptT.mk (pure r))
  /-- A store call, and what follows its answer. -/
  | store {α : Type} (call : StoreCall) (next : Except Failure call.Value → Work ε E α)
    (rest : ∀ r, Scoped names (next r)) :
    Scoped names (ExceptT.mk (Action.session (.store call) >>= fun r => (next r).run))
  /-- Another request, and what follows its answer. -/
  | other {α : Type} (request : Request ε) (off : away request)
    (next : request.Answer → Work ε E α) (rest : ∀ r, Scoped names (next r)) :
    Scoped names (ExceptT.mk (.call request fun r => (next r).run))
  /-- Work in a savepoint, and what follows its outcome. -/
  | scope {α β : Type} (c : Coordinator) (context : String) {name : String} (allowed : names name)
    {inner : Work ε E β} (within : Scoped names inner) (next : Except E β → Work ε E α)
    (rest : ∀ r, Scoped names (next r)) :
    Scoped names (ExceptT.mk ((c.inSavepoint context name inner).run >>= fun r => (next r).run))

namespace Scoped

variable {names : String → Prop}

theorem ofStore (call : StoreCall) : Scoped names (Work.store call : Work ε E call.Value) := by
  have h : Scoped names (ExceptT.mk (Action.session (.store call) >>= fun r =>
      (ExceptT.mk (pure (r.mapError OfFailure.ofFailure)) : Work ε E call.Value).run)) :=
    .store call _ fun r => .result _
  have same : ExceptT.mk (Action.session (.store call) >>= fun r =>
      (ExceptT.mk (pure (r.mapError OfFailure.ofFailure)) : Work ε E call.Value).run) =
        Work.store call := by
    refine congrArg (fun next => ExceptT.mk (Program.bind (Action.session (.store call)) next))
      (funext fun r => ?_)
    cases r <;> rfl
  rw [same] at h
  exact h

theorem inSavepoint (c : Coordinator) (context : String) {name : String} (allowed : names name)
    {work : Work ε E α} (within : Scoped names work) :
    Scoped names (c.inSavepoint context name work) := by
  have h := Scoped.scope c context allowed within (fun r => ExceptT.mk (pure r)) fun r => .result r
  have same : ExceptT.mk ((c.inSavepoint context name work).run >>= fun r =>
      (ExceptT.mk (pure r) : Work ε E α).run) = c.inSavepoint context name work :=
    Program.bind_pure _
  rw [same] at h
  exact h

/-- Scoped work in a row is scoped. -/
theorem bind {β : Type} {work : Work ε E α} {f : α → Work ε E β} (h : Scoped names work)
    (hf : ∀ a, Scoped names (f a)) : Scoped names (work >>= f) := by
  induction h with
  | result r =>
    cases r with
    | ok a => exact hf a
    | error e => exact .result (.error e)
  | store call next rest ih => exact .store call (fun r => next r >>= f) fun r => ih r hf
  | other request off next rest ih =>
    exact .other request off (fun r => next r >>= f) fun r => ih r hf
  | @scope α β c context name allowed inner within next rest _ ih =>
    have h := Scoped.scope c context allowed within (fun r => next r >>= f) fun r => ih r hf
    have same : (ExceptT.mk ((c.inSavepoint context name inner).run >>= fun r => (next r).run) >>=
        f) = ExceptT.mk ((c.inSavepoint context name inner).run >>= fun r => (next r >>= f).run) :=
      Program.bind_assoc _ _ _
    rw [same]
    exact h

end Scoped

theorem savepoint_eq (store : Store) {s : Session} {name : String} {t : Transaction}
    (working : s.working = some t) (valid : checkIdentifier name = .ok ()) :
    store.savepoint s name = (.ok (), store, s.saved name t) := by
  obtain ⟨open_, savepoints, readOnly, released⟩ := s
  cases working
  rw [Store.savepoint, valid]
  rfl

theorem rollbackToSavepoint_eq (store : Store) {s : Session} {name : String}
    {point : String × Transaction} {outer : Savepoints}
    (found : s.savepointsFrom name = point :: outer) :
    (store.rollbackToSavepoint s name).1 = .ok () ∧
      (store.rollbackToSavepoint s name).2.2 =
        { s with working := some point.2, savepoints := point :: outer } := by
  rw [Store.rollbackToSavepoint, found]
  exact ⟨rfl, rfl⟩

/-- Cleaning up leaves the session as its call did, whether that failed or not. -/
theorem runs_cleanUp {c : Coordinator} {context : String} {stage : CleanupStage}
    {action : Action ε (Except Failure Unit)} {s s' : Session} {u : Unit}
    (ran : Runs (c.cleanUp context stage action) s u s') : ∃ answer, Runs action s answer s' := by
  obtain ⟨answer, mid, called, rest⟩ := Runs.bind_iff.1 ran
  cases answer with
  | ok v =>
    obtain ⟨-, rfl⟩ := Runs.pure_iff.1 rest
    exact ⟨_, called⟩
  | error f =>
    have off : away (.signal (c.sink.signal ⟨context, stage, f.message⟩) : Request ε) := trivial
    obtain ⟨v, reported⟩ := (Runs.other_iff off).1 rest
    obtain ⟨-, rfl⟩ := Runs.pure_iff.1 reported
    exact ⟨_, called⟩

/-- How work in a savepoint runs where a savepoint can be set. -/
theorem runs_inSavepoint {c : Coordinator} {context name : String} {work : Work ε E α}
    {s s' : Session} {t : Transaction} {r : Except E α} (working : s.working = some t)
    (valid : checkIdentifier name = .ok ())
    (ran : Runs (c.inSavepoint context name work).run s r s') :
    ∃ r₀ s₀, Runs work.run (s.saved name t) r₀ s₀ ∧
      match r₀ with
      | .ok a =>
        ∃ store : Store, s' = (store.releaseSavepoint s₀ name).2.2 ∧
          ((store.releaseSavepoint s₀ name).1 = .ok () → r = .ok a)
      | .error e => r = .error e ∧ ∃ store : Store, s' = (store.rollbackToSavepoint s₀ name).2.2 := by
  rw [inSavepoint, ExceptT.run_mk] at ran
  obtain ⟨answer, s₁, set, ran⟩ := Runs.bind_iff.1 ran
  obtain ⟨store, rfl, rfl⟩ := Runs.session_iff.1 set
  have hs : store.answer s (.savepoint name) = (.ok (), store, s.saved name t) :=
    savepoint_eq store working valid
  rw [hs] at ran
  obtain ⟨r₀, s₀, inner, ran⟩ := Runs.bind_iff.1 ran
  refine ⟨r₀, s₀, inner, ?_⟩
  cases r₀ with
  | ok a =>
    obtain ⟨answer, s₂, released, ran⟩ := Runs.bind_iff.1 ran
    obtain ⟨store, rfl, rfl⟩ := Runs.session_iff.1 released
    refine ⟨store, ?_, fun done => ?_⟩
    · cases hr : (store.answer s₀ (.releaseSavepoint name)).1 with
      | ok u => rw [hr] at ran; exact (Runs.pure_iff.1 ran).2
      | error f => rw [hr] at ran; exact (Runs.pure_iff.1 ran).2
    · have hr : (store.answer s₀ (.releaseSavepoint name)).1 = .ok () := done
      rw [hr] at ran
      exact (Runs.pure_iff.1 ran).1
  | error e =>
    obtain ⟨u, s₂, rolled, ran⟩ := Runs.bind_iff.1 ran
    obtain ⟨rfl, rfl⟩ := Runs.pure_iff.1 ran
    refine ⟨rfl, ?_⟩
    obtain ⟨answer, called⟩ := runs_cleanUp rolled
    obtain ⟨store, -, after⟩ := Runs.session_iff.1 called
    exact ⟨store, after⟩

/-- The savepoint of a scope is under what its work stacks up. -/
theorem Session.Inside.of_saved {names : String → Prop} {s s₀ : Session} {name : String}
    {t : Transaction} (h : Inside names (s.saved name t) s₀) :
    ∃ left : Savepoints, s₀.savepoints = left ++ (name, t) :: s.savepoints ∧ ∀ p ∈ left, names p.1 :=
  h.savepoints

/-- Releasing the savepoint of a scope leaves what is inside the transaction. -/
theorem Session.Inside.release {names : String → Prop} {s s₀ : Session} {name : String}
    {t : Transaction} (h : Inside names (s.saved name t) s₀) (allowed : names name)
    (store : Store) : Inside names s (store.releaseSavepoint s₀ name).2.2 := by
  obtain ⟨left, hl, named⟩ := h.of_saved
  obtain ⟨more, found, rest⟩ := savepointsFrom_append hl
  have after : (store.releaseSavepoint s₀ name).2.2 = { s₀ with savepoints := more } := by
    rw [Store.releaseSavepoint, found]
  rw [after]
  refine ⟨h.working, ?_, h.readOnly, h.released⟩
  rcases rest with rfl | ⟨part, rfl, sub⟩
  · exact ⟨[], rfl, fun p hp => absurd hp List.not_mem_nil⟩
  · refine ⟨part ++ [(name, t)], by simp, fun p hp => ?_⟩
    rcases List.mem_append.1 hp with hp | hp
    · exact named p (sub.subset hp)
    · cases List.mem_singleton.1 hp
      exact allowed

/-- Going back to the savepoint of a scope stays inside the transaction, and it restores the
transaction of the innermost savepoint of that name. -/
theorem Session.Inside.rollback {names : String → Prop} {s s₀ : Session} {name : String}
    {t : Transaction} {left : Savepoints} (h : Inside names (s.saved name t) s₀)
    (hl : s₀.savepoints = left ++ (name, t) :: s.savepoints) (named : ∀ p ∈ left, names p.1)
    (allowed : names name) (store : Store) :
    Inside names s (store.rollbackToSavepoint s₀ name).2.2 ∧
      (store.rollbackToSavepoint s₀ name).2.2.working =
        some ((Savepoints.innermost left name).getD t) := by
  obtain ⟨more, found, rest⟩ := savepointsFrom_append hl
  rw [(rollbackToSavepoint_eq store found).2]
  refine ⟨⟨fun _ => rfl, ?_, h.readOnly, h.released⟩, rfl⟩
  rcases rest with rfl | ⟨part, rfl, sub⟩
  · refine ⟨[(name, (Savepoints.innermost left name).getD t)], rfl, fun p hp => ?_⟩
    cases List.mem_singleton.1 hp
    exact allowed
  · refine ⟨(name, (Savepoints.innermost left name).getD t) :: (part ++ [(name, t)]), by simp,
      fun p hp => ?_⟩
    simp only [List.mem_cons, List.mem_append, List.not_mem_nil, or_false] at hp
    rcases hp with rfl | hp | rfl
    · exact allowed
    · exact named p (sub.subset hp)
    · exact allowed

/-- Work in a savepoint that cannot be set leaves the session as it is. -/
theorem runs_inSavepoint_invalid {c : Coordinator} {context name : String} {work : Work ε E α}
    {s s' : Session} {r : Except E α} {f : Failure} (invalid : checkIdentifier name = .error f)
    (ran : Runs (c.inSavepoint context name work).run s r s') : s' = s := by
  rw [inSavepoint, ExceptT.run_mk] at ran
  obtain ⟨answer, s₁, set, ran⟩ := Runs.bind_iff.1 ran
  obtain ⟨store, rfl, rfl⟩ := Runs.session_iff.1 set
  have hs : store.answer s (.savepoint name) = (.error f, store, s) := by
    show store.savepoint s name = _
    rw [Store.savepoint, invalid]
    rfl
  rw [hs] at ran
  exact (Runs.pure_iff.1 ran).2

/-- Scoped work stays inside the transaction. -/
theorem Scoped.inside {names : String → Prop} {work : Work ε E α} (h : Scoped names work)
    {s s' : Session} {r : Except E α} (working : s.working.isSome)
    (ran : Runs work.run s r s') : Inside names s s' := by
  induction h generalizing s s' with
  | result r₀ =>
    obtain ⟨-, rfl⟩ := Runs.pure_iff.1 ran
    exact .refl names s'
  | store call next rest ih =>
    obtain ⟨answer, mid, called, ran⟩ := Runs.bind_iff.1 ran
    obtain ⟨store, rfl, rfl⟩ := Runs.session_iff.1 called
    have first := s.inside_store names call
    exact first.trans (ih _ (first.working working) ran)
  | other request off next rest ih =>
    obtain ⟨answer, ran⟩ := (Runs.other_iff off).1 ran
    exact ih answer working ran
  | @scope α β c context name allowed inner within next rest ihi ihn =>
    obtain ⟨outcome, mid, scope, ran⟩ := Runs.bind_iff.1 ran
    suffices first : Inside names s mid from first.trans (ihn outcome (first.working working) ran)
    obtain ⟨t, ht⟩ := Option.isSome_iff_exists.1 working
    cases valid : checkIdentifier name with
    | error f =>
      rw [runs_inSavepoint_invalid valid scope]
      exact .refl names s
    | ok u =>
      obtain ⟨r₀, s₀, ran₀, ended⟩ := runs_inSavepoint ht valid scope
      have body : Inside names (s.saved name t) s₀ := ihi (by rw [saved]; exact working) ran₀
      cases r₀ with
      | ok b =>
        obtain ⟨store, rfl, -⟩ := ended
        exact body.release allowed store
      | error e =>
        obtain ⟨-, store, rfl⟩ := ended
        obtain ⟨left, hl, named⟩ := body.of_saved
        exact (body.rollback hl named allowed store).1

/-! ## Scopes that fail -/

/-- Savepoints do not matter to a commit. -/
theorem commit_congr (store : Store) {s s' : Session} {t : Transaction}
    (working : s.working = some t) (working' : s'.working = some t)
    (readOnly : s'.readOnly = s.readOnly) (released : s'.released = s.released) :
    store.commit s' = store.commit s := by
  have same : s'.discard = s.discard := by rw [Session.discard, Session.discard, released]
  simp only [Store.commit, working, working', readOnly, same]

/-- A scope fails only with the error of its work.  It stays inside the transaction and restores
the innermost savepoint of its name, which is its own one unless another is left over. -/
theorem inSavepoint_error {names : String → Prop} {c : Coordinator} {context name : String}
    {work : Work ε E α} {s s' : Session} {t : Transaction} {e : E} (within : Scoped names work)
    (working : s.working = some t) (valid : checkIdentifier name = .ok ())
    (ran : Runs (c.inSavepoint context name work).run s (.error e) s') :
    ∃ (s₀ : Session) (left : Savepoints),
      Runs work.run (s.saved name t) (.error e) s₀ ∧
      s₀.savepoints = left ++ (name, t) :: s.savepoints ∧ (∀ p ∈ left, names p.1) ∧
      s'.working = some ((Savepoints.innermost left name).getD t) ∧
      s'.readOnly = s.readOnly ∧ s'.released = s.released := by
  obtain ⟨r₀, s₀, ran₀, ended⟩ := runs_inSavepoint working valid ran
  have body : Inside names (s.saved name t) s₀ :=
    within.inside (by rw [saved, working]; rfl) ran₀
  obtain ⟨left, hl, named⟩ := body.of_saved
  cases r₀ with
  | ok a =>
    obtain ⟨store, -, value⟩ := ended
    obtain ⟨more, found, -⟩ := savepointsFrom_append hl
    have done : (store.releaseSavepoint s₀ name).1 = .ok () := by
      rw [Store.releaseSavepoint, found]
    cases value done
  | error e₀ =>
    obtain ⟨same, store, rfl⟩ := ended
    cases same
    have widen : Inside (fun n => names n ∨ n = name) (s.saved name t) s₀ :=
      ⟨body.working, ⟨left, hl, fun p hp => .inl (named p hp)⟩, body.readOnly, body.released⟩
    obtain ⟨inside, restored⟩ :=
      widen.rollback hl (fun p hp => .inl (named p hp)) (.inr rfl) store
    exact ⟨s₀, left, ran₀, hl, named, restored, inside.readOnly, inside.released⟩

/-- A scope that fails restores the transaction that it found, if the scopes inside it have other
names.  A commit is then what it would have been without the scope. -/
theorem inSavepoint_atomic {names : String → Prop} {c : Coordinator} {context name : String}
    {work : Work ε E α} {s s' : Session} {t : Transaction} {e : E} (within : Scoped names work)
    (other : ¬ names name) (working : s.working = some t) (valid : checkIdentifier name = .ok ())
    (ran : Runs (c.inSavepoint context name work).run s (.error e) s') :
    s'.working = some t ∧ ∀ store : Store, store.commit s' = store.commit s := by
  obtain ⟨s₀, left, -, -, named, restored, readOnly, released⟩ :=
    inSavepoint_error within working valid ran
  have none : Savepoints.innermost left name = none := by
    simp only [Savepoints.innermost, Option.map_eq_none_iff, List.find?_eq_none]
    intro p hp same
    exact other (beq_iff_eq.1 same ▸ named p hp)
  rw [none] at restored
  exact ⟨restored, fun store => commit_congr store working restored readOnly released⟩

/-- A scope that fails restores the transaction that it found exactly if no savepoint of its name
is left over from inside it, or the innermost one left over was set on that very transaction.  A
commit is then what it would have been without the scope. -/
theorem inSavepoint_error_iff {names : String → Prop} {c : Coordinator} {context name : String}
    {work : Work ε E α} {s s' : Session} {t : Transaction} {e : E} (within : Scoped names work)
    (working : s.working = some t) (valid : checkIdentifier name = .ok ())
    (ran : Runs (c.inSavepoint context name work).run s (.error e) s') :
    ∃ (s₀ : Session) (left : Savepoints),
      Runs work.run (s.saved name t) (.error e) s₀ ∧
      s₀.savepoints = left ++ (name, t) :: s.savepoints ∧ (∀ p ∈ left, names p.1) ∧
      (s'.working = some t ↔ ∀ u, Savepoints.innermost left name = some u → u = t) ∧
      (s'.working = some t → ∀ store : Store, store.commit s' = store.commit s) := by
  obtain ⟨s₀, left, ran₀, hl, named, restored, readOnly, released⟩ :=
    inSavepoint_error within working valid ran
  refine ⟨s₀, left, ran₀, hl, named, ?_, fun same store =>
    commit_congr store working same readOnly released⟩
  rw [restored]
  cases Savepoints.innermost left name with
  | none => simp
  | some u => simp

/-- The run of a scope whose work fails. -/
theorem Session.Runs.inSavepoint {c : Coordinator} {context name : String} {work : Work ε E α}
    {s s₀ : Session} {t : Transaction} {e : E} (working : s.working = some t)
    (valid : checkIdentifier name = .ok ()) (ran : Runs work.run (s.saved name t) (.error e) s₀)
    {more : Savepoints} {u : Transaction} (found : s₀.savepointsFrom name = (name, u) :: more) :
    Runs (c.inSavepoint context name work).run s (.error e)
      { s₀ with working := some u, savepoints := (name, u) :: more } := by
  rw [Coordinator.inSavepoint, ExceptT.run_mk, bind_iff]
  have saved := savepoint_eq default working valid
  obtain ⟨rolled, back⟩ := rollbackToSavepoint_eq default found
  refine ⟨.ok (), s.saved name t, session_iff.2 ⟨default, ?_, ?_⟩, bind_iff.2 ?_⟩
  · exact (congrArg Prod.fst saved).symm
  · exact (congrArg (·.2.2) saved).symm
  · refine ⟨.error e, s₀, ran, bind_iff.2 ⟨(), _, bind_iff.2 ?_, .done _ _⟩⟩
    refine ⟨.ok (), _, session_iff.2 ⟨default, ?_, ?_⟩, .done _ _⟩
    · exact rolled.symm
    · exact back.symm

/-- Work that stores a record and then fails inside a savepoint. -/
def saveThenFail (c : Coordinator) (name : String) (record : ApprovalRecord) (e : E) :
    Work ε E Unit := do
  Work.saveApproval record
  c.inSavepoint "inner" name (throw e)

theorem scoped_saveThenFail {names : String → Prop} (c : Coordinator) {name : String}
    (allowed : names name) (record : ApprovalRecord) (e : E) :
    Scoped names (saveThenFail c name record e : Work ε E Unit) :=
  (Scoped.ofStore (.saveApproval record)).bind fun _ =>
    .inSavepoint c "inner" allowed (.result (.error e))

/-- A scope in which nothing is done but fail leaves its savepoint behind. -/
theorem runs_failing (c : Coordinator) (context : String) {name : String} (e : E) {s : Session}
    {t : Transaction} (working : s.working = some t) (valid : checkIdentifier name = .ok ()) :
    Runs (c.inSavepoint context name (throw e : Work ε E Unit)).run s (.error e)
      (s.saved name t) := by
  have ran : Runs (throw e : Work ε E Unit).run (s.saved name t) (.error e) (s.saved name t) :=
    .done _ _
  have found : (s.saved name t).savepointsFrom name = (name, t) :: s.savepoints :=
    List.dropWhile_cons_of_neg (by simp)
  have h : Runs (c.inSavepoint context name (throw e : Work ε E Unit)).run s (.error e) _ :=
    Runs.inSavepoint working valid ran found
  rw [saved, ← working] at h
  exact h

/-- If both scopes have the same name, the record is still there when both have failed. -/
theorem runs_saveThenFail (c : Coordinator) (context : String) {name : String}
    (record : ApprovalRecord) (e : E) {s : Session} {t : Transaction}
    (working : s.working = some t) (writable : s.readOnly = false)
    (valid : checkIdentifier name = .ok ()) :
    Runs (c.inSavepoint context name (saveThenFail c name record e : Work ε E Unit)).run s
      (.error e)
      (((s.saved name t).withTransaction (t.saveApproval record)).saved name
        (t.saveApproval record)) := by
  have stored : (s.saved name t).store (.saveApproval record) =
      (.ok (), (s.saved name t).withTransaction (t.saveApproval record)) := by
    have hw : (s.saved name t).writable = .ok t := writable_eq_ok_iff.2 ⟨writable, working⟩
    simp only [Session.store, Session.write, hw]
  have ran : Runs (saveThenFail c name record e : Work ε E Unit).run (s.saved name t) (.error e)
      (((s.saved name t).withTransaction (t.saveApproval record)).saved name
        (t.saveApproval record)) := by
    rw [saveThenFail, ExceptT.run_bind, Runs.bind_iff]
    refine ⟨.ok (), (s.saved name t).withTransaction (t.saveApproval record), ?_, ?_⟩
    · refine Runs.bind_iff.2 ⟨.ok (), _, Runs.session_iff.2 ⟨default, ?_, ?_⟩, .done _ _⟩
      · exact (congrArg Prod.fst stored).symm
      · exact (congrArg Prod.snd stored).symm
    · exact runs_failing c "inner" e rfl valid
  exact Runs.inSavepoint working valid ran (List.dropWhile_cons_of_neg (by simp))

/-- A scope that fails need not restore the transaction that it found. -/
theorem not_inSavepoint_atomic :
    ¬ ∀ (c : Coordinator) (context name : String) (work : Work Unit RunError Unit)
      (s s' : Session) (t : Transaction) (e : RunError),
      Scoped (fun _ => True) work → s.working = some t → checkIdentifier name = .ok () →
      Runs (c.inSavepoint context name work).run s (.error e) s' → s'.working = some t := by
  intro atomic
  have kept := atomic default "outer" "sp" (saveThenFail default "sp" (.fresh default default)
      (.storage (.other "rejected")))
    (Session.withTransaction default (.start default)) _ (.start default) _
    (scoped_saveThenFail default trivial _ _) rfl rfl
    (runs_saveThenFail default "outer" (.fresh default default) _ rfl rfl rfl)
  have none : ((Transaction.start default).saveApproval (.fresh default default)).writes = [] :=
    congrArg Transaction.writes (Option.some.inj kept)
  cases none

/-- The failing scopes of `not_inSavepoint_atomic` leave a savepoint that holds the record. -/
theorem inSavepoint_error_iff_kept :
    ∃ (s₀ : Session) (left : Savepoints),
      Runs (saveThenFail default "sp" (.fresh default default)
          (.storage (.other "rejected")) : Work Unit RunError Unit).run
        (Session.saved (Session.withTransaction default (.start default)) "sp" (.start default))
        (.error (.storage (.other "rejected"))) s₀ ∧
      s₀.savepoints = left ++ [("sp", .start default)] ∧ (∀ p ∈ left, p.1 = "sp") ∧
      ¬ ∀ u, Savepoints.innermost left "sp" = some u → u = .start default := by
  have within : Scoped (· = "sp") (saveThenFail default "sp" (.fresh default default)
      (.storage (.other "rejected")) : Work Unit RunError Unit) :=
    scoped_saveThenFail default (by rfl) _ _
  have ran : Runs (Coordinator.inSavepoint default "outer" "sp"
      (saveThenFail default "sp" (.fresh default default) (.storage (.other "rejected")) :
        Work Unit RunError Unit)).run
      (Session.withTransaction default (.start default)) _ _ :=
    runs_saveThenFail default "outer" (.fresh default default) _ rfl rfl rfl
  obtain ⟨s₀, left, ran₀, savepoints, named, kept, -⟩ :=
    inSavepoint_error_iff within rfl rfl ran
  refine ⟨s₀, left, ran₀, savepoints, named, fun all => ?_⟩
  have none : ((Transaction.start default).saveApproval (.fresh default default)).writes = [] :=
    congrArg Transaction.writes (Option.some.inj (kept.2 all))
  cases none

end

end Appraisal.Memory
