import Appraisal.Proofs.Concurrent.System
import Appraisal.Proofs.Workflow.Footprint
import Appraisal.Proofs.Workflow.Plain

/-!
# The tale of a call

What can be said of a call at any time, however the others interfere.  A call is *settled* when its
transaction has ended with a value or with an error that is handed back, or when it was refused
before it opened a session.  Until then it has neither published nor handed on anything
(`Tale.unsettled`).

From then on (`Settled.done`) its work stands for a run on certain committed tables, and the turns
that it has kept are its turns when it is made on a quiet store with these tables.  If it published,
these are the tables that its commit found, although the work ran on an older snapshot: it had read
only rows that it wrote, which have not changed, and requests, which never change.

`Safe` is the statement that the tale stays true whatever stores the call finds, by recursion on
what is left of its program.  The lemmas follow the program from its start to its end.
-/

namespace Appraisal.Memory

open Workflow

/-! ## What a call may find -/

/-- The committed tables that the call's transaction began on. -/
def Progress.base (b : Progress) : Tables :=
  match b.span with
  | some span => span.1
  | none => default

/-- A store that a call may find in a turn. -/
structure Admits (origin : Store) (b : Progress) (store : Store) : Prop where
  /-- The store is like the one of the start. -/
  like : origin.Like store
  /-- Rows stand under their own keys. -/
  keyed : store.committed.Keyed
  /-- The session works on a copy of the tables that its transaction began on. -/
  sound : b.session.Sound b.base
  /-- These have evolved into the committed tables. -/
  evolves : b.session.working.isSome → b.base.Evolves store.committed

/-- The progress after some calm turns. -/
def Progress.after (b : Progress) (turns : List Turn) (s : Session) : Progress :=
  { b with session := s, account := turns.foldl Account.add b.account }

/-- No transaction begins with a calm request. -/
theorem begins_of_calm {base : Tables} {s : Session} (sound : s.Sound base) (w : Outside)
    (store : Store) {request : Request WorkflowEvent} (calm : Calm request) :
    Session.begins s (w.answer store s request).2.2 = false := by
  cases request with
  | openSession => exact calm.elim
  | session call =>
    have step := store.step_answer s call
    show Session.begins s (store.answer s call).2.2 = false
    generalize (store.answer s call).2.2 = s' at step
    cases step with
    | stay => exact Session.begins_self s
    | begin => exact calm.elim
    | setReadOnly t working => exact Session.begins_of_open (by rw [working]; rfl)
    | put call t r working => exact Session.begins_of_open (by rw [working]; rfl)
    | savepoint name t working => exact Session.begins_of_open (by rw [working]; rfl)
    | releaseSavepoint name point outer found =>
      exact Session.begins_of_open
        (Session.isSome_of_savepointsFrom (fun none => (sound.closed none).1) found)
    | rollbackToSavepoint name point outer found =>
      exact Session.begins_of_open
        (Session.isSome_of_savepointsFrom (fun none => (sound.closed none).1) found)
    | commit => exact Session.begins_of_closed rfl
    | rollback => exact Session.begins_of_closed rfl
    | release => exact Session.begins_of_closed rfl
  | _ => exact Session.begins_self s

theorem begins_commit (store : Store) (s : Session) :
    Session.begins s (store.commit s).2.2 = false := by
  have step := store.step_commit s
  generalize (store.commit s).2.2 = s' at step
  cases step with
  | stay => exact Session.begins_self s
  | commit => exact Session.begins_of_closed rfl

/-- A turn with which no transaction begins and nothing is committed. -/
theorem Progress.next_of_same (b : Progress) (w : Outside) (store : Store)
    (request : Request WorkflowEvent)
    (begun : Session.begins b.session (w.answer store b.session request).2.2 = false)
    (same : (w.answer store b.session request).2.1.committed = store.committed) :
    b.next w store request =
      b.after [⟨request, w⟩] (w.answer store b.session request).2.2 := by
  simp only [next, begun, same, ne_eq, not_true_eq_false, decide_false, Bool.or_false, if_true,
    Bool.false_eq_true, if_false]
  rfl

theorem Progress.next_of_calm {origin store : Store} {b : Progress} (admits : Admits origin b store)
    (w : Outside) {request : Request WorkflowEvent} (calm : Calm request) :
    b.next w store request =
      b.after [⟨request, w⟩] (w.answer origin b.session request).2.2 := by
  have alike := Store.alikeOn admits.like w b.session calm
  have begun := begins_of_calm admits.sound w store calm
  rw [Progress.next_of_same b w store request begun alike.committed, alike.session]

/-! ## Accounts of calm turns -/

namespace Account

variable {a : Account} {turn : Turn}

theorem add_of_opened (opened : a.last ≠ []) (calm : Calm turn.request) :
    a.add turn = { a with last := a.last ++ [turn] } := by
  obtain ⟨request, w⟩ := turn
  have filled : a.last.isEmpty = false := by simpa using opened
  cases request with
  | openSession => exact calm.elim
  | _ => simp only [add, filled, Bool.false_eq_true, if_false]

theorem add_of_unopened (unopened : a.last = []) (calm : Calm turn.request) :
    a.add turn = { a with before := a.before ++ [turn] } := by
  obtain ⟨request, w⟩ := turn
  cases request with
  | openSession => exact calm.elim
  | _ => simp only [add, unopened, List.isEmpty_nil, if_true]

/-- A turn on a session that is open, calm or not. -/
theorem add_session (opened : a.last ≠ []) (call : SessionCall) (w : Outside) :
    a.add ⟨.session call, w⟩ = { a with last := a.last ++ [⟨.session call, w⟩] } := by
  have filled : a.last.isEmpty = false := by simpa using opened
  simp only [add, filled, Bool.false_eq_true, if_false]

/-- The turns are those of before and one more. -/
theorem turns_add : (a.add turn).turns.Perm (turn :: a.turns) := by
  obtain ⟨before, failed, last⟩ := a
  simp only [add]
  split
  · simpa [turns] using List.perm_append_singleton turn (before ++ (failed ++ last))
  · split
    · simp [turns]
    · simpa [turns] using List.perm_append_singleton turn (before ++ (failed ++ last))

theorem mem_turns_add_iff {t : Turn} : t ∈ (a.add turn).turns ↔ t = turn ∨ t ∈ a.turns :=
  turns_add.mem_iff.trans List.mem_cons

theorem mem_turns_add {t : Turn} (h : t ∈ (a.add turn).turns) : t ∈ a.turns ∨ t = turn :=
  (mem_turns_add_iff.1 h).symm

theorem mem_turns_foldl {more : List Turn} {t : Turn} :
    t ∈ (more.foldl add a).turns ↔ t ∈ a.turns ∨ t ∈ more := by
  induction more generalizing a with
  | nil => simp
  | cons turn more ih =>
    rw [List.foldl_cons, ih, mem_turns_add_iff, List.mem_cons, or_comm (a := t = turn), or_assoc]

theorem foldl_add_of_opened {more : List Turn} (opened : a.last ≠ [])
    (calm : ∀ turn ∈ more, Calm turn.request) :
    more.foldl add a = { a with last := a.last ++ more } := by
  induction more generalizing a with
  | nil => simp
  | cons turn more ih =>
    have calm' : ∀ t ∈ more, Calm t.request := fun t ht => calm t (List.mem_cons_of_mem _ ht)
    rw [List.foldl_cons, add_of_opened opened (calm turn List.mem_cons_self), ih (by simp) calm']
    simp

theorem foldl_add_of_unopened {more : List Turn} (unopened : a.last = [])
    (calm : ∀ turn ∈ more, Calm turn.request) :
    more.foldl add a = { a with before := a.before ++ more } := by
  induction more generalizing a with
  | nil => simp
  | cons turn more ih =>
    have calm' : ∀ t ∈ more, Calm t.request := fun t ht => calm t (List.mem_cons_of_mem _ ht)
    rw [List.foldl_cons, add_of_unopened unopened (calm turn List.mem_cons_self),
      ih (by exact unopened) calm']
    simp

end Account

/-! ## The tale -/

/-- Nothing that the call did can be seen by others. -/
structure Progress.Hidden (b : Progress) : Prop where
  /-- No row was published. -/
  unpublished : b.published = false
  /-- No event was handed on and no change was counted. -/
  silent : ∀ turn ∈ b.account.turns, Silent turn.request

theorem Progress.Hidden.requests {b : Progress} (hidden : b.Hidden) :
    ∀ request ∈ b.account.turns.map Turn.request, Silent request := by
  intro request hr
  obtain ⟨turn, ht, rfl⟩ := List.mem_map.1 hr
  exact hidden.silent turn ht

/-- The session on which the work of a job begins. -/
def Session.readied (base : Tables) (readOnly : Bool) : Session := { opened base with readOnly }

/-- The committed tables after a session has committed on those that it began on. -/
def Session.leaves (s : Session) (base : Tables) : Tables :=
  match s.working with
  | some t => base.publish t.tables t.writes
  | none => base

theorem Session.leaves_of_working {s : Session} {t : Transaction} (h : s.working = some t)
    (base : Tables) : s.leaves base = base.publish t.tables t.writes := by
  rw [leaves, h]

/-- The work of a job comes to an outcome on some committed tables and leaves others. -/
inductive Worked {β V : Type} (origin : Store) (j : Job β V) (base : Tables) :
    Except WorkflowError β → Tables → Prop
  /-- The work fails. -/
  | failed {turns : List Turn} {s : Session} {e : WorkflowError}
    (follows : Follows origin j.work.run (.readied base j.options.readOnly) turns
      (pure (.error e)) s) : Worked origin j base (.error e) base
  /-- The work only reads. -/
  | read {turns : List Turn} {s : Session} {b : β} (readOnly : j.options.readOnly = true)
    (follows : Follows origin j.work.run (.readied base j.options.readOnly) turns
      (pure (.ok b)) s) : Worked origin j base (.ok b) base
  /-- The work may write. -/
  | wrote {turns : List Turn} {s : Session} {b : β} (writes : j.options.readOnly = false)
    (follows : Follows origin j.work.run (.opened base) turns (pure (.ok b)) s) :
    Worked origin j base (.ok b) (s.leaves base)

/-- What can be said of a call whose transaction has ended for good, or that opened no session. -/
inductive Settled (origin : Store) (s : Service) (c : Call) :
    Action WorkflowEvent (Except WorkflowError c.Value) → Progress → Prop
  /-- The call was refused. -/
  | refused {e : WorkflowError} {b : Progress}
    (follows : Follows origin (c.action s).run default b.account.kept (pure (.error e)) b.session)
    (span : b.span = none) (hidden : b.Hidden) : Settled origin s c (pure (.error e)) b
  /-- The transaction has ended. -/
  | done {p : Action WorkflowEvent (Except WorkflowError c.Value)} {b : Progress} {plan : c.Plan}
    {prepared : List Turn} {ready : Session}
    (prepares : Follows origin c.prepare.run default prepared (pure (.ok plan)) ready)
    {outcome : Except WorkflowError c.Result} {base left : Tables}
    (worked : Worked origin (c.job s plan) base outcome left)
    (span : b.span = some (base, left)) (published : b.published = true ↔ left ≠ base)
    (opened : b.account.last ≠ [])
    {quiet made : List (Request WorkflowEvent)} {cleanUp : Action WorkflowEvent Unit}
    (turns : b.account.turns.map Turn.request = quiet ++ made)
    (silent : ∀ request ∈ quiet, Silent request)
    (cleans : cleanUp.Within (fun request => Calm request ∧ Silent request) fun _ => True)
    (path : (cleanUp >>= fun _ => (c.job s plan).conclude outcome).Path made p)
    (calm : p.Within Calm fun _ => True)
    (alone : ∀ σ, Store.Quiet origin base σ → ∃ σ',
      Goes (c.action s).run default σ b.account.kept p b.session σ' ∧ Store.Quiet origin left σ') :
    Settled origin s c p b

/-- What can be said of a call at any time. -/
inductive Tale (origin : Store) (s : Service) (c : Call)
    (p : Action WorkflowEvent (Except WorkflowError c.Value)) (b : Progress) : Prop
  /-- It is not settled. -/
  | unsettled (hidden : b.Hidden) (uncounted : ∀ r, p = pure r → counts r = false)
  /-- It is settled. -/
  | settled (h : Settled origin s c p b)

/-- Whatever stores the program finds in its turns, the tale stays true. -/
def Safe {α : Type} (origin : Store) (T : Action WorkflowEvent α → Progress → Prop) :
    Action WorkflowEvent α → Progress → Prop
  | .pure a, b => T (.pure a) b
  | .call request next, b =>
    T (.call request next) b ∧ ∀ w store, Admits origin b store →
      Safe origin T (next (w.answer store b.session request).1) (b.next w store request)

section

variable {origin : Store} {s : Service} {c : Call}

/-- A settled call stays settled. -/
theorem Settled.turn {request : Request WorkflowEvent}
    {next : request.Answer → Action WorkflowEvent (Except WorkflowError c.Value)} {b : Progress}
    (h : Settled origin s c (.call request next) b) {store : Store}
    (admits : Admits origin b store) (w : Outside) :
    Settled origin s c (next (w.answer store b.session request).1) (b.next w store request) := by
  cases h with
  | @done _ _ plan prepared ready prepares outcome base left worked span published opened quiet
      made cleanUp turns silent cleans path calm alone =>
    have alike := Store.alikeOn admits.like w b.session calm.1
    have account : b.account.add ⟨request, w⟩ =
        { b.account with last := b.account.last ++ [⟨request, w⟩] } :=
      Account.add_of_opened opened calm.1
    have after : (b.next w store request).account =
        { b.account with last := b.account.last ++ [⟨request, w⟩] } := account
    have next_eq := Progress.next_of_calm admits w calm.1
    refine .done prepares worked ?_ ?_ ?_ ?_ silent cleans (path.snoc _) (calm.2 _) ?_
    · rw [next_eq]
      exact span
    · rw [next_eq]
      exact published
    · rw [after]
      simp
    · rw [after]
      simp only [Account.turns] at turns ⊢
      rw [← List.append_assoc, List.map_append, turns]
      simp
    · intro σ hσ
      obtain ⟨σ', goes, hσ'⟩ := alone σ hσ
      have alike' := Store.alikeOn hσ'.toLike w b.session calm.1
      refine ⟨_, ?_, hσ'.answer w b.session calm.1⟩
      have kept : (b.next w store request).account.kept = b.account.kept ++ [⟨request, w⟩] := by
        rw [after]
        exact (List.append_assoc _ _ _).symm
      rw [kept, next_eq]
      refine goes.trans (.turn w ?_)
      rw [alike.answer, ← alike'.answer]
      show Goes _ _ _ [] _ (w.answer origin b.session request).2.2 _
      rw [← alike'.session]
      exact .refl _ _ _

theorem safe_settled {p : Action WorkflowEvent (Except WorkflowError c.Value)} {b : Progress}
    (h : Settled origin s c p b) : Safe origin (Tale origin s c) p b := by
  induction p generalizing b with
  | pure r => exact .settled h
  | call request next ih =>
    exact ⟨.settled h, fun w store admits => ih _ (h.turn admits w)⟩

end

end Appraisal.Memory
