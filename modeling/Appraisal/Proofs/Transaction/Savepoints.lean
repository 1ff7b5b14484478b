import Appraisal.Proofs.Transaction.Scope

/-!
# Savepoints

The savepoints of a session are a stack.  A name may stand in it more than once, and releasing it or
going back to it means the innermost entry of that name.

*In place.*  Calls that neither begin nor end a transaction stack entries on top of a savepoint or
take away what is on top of it, for as long as they leave it in place (`Inside.answer`).  The depth
of the stack alone tells whether they do (`Inside.after`).

*Going back.*  A savepoint that is in place is found by its name unless an entry of the same name is
on top of it.  `savepoint_restores` says what going back to it and releasing it make of the session
then, and that a call on a savepoint that fails leaves everything as it was.
-/

namespace Appraisal.Memory

/-! ## Calls in a transaction -/

/-- The call is a store call or is about a savepoint. -/
def Nested : SessionCall → Prop
  | .store _ | .savepoint _ | .releaseSavepoint _ | .rollbackToSavepoint _ => True
  | .begin _ | .setReadOnly | .commit | .rollback | .release => False

/-- The call sets a savepoint, releases one or goes back to one. -/
def OnSavepoint : SessionCall → Prop
  | .savepoint _ | .releaseSavepoint _ | .rollbackToSavepoint _ => True
  | .begin _ | .setReadOnly | .commit | .rollback | .release | .store _ => False

namespace Session

/-- The session after some calls.  Each of them finds a store of its own. -/
def after (s : Session) : List (Store × SessionCall) → Session
  | [] => s
  | (store, call) :: rest => (store.answer s call).2.2.after rest

/-- Some calls after a savepoint of that name was set never remove it, and in the end no entry of
its name is on top of it. -/
structure InPlace (marked : Session) (name : String) (calls : List (Store × SessionCall)) :
    Prop where
  /-- The transaction neither ends nor begins anew. -/
  nested : ∀ p ∈ calls, Nested p.2
  /-- The stack is never less deep than it was. -/
  deep : ∀ first rest, calls = first ++ rest →
    marked.savepoints.length ≤ (marked.after first).savepoints.length
  /-- What is on top of the savepoint in the end has other names. -/
  innermost : ∀ above, (marked.after calls).savepoints = above ++ marked.savepoints →
    ∀ p ∈ above, p.1 ≠ name

variable {marked s : Session} {names : String → Prop}

/-- What is left of the stack of savepoints is on top of what was there, if it is as deep. -/
theorem Inside.left (inside : Inside (fun _ => True) marked s) {left : Savepoints}
    (suffix : left <:+ s.savepoints) (deep : marked.savepoints.length ≤ left.length) :
    ∃ above : Savepoints, left = above ++ marked.savepoints ∧ ∀ p ∈ above, True := by
  obtain ⟨more, stack, -⟩ := inside.savepoints
  have below : marked.savepoints <:+ s.savepoints := ⟨more, stack.symm⟩
  obtain ⟨above, split⟩ := List.suffix_of_suffix_length_le below suffix deep
  exact ⟨above, split.symm, fun _ _ => trivial⟩

theorem savepointsFrom_suffix (s : Session) (name : String) :
    s.savepointsFrom name <:+ s.savepoints := List.dropWhile_suffix _

/-- A call that leaves the stack at least as deep has not reached what was there. -/
theorem Inside.answer (inside : Inside (fun _ => True) marked s) {call : SessionCall}
    (nested : Nested call) (store : Store)
    (deep : marked.savepoints.length ≤ (store.answer s call).2.2.savepoints.length) :
    Inside (fun _ => True) marked (store.answer s call).2.2 := by
  have step := store.step_answer s call
  generalize (store.answer s call).2.2 = next at deep step
  cases step with
  | stay => exact inside
  | put => exact ⟨fun _ => rfl, inside.savepoints, inside.readOnly, inside.released⟩
  | savepoint name t =>
    obtain ⟨above, stack, -⟩ := inside.savepoints
    refine ⟨inside.working, ⟨(name, t) :: above, ?_, fun _ _ => trivial⟩, inside.readOnly,
      inside.released⟩
    rw [stack, List.cons_append]
  | releaseSavepoint name point outer found =>
    have suffix : outer <:+ s.savepoints :=
      (found ▸ List.suffix_cons point outer).trans (s.savepointsFrom_suffix name)
    exact ⟨inside.working, inside.left suffix deep, inside.readOnly, inside.released⟩
  | rollbackToSavepoint name point outer found =>
    have suffix : point :: outer <:+ s.savepoints := found ▸ s.savepointsFrom_suffix name
    exact ⟨fun _ => rfl, inside.left suffix deep, inside.readOnly, inside.released⟩
  | begin | setReadOnly | commit | rollback | release => exact nested.elim

/-- Calls that never make the stack less deep leave what was there in place. -/
theorem Inside.after (inside : Inside (fun _ => True) marked s)
    {calls : List (Store × SessionCall)} (nested : ∀ p ∈ calls, Nested p.2)
    (deep : ∀ first rest, calls = first ++ rest →
      marked.savepoints.length ≤ (s.after first).savepoints.length) :
    Inside (fun _ => True) marked (s.after calls) := by
  induction calls generalizing s with
  | nil => exact inside
  | cons p calls ih =>
    obtain ⟨store, call⟩ := p
    have next : Inside (fun _ => True) marked (store.answer s call).2.2 :=
      inside.answer (nested _ List.mem_cons_self) store (deep [(store, call)] calls rfl)
    refine ih next (fun p hp => nested p (List.mem_cons_of_mem _ hp)) fun first rest split => ?_
    exact deep ((store, call) :: first) rest (congrArg _ split)

/-! ## Finding a savepoint -/

/-- A savepoint is found if nothing of its name is on top of it. -/
theorem savepointsFrom_of_above {above outer : Savepoints} {name : String} {t : Transaction}
    (h : s.savepoints = above ++ (name, t) :: outer) (other : ∀ p ∈ above, p.1 ≠ name) :
    s.savepointsFrom name = (name, t) :: outer := by
  have skip : ∀ p ∈ above, (p.1 != name) = true := fun p hp => by simpa using other p hp
  rw [savepointsFrom, h, List.dropWhile_append_of_pos skip, List.dropWhile_cons_of_neg (by simp)]

theorem savepointsFrom_saved (s : Session) (name : String) (t : Transaction) :
    (s.saved name t).savepointsFrom name = (name, t) :: s.savepoints := by
  have top : (s.saved name t).savepoints = [] ++ (name, t) :: s.savepoints := rfl
  exact savepointsFrom_of_above top nofun

/-- A savepoint that stayed in place is found by its name. -/
theorem InPlace.found {name : String} {t : Transaction} {calls : List (Store × SessionCall)}
    (h : (s.saved name t).InPlace name calls) :
    Inside (fun _ => True) (s.saved name t) ((s.saved name t).after calls) ∧
      ((s.saved name t).after calls).savepointsFrom name = (name, t) :: s.savepoints := by
  have inside := (Inside.refl (fun _ => True) (s.saved name t)).after h.nested h.deep
  obtain ⟨above, stack, -⟩ := inside.savepoints
  exact ⟨inside, savepointsFrom_of_above stack (h.innermost above stack)⟩

end Session

/-! ## What calls on savepoints do -/

namespace Store

variable (store : Store) (s : Session) {name : String}

/-- A savepoint is set on the transaction as it is, or nothing happens. -/
theorem savepoint_cases (name : String) :
    (∃ f, store.savepoint s name = (.error f, store, s)) ∨
      ∃ t, s.working = some t ∧ store.savepoint s name = (.ok (), store, s.saved name t) := by
  cases valid : checkIdentifier name with
  | error f => exact .inl ⟨f, by rw [savepoint, valid]⟩
  | ok u =>
    cases working : s.working with
    | none => exact .inl ⟨noTransaction, by rw [savepoint, valid, working]⟩
    | some t => exact .inr ⟨t, rfl, savepoint_eq store working valid⟩

/-- A call on a savepoint that fails changes nothing. -/
theorem answer_of_savepoint_error {call : SessionCall} (h : OnSavepoint call) {f : Failure}
    (failed : (store.answer s call).1 = .error f) : (store.answer s call).2 = (store, s) := by
  cases call with
  | savepoint name =>
    change (store.savepoint s name).1 = _ at failed
    change (store.savepoint s name).2 = _
    rcases store.savepoint_cases s name with ⟨f, same⟩ | ⟨t, -, done⟩
    · rw [same]
    · rw [done] at failed
      cases failed
  | releaseSavepoint name =>
    change (store.releaseSavepoint s name).1 = _ at failed
    change (store.releaseSavepoint s name).2 = _
    rw [releaseSavepoint] at failed ⊢
    cases found : s.savepointsFrom name with
    | nil => rfl
    | cons point outer =>
      rw [found] at failed
      cases failed
  | rollbackToSavepoint name =>
    change (store.rollbackToSavepoint s name).1 = _ at failed
    change (store.rollbackToSavepoint s name).2 = _
    rw [rollbackToSavepoint] at failed ⊢
    cases found : s.savepointsFrom name with
    | nil => rfl
    | cons point outer =>
      rw [found] at failed
      cases failed
  | begin | setReadOnly | commit | rollback | release | store => exact h.elim

variable {s}

/-- Going back to a savepoint that is in place makes the session what it was when it was set. -/
theorem rollbackToSavepoint_of_inside {s' : Session} {t : Transaction}
    (working : s.working = some t) (inside : s'.readOnly = s.readOnly ∧ s'.released = s.released)
    (found : s'.savepointsFrom name = (name, t) :: s.savepoints) :
    store.rollbackToSavepoint s' name =
      (.ok (), { store with stats.savepointsRolledBack := store.stats.savepointsRolledBack + 1 },
        s.saved name t) := by
  have same : { s' with working := some t, savepoints := (name, t) :: s.savepoints } =
      s.saved name t := by
    rw [Session.saved, ← working, inside.1, inside.2]
  rw [rollbackToSavepoint, found, ← same]

/-- Releasing a savepoint leaves those that were there before it. -/
theorem releaseSavepoint_of_found {t : Transaction} {outer : Savepoints}
    (found : s.savepointsFrom name = (name, t) :: outer) :
    store.releaseSavepoint s name = (.ok (), store, { s with savepoints := outer }) := by
  rw [releaseSavepoint, found]

end Store

/-- After a savepoint was set and calls that left it in place, going back to it makes the session
what it was when the savepoint was set, and does so again.  Releasing it leaves the transaction as
it is and makes the stack what it was before.  A call on a savepoint that fails leaves the store and
the session as they are. -/
theorem savepoint_restores :
    (∀ (store left : Store) (s marked : Session) (name : String)
        (calls : List (Store × SessionCall)),
      store.answer s (.savepoint name) = (.ok (), left, marked) → marked.InPlace name calls →
      ∀ later : Store,
        let back : Store :=
          { later with stats.savepointsRolledBack := later.stats.savepointsRolledBack + 1 }
        marked.working = s.working ∧
          later.answer (marked.after calls) (.rollbackToSavepoint name) = (.ok (), back, marked) ∧
          later.answer marked (.rollbackToSavepoint name) = (.ok (), back, marked) ∧
          later.answer (marked.after calls) (.releaseSavepoint name) =
            (.ok (), later, { marked.after calls with savepoints := s.savepoints })) ∧
      ∀ (store : Store) (s : Session) (call : SessionCall) (f : Failure), OnSavepoint call →
        (store.answer s call).1 = .error f → (store.answer s call).2 = (store, s) := by
  refine ⟨fun store left s marked name calls set inPlace later => ?_,
    fun store s call f on failed => store.answer_of_savepoint_error s on failed⟩
  change store.savepoint s name = _ at set
  rcases store.savepoint_cases s name with ⟨f, same⟩ | ⟨t, working, done⟩
  · rw [same] at set
    cases set
  · rw [done] at set
    cases set
    obtain ⟨inside, found⟩ := inPlace.found
    exact ⟨rfl,
      later.rollbackToSavepoint_of_inside working ⟨inside.readOnly, inside.released⟩ found,
      later.rollbackToSavepoint_of_inside working ⟨rfl, rfl⟩ (s.savepointsFrom_saved name t),
      later.releaseSavepoint_of_found found⟩

/-- Calls that store a record, set a second savepoint of the same name, undo and remove it, set one
of another name, and fail to release one that is not there. -/
def shadowing : List (Store × SessionCall) :=
  [.store (.saveApproval (.fresh default default)), .savepoint "sp", .rollbackToSavepoint "sp",
    .releaseSavepoint "sp", .savepoint "in", .releaseSavepoint "out"].map (default, ·)

/-- A session with a transaction and a savepoint. -/
def underWay : Session :=
  (Session.withTransaction default (.start default)).saved "sp" (.start default)

/-- Going back undoes what `shadowing` does, and releasing keeps it. -/
theorem savepoint_restores_shadowing :
    ∃ marked : Session,
      (default : Store).answer underWay (.savepoint "sp") = (.ok (), default, marked) ∧
      marked.InPlace "sp" shadowing ∧
      (marked.after shadowing).working ≠ marked.working ∧
      ((default : Store).answer (marked.after shadowing) (.rollbackToSavepoint "sp")).2.2 =
        marked ∧
      ((default : Store).answer (marked.after shadowing) (.releaseSavepoint "sp")).2.2.savepoints =
        underWay.savepoints ∧
      ((default : Store).answer underWay (.releaseSavepoint "out")).2 = (default, underWay) := by
  have deep : ∀ n < 7, 2 ≤ ((underWay.saved "sp" (.start default)).after
      (shadowing.take n)).savepoints.length := by decide
  have inPlace : (underWay.saved "sp" (.start default)).InPlace "sp" shadowing := by
    refine ⟨?_, fun first rest split => ?_, fun above split => ?_⟩
    · simp [shadowing, Nested]
    · have taken : first = shadowing.take first.length := by rw [split, List.take_left]
      have short : first.length ≤ shadowing.length := by rw [split]; simp
      rw [taken]
      exact deep first.length (Nat.lt_succ_of_le short)
    · have top : above =
          [("in", (Transaction.start default).saveApproval (.fresh default default))] :=
        List.append_cancel_right split.symm
      simp [top]
  obtain ⟨restores, fails⟩ := savepoint_restores
  obtain ⟨-, back, -, released⟩ := restores default default underWay
    (underWay.saved "sp" (.start default)) "sp" shadowing rfl inPlace default
  refine ⟨_, rfl, inPlace, ?_, congrArg (·.2.2) back, congrArg (·.2.2.savepoints) released,
    fails default underWay (.releaseSavepoint "out") _ trivial rfl⟩
  decide

end Appraisal.Memory
