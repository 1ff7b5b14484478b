import Appraisal.Proofs.Memory.History

/-!
# Sessions that were given back

A session that is given back loses its transaction and keeps a note that it was given back.  Only
another `release` looks at this note.  Every other call answers as if the session had not been given
back (`Store.answer_of_ne_release`), and so most of them fail because there is no transaction.

Two calls do not need a transaction.  A rollback succeeds unless the store is told to fail it, and
changes no rows.  A begin succeeds unless a failure is planned for it, and from then on the session
works like any other.  So a session that was given back refuses every call exactly as long as these
two are made to fail (`History.refused_iff`).
-/

namespace Appraisal.Memory

/-- A session that was given back. -/
def Session.returned : Session := ⟨none, [], false, true⟩

/-- The store is told to fail the call if it needs no transaction. -/
def Faults.Stop (faults : Faults) : SessionCall → Prop
  | .begin _ => faults.onBegin ≠ []
  | .rollback => faults.failOnRollback = true
  | _ => True

namespace Store

/-- The call fails. -/
def Refuses (store : Store) (s : Session) (call : SessionCall) : Prop :=
  ∃ f, (store.answer s call).1 = .error f

/-! ## Calls on a session that was given back -/

/-- No call but the one that gives it back looks at whether a session was given back. -/
theorem answer_of_ne_release (store : Store) (s : Session) (released : Bool) {call : SessionCall}
    (other : call ≠ .release) :
    store.answer { s with released } call =
      ((store.answer s call).1, (store.answer s call).2.1,
        { (store.answer s call).2.2 with released }) := by
  obtain ⟨working, savepoints, readOnly, flag⟩ := s
  cases call with
  | begin isolation =>
    simp only [answer, begin]
    split
    · rfl
    · cases working <;> rfl
  | setReadOnly => cases working <;> rfl
  | savepoint name =>
    simp only [answer, savepoint]
    split
    · rfl
    · cases working <;> rfl
  | releaseSavepoint name =>
    simp only [answer, releaseSavepoint, Session.savepointsFrom]
    split <;> rfl
  | rollbackToSavepoint name =>
    simp only [answer, rollbackToSavepoint, Session.savepointsFrom]
    split <;> rfl
  | commit =>
    simp only [answer, commit]
    split
    · rfl
    · split
      · rfl
      · cases readOnly <;> rfl
  | rollback => rfl
  | release => exact absurd rfl other
  | store call =>
    have write {α : Type} (f : Transaction → Except Failure (α × Transaction)) :
        (⟨working, savepoints, readOnly, released⟩ : Session).write f =
          (((⟨working, savepoints, readOnly, flag⟩ : Session).write f).1,
            { ((⟨working, savepoints, readOnly, flag⟩ : Session).write f).2 with released }) := by
      cases readOnly with
      | true => rfl
      | false =>
        cases working with
        | none => rfl
        | some t =>
          simp only [Session.write, Session.writable, Bool.false_eq_true, if_false]
          split <;> rfl
    simp only [answer]
    cases call with
    | saveApproval | insertRequest | insertRecipient | updateRecipient =>
      simp only [Session.store, write]
    | _ => rfl

theorem released_answer (store : Store) (s : Session) {call : SessionCall}
    (other : call ≠ .release) : (store.answer s call).2.2.released = s.released := by
  have same := store.answer_of_ne_release s s.released other
  rw [show { s with released := s.released } = s from rfl] at same
  rw [same]

/-- The note that a session was given back stays. -/
theorem released_answer_of_released (store : Store) {s : Session} (released : s.released = true)
    (call : SessionCall) : (store.answer s call).2.2.released = true := by
  by_cases again : call = .release
  · subst again
    simp only [answer, release, released, if_true]
  · rw [store.released_answer s again, released]

/-- The first time, a session is given back also if the call fails. -/
theorem session_release (store : Store) {s : Session} (held : s.released = false) :
    (store.release s).2.2 = .returned := by
  simp only [release, held, Bool.false_eq_true, if_false]
  rfl

theorem release_of_released (store : Store) {s : Session} (released : s.released = true) :
    (store.release s).1 = .error alreadyReleased := by
  simp only [release, released, if_true]

theorem refuses_begin (store : Store) (s : Session) {isolation : Isolation}
    (planned : store.faults.onBegin ≠ []) : store.Refuses s (.begin isolation) := by
  obtain ⟨f, rest, planned⟩ := List.exists_cons_of_ne_nil planned
  refine ⟨f, ?_⟩
  simp only [answer, begin, planned]
  rfl

theorem refuses_returned_iff (store : Store) (call : SessionCall) :
    store.Refuses .returned call ↔ store.faults.Stop call := by
  cases call with
  | begin isolation =>
    refine ⟨?_, store.refuses_begin .returned⟩
    rintro ⟨f, fails⟩ none
    simp only [answer, begin, none] at fails
    cases fails
  | rollback =>
    simp only [Refuses, answer, rollback, Faults.Stop]
    cases told : store.faults.failOnRollback with
    | false =>
      refine iff_of_false ?_ Bool.false_ne_true
      rintro ⟨f, fails⟩
      cases fails
    | true => exact iff_of_true ⟨_, rfl⟩ rfl
  | savepoint name =>
    refine iff_of_true ?_ trivial
    simp only [Refuses, answer, savepoint, Session.returned]
    split <;> exact ⟨_, rfl⟩
  | store call =>
    refine iff_of_true ?_ trivial
    cases call <;> exact ⟨_, rfl⟩
  | _ => exact iff_of_true ⟨_, rfl⟩ trivial

/-- No single call on a session that was given back publishes anything. -/
theorem committed_answer_returned (store : Store) (call : SessionCall) :
    (store.answer .returned call).2.1.committed = store.committed := by
  by_cases commit : call = .commit
  · subst commit
    rfl
  · exact store.committed_answer _ commit

/-- A session that was given back stays as it is, unless a begin succeeds. -/
theorem session_answer_returned (store : Store) {call : SessionCall}
    (stopped : ∀ isolation, call = .begin isolation → store.Refuses .returned call) :
    (store.answer .returned call).2.2 = .returned := by
  cases call with
  | begin isolation =>
    have planned : store.faults.onBegin ≠ [] :=
      (store.refuses_returned_iff (.begin isolation)).1 (stopped isolation rfl)
    obtain ⟨f, rest, planned⟩ := List.exists_cons_of_ne_nil planned
    simp only [answer, begin, planned]
  | savepoint name =>
    simp only [answer, savepoint]
    split <;> rfl
  | store call => cases call <;> rfl
  | _ => rfl

end Store

/-! ## Histories in which a session is given back -/

namespace History

variable {ι : Type} [DecidableEq ι]

/-- The session's call fails. -/
def Refuses (h : History ι) (i : ι) (call : SessionCall) : Prop :=
  h.store.Refuses (h.tracks i).session call

/-- The session's call changes neither committed rows nor versions. -/
def Leaves (h : History ι) (i : ι) (call : SessionCall) : Prop :=
  (h.step (.call i call)).store.committed = h.store.committed

/-- Each call of the session among some moves has a property in the history before it. -/
def Each (h : History ι) (i : ι) (moves : List (Move ι))
    (P : History ι → SessionCall → Prop) : Prop :=
  ∀ before call after, moves = before ++ .call i call :: after → P (h.run before) call

/-- The call fails if it is a begin. -/
def RefusesBegin (i : ι) (h : History ι) (call : SessionCall) : Prop :=
  ∀ isolation, call = .begin isolation → h.Refuses i call

variable {h : History ι} {i : ι} {moves : List (Move ι)}

theorem run_concat (h : History ι) (moves : List (Move ι)) (move : Move ι) :
    h.run (moves ++ [move]) = (h.run moves).step move := by
  rw [run, List.foldl_append]
  rfl

theorem Each.left {more : List (Move ι)} {P : History ι → SessionCall → Prop}
    (each : h.Each i (moves ++ more) P) : h.Each i moves P :=
  fun before call after split =>
    each before call (after ++ more) (by rw [split, List.append_assoc, List.cons_append])

theorem each_nil (h : History ι) (i : ι) (P : History ι → SessionCall → Prop) : h.Each i [] P :=
  fun before _ _ split => absurd split (by cases before <;> nofun)

theorem Each.cons {move : Move ι} {P : History ι → SessionCall → Prop}
    (first : ∀ call, move = .call i call → P h call) (rest : (h.step move).Each i moves P) :
    h.Each i (move :: moves) P := by
  intro before call after split
  cases before with
  | nil => exact first call (List.cons.inj split).1
  | cons _ before =>
    obtain ⟨rfl, tail⟩ := List.cons.inj split
    exact rest before call after tail

/-- What every call of a session keeps of it is kept by every move. -/
theorem session_step {Q : Session → Prop} {move : Move ι} (now : Q (h.tracks i).session)
    (keeps : ∀ call, move = .call i call → Q (h.store.answer (h.tracks i).session call).2.2) :
    Q ((h.step move).tracks i).session := by
  cases move with
  | plan faults => exact now
  | call j call =>
    by_cases same : i = j
    · subst same
      rw [tracks_step_self]
      exact keeps call rfl
    · rw [tracks_step_of_ne h call same]
      exact now

theorem released_run_of_ne {moves : List (Move ι)} (none : .call i .release ∉ moves) :
    ((h.run moves).tracks i).session.released = (h.tracks i).session.released := by
  induction moves using List.reverseRecOn with
  | nil => rfl
  | append_singleton moves move ih =>
    rw [List.mem_append, not_or] at none
    have before := ih none.1
    rw [run_concat]
    refine session_step (Q := fun s => s.released = _) before fun call same => ?_
    refine (Store.released_answer _ _ ?_).trans before
    rintro rfl
    exact none.2 (List.mem_singleton.2 same.symm)

theorem released_run (released : (h.tracks i).session.released = true) (moves : List (Move ι)) :
    ((h.run moves).tracks i).session.released = true := by
  induction moves using List.reverseRecOn with
  | nil => exact released
  | append_singleton moves move ih =>
    rw [run_concat]
    exact session_step (Q := fun s => s.released = true) ih
      fun call _ => Store.released_answer_of_released _ ih call

/-- A session that was given back stays as it is, as long as it cannot begin a transaction. -/
theorem returned_run (returned : (h.tracks i).session = .returned)
    (stopped : h.Each i moves (RefusesBegin i)) :
    ((h.run moves).tracks i).session = .returned := by
  induction moves using List.reverseRecOn with
  | nil => exact returned
  | append_singleton moves move ih =>
    have before := ih stopped.left
    rw [run_concat]
    refine session_step (Q := (· = .returned)) before fun call same => ?_
    have refuses := stopped moves call [] (by rw [same])
    rw [RefusesBegin, Refuses, before] at refuses
    rw [before]
    exact Store.session_answer_returned _ refuses

theorem Each.returned (returned : (h.tracks i).session = .returned)
    (stopped : h.Each i moves (RefusesBegin i)) :
    h.Each i moves fun now _ => (now.tracks i).session = .returned := by
  rintro before call after rfl
  exact returned_run returned stopped.left

theorem returned_release (store : Store) (first : .call i .release ∉ moves) :
    (((start store).run (moves ++ [.call i .release])).tracks i).session = .returned := by
  rw [run_concat, tracks_step_self]
  exact Store.session_release _ (released_run_of_ne first)

/-- A session was given back, whether or not that failed.  Whatever other sessions do, and whatever
failures are planned meanwhile, all its later calls fail and publish nothing exactly if each begin
among them meets a planned failure and each rollback is told to fail.  Until a begin succeeds, it
publishes nothing.  And it cannot be given back again, whatever it did in between. -/
theorem refused_iff (store : Store) (first : .call i .release ∉ moves) (later : List (Move ι)) :
    let back := (start store).run (moves ++ [.call i .release])
    (back.Each i later (fun now call => now.Refuses i call ∧ now.Leaves i call) ↔
      back.Each i later fun now call => now.store.faults.Stop call) ∧
    (back.Each i later (RefusesBegin i) → back.Each i later fun now call => now.Leaves i call) ∧
    back.Each i later fun now call =>
      call = .release → (now.store.release (now.tracks i).session).1 = .error alreadyReleased := by
  intro back
  have returned : (back.tracks i).session = .returned := returned_release store first
  have leaves (stopped : back.Each i later (RefusesBegin i)) :
      back.Each i later fun now call => now.Leaves i call := by
    intro before call after split
    have still := stopped.returned returned before call after split
    rw [Leaves, step, still]
    exact Store.committed_answer_returned _ call
  refine ⟨⟨fun refused before call after split => ?_, fun stop => ?_⟩, leaves, ?_⟩
  · have stopped : back.Each i later (RefusesBegin i) :=
      fun before call after split _ _ => (refused before call after split).1
    have still := stopped.returned returned before call after split
    have fails := (refused before call after split).1
    rw [Refuses, still] at fails
    exact (Store.refuses_returned_iff _ call).1 fails
  · have stopped : back.Each i later (RefusesBegin i) := by
      rintro before call after split isolation rfl
      exact Store.refuses_begin _ _ (stop before _ after split)
    intro before call after split
    refine ⟨?_, leaves stopped before call after split⟩
    rw [Refuses, stopped.returned returned before call after split]
    exact (Store.refuses_returned_iff _ call).2 (stop before call after split)
  · rintro before call after split rfl
    refine Store.release_of_released _ (released_run ?_ before)
    rw [returned]
    rfl

/-- A session that is used after it was given back. -/
def usedAfter : List (Move Unit) := [
  .call () (.begin .serializable), .call () (.store (.saveApproval (.fresh default default))),
  .call () .commit, .call () .rollback]

/-- The store fails the begin, every rollback and every release. -/
theorem refused_iff_usedAfter :
    ((start { (default : Store) with faults := ⟨[lostConnection], [], true, true⟩ }).run
        [.call () .release]).Each () usedAfter fun now call =>
      now.Refuses () call ∧ now.Leaves () call := by
  have first : Move.call () .release ∉ [] := List.not_mem_nil
  refine (refused_iff _ first usedAfter).1.2 ?_
  refine .cons ?_ (.cons ?_ (.cons ?_ (.cons ?_ (each_nil _ _ _))))
  · rintro _ ⟨⟩
    exact List.cons_ne_nil _ _
  · rintro _ ⟨⟩
    trivial
  · rintro _ ⟨⟩
    trivial
  · rintro _ ⟨⟩
    rfl

/-- Without planned failures the begin succeeds, and the commit publishes the record. -/
theorem usedAfter_publishes :
    let back : History Unit := (start default).run [.call () .release]
    ¬ back.Each () usedAfter (fun now call => now.Refuses () call) ∧
    ¬ back.Each () usedAfter (fun now call => now.Leaves () call) := by
  refine ⟨fun refused => ?_, fun leaves => ?_⟩
  · obtain ⟨f, fails⟩ := refused [] _ _ rfl
    cases fails
  · have same := leaves (usedAfter.take 2) .commit [.call () .rollback] rfl
    exact absurd (congrArg (fun t => (t.approvals.get? default).isSome) same) (by decide)

end History

end Appraisal.Memory
