import Appraisal.Proofs.Memory.History

/-!
# What a successful commit publishes

A transaction may be limited to reading at any time, also when it has stored rows.  Its commit then
succeeds and publishes none of them.

`limitedAfter` notes the limit as the client of the session could, from the answers to its calls.
Going back to a savepoint leaves the limit in place, even one set before it.  The note agrees with
the session as long as a transaction is open (`limited_eq`).

`commit_publishes` is the consequence.  Without a limit, a commit that succeeds leaves every row of
the journal in the committed tables.  With one it leaves the committed tables as they are, so that a
row of the journal stands there only if it did before.
-/

namespace Appraisal.Memory

/-- Whether a transaction is limited to reading after a call and its answer. -/
def limitedAfter (limited : Bool) : (call : SessionCall) → call.Answer → Bool
  | .begin _, .ok () => false
  | .setReadOnly, .ok () => true
  | _, _ => limited

/-- The note and the session agree on the limit of an open transaction. -/
def Session.AgreesOn (s : Session) (limited : Bool) : Prop :=
  s.working.isSome → limited = s.readOnly

/-! ## The limit of a session -/

namespace Session.AgreesOn

variable {s : Session} {limited : Bool}

theorem of_closed (closed : s.working = none) : s.AgreesOn limited := fun opened => by
  rw [closed] at opened
  cases opened

theorem begin (h : s.AgreesOn limited) (closed : s.working = none → s.readOnly = false)
    (store : Store) (isolation : Isolation) :
    (store.begin s isolation).2.2.AgreesOn
      (limitedAfter limited (.begin isolation) (store.begin s isolation).1) := by
  rw [Store.begin]
  split
  · exact h
  · split
    · exact h
    · rename_i none
      exact fun _ => (closed (by simpa using none)).symm

theorem setReadOnly (h : s.AgreesOn limited) (store : Store) :
    (store.setReadOnly s).2.2.AgreesOn
      (limitedAfter limited .setReadOnly (store.setReadOnly s).1) := by
  rw [Store.setReadOnly]
  split
  · exact fun _ => rfl
  · exact h

theorem savepoint (h : s.AgreesOn limited) (store : Store) (name : String) :
    (store.savepoint s name).2.2.AgreesOn limited := by
  rw [Store.savepoint]
  split
  · exact h
  · split <;> exact h

theorem releaseSavepoint (h : s.AgreesOn limited) (store : Store) (name : String) :
    (store.releaseSavepoint s name).2.2.AgreesOn limited := by
  rw [Store.releaseSavepoint]
  split <;> exact h

/-- The limit is not part of a savepoint. -/
theorem rollbackToSavepoint (h : s.AgreesOn limited)
    (closed : s.working = none → s.savepoints = []) (store : Store) (name : String) :
    (store.rollbackToSavepoint s name).2.2.AgreesOn limited := by
  rw [Store.rollbackToSavepoint]
  split
  · exact h
  · rename_i point outer found
    exact fun _ => h (isSome_of_savepointsFrom closed found)

theorem store (h : s.AgreesOn limited) (call : StoreCall) :
    (s.store call).2.AgreesOn limited := by
  rcases s.store_cases call with ⟨-, same⟩ | ⟨t, r, -, working, -, -, after⟩
  · rwa [same]
  · rw [after]
    exact fun _ => h (by rw [working]; rfl)

theorem commit (h : s.AgreesOn limited) (store : Store) :
    (store.commit s).2.2.AgreesOn limited := by
  cases working : s.working with
  | none => simpa only [Store.commit, working] using h
  | some t => exact of_closed (working_commit working)

/-- No call makes the two disagree. -/
theorem answer (h : s.AgreesOn limited)
    (closed : s.working = none → s.savepoints = [] ∧ s.readOnly = false) (store : Store)
    (call : SessionCall) :
    (store.answer s call).2.2.AgreesOn (limitedAfter limited call (store.answer s call).1) := by
  cases call with
  | begin isolation => exact h.begin (fun none => (closed none).2) store isolation
  | setReadOnly => exact h.setReadOnly store
  | savepoint name => exact h.savepoint store name
  | releaseSavepoint name => exact h.releaseSavepoint store name
  | rollbackToSavepoint name =>
    exact h.rollbackToSavepoint (fun none => (closed none).1) store name
  | store call => exact h.store call
  | commit => exact h.commit store
  | rollback => exact of_closed rfl
  | release =>
    simp only [Store.answer, Store.release]
    split
    · exact h
    · exact of_closed rfl

end Session.AgreesOn

namespace History

variable {ι : Type} [DecidableEq ι]

/-- Whether the transaction of a session is limited to reading after a move. -/
def limitedStep (h : History ι) (i : ι) (limited : Bool) : Move ι → Bool
  | .call j call =>
    if j = i then limitedAfter limited call (h.store.answer (h.tracks i).session call).1
    else limited
  | .plan _ => limited

/-- Whether it is after some moves. -/
def limited (h : History ι) (i : ι) (noted : Bool) : List (Move ι) → Bool
  | [] => noted
  | move :: moves => (h.step move).limited i (h.limitedStep i noted move) moves

theorem agreesOn_step {initial : Tables} {h : History ι} (ok : h.Ok initial) {i : ι}
    {noted : Bool} (agrees : (h.tracks i).session.AgreesOn noted) (move : Move ι) :
    ((h.step move).tracks i).session.AgreesOn (h.limitedStep i noted move) := by
  cases move with
  | plan faults => exact agrees
  | call j call =>
    by_cases hj : j = i
    · subst hj
      rw [tracks_step_self, limitedStep, if_pos rfl]
      exact agrees.answer (ok.tracks j).sound.closed h.store call
    · rw [tracks_step_of_ne h call (Ne.symm hj), limitedStep, if_neg hj]
      exact agrees

theorem agreesOn_run {initial : Tables} {h : History ι} (ok : h.Ok initial) {i : ι}
    {noted : Bool} (agrees : (h.tracks i).session.AgreesOn noted) (moves : List (Move ι)) :
    ((h.run moves).tracks i).session.AgreesOn (h.limited i noted moves) := by
  induction moves generalizing h noted with
  | nil => exact agrees
  | cons move moves ih => exact ih (ok.step move) (agreesOn_step ok agrees move)

/-- The client's note of the limit is right while a transaction is open. -/
theorem limited_eq (store : Store) (moves : List (Move ι)) (i : ι)
    (opened : (((start store).run moves).tracks i).session.working.isSome) :
    (start store).limited i false moves =
      (((start store).run moves).tracks i).session.readOnly :=
  agreesOn_run (ok_start store) (.of_closed rfl) moves opened

/-! ## Successful commits -/

/-- Let any sessions make any calls in any order, and let a session then commit with success.  If
its transaction was not limited to reading, every row that it stored, and did not take back, is
committed with the value it stored last, and every other row is left.  If it was limited, at
whatever time, nothing is committed.  So all its rows are in the committed tables exactly if it was
not limited, or they had been there before. -/
theorem commit_publishes (store : Store) (moves : List (Move ι)) (i : ι) :
    let h := (start store).run moves
    let journal := (h.tracks i).journal
    let limited := (start store : History ι).limited i false moves
    let after := (h.store.commit (h.tracks i).session).2.1.committed
    (h.store.commit (h.tracks i).session).1 = .ok () →
      (limited = false →
        ∀ key, after.row key = (journal.newest? key).or (h.store.committed.row key)) ∧
      (limited = true → after = h.store.committed) ∧
      ((∀ key row, journal.newest? key = some row → after.row key = some row) ↔
        limited = false ∨
          ∀ key row, journal.newest? key = some row → h.store.committed.row key = some row) := by
  intro h journal limited after done
  have track := (ok_run store moves).tracks i
  obtain ⟨t, working⟩ : ∃ t, (h.tracks i).session.working = some t := by
    cases working : (h.tracks i).session.working with
    | some t => exact ⟨t, rfl⟩
    | none => simp [Store.commit, working] at done
  have told := track.mirrors.working t working
  have noted : limited = (h.tracks i).session.readOnly :=
    limited_eq store moves i (by rw [working]; rfl)
  have free : limited = false →
      ∀ key, after.row key = (journal.newest? key).or (h.store.committed.row key) := by
    intro unlimited key
    rcases (commit_cases h.store working).2 with ⟨⟨f, failed⟩, -⟩ | ⟨-, readOnly, -⟩ |
      ⟨-, -, -, published⟩
    · rw [failed] at done
      cases done
    · rw [noted, readOnly] at unlimited
      cases unlimited
    · rw [show after = _ from published, Tables.row_publish]
      by_cases hk : key ∈ t.writes
      · obtain ⟨r, hr⟩ := Option.isSome_iff_exists.1 ((told.writes key).1 hk)
        rw [if_pos hk, told.row, Journal.row, hr]
        rfl
      · have none : journal.newest? key = none := by simpa using mt (told.writes key).2 hk
        rw [if_neg hk, none, Option.none_or]
  have bound : limited = true → after = h.store.committed := by
    intro limits
    rcases (commit_cases h.store working).2 with ⟨-, same⟩ | ⟨-, -, same⟩ | ⟨-, readOnly, -⟩
    · exact same
    · exact same
    · rw [noted, readOnly] at limits
      cases limits
  refine ⟨free, bound, ?_⟩
  cases limits : limited with
  | false => exact ⟨fun _ => .inl rfl, fun _ key row newest => by rw [free limits, newest]; rfl⟩
  | true =>
    rw [bound limits]
    exact ⟨.inr, fun stood => stood.resolve_left (by simp)⟩

/-- A transaction is limited to reading after it has stored a record. -/
def limitedLate : List (Move Unit) := [
  .call () (.begin .readCommitted), .call () (.store (.saveApproval (.fresh default default))),
  .call () .setReadOnly]

/-- Its commit succeeds and publishes nothing. -/
theorem commit_publishes_limitedLate :
    let h := (start default : History Unit).run limitedLate
    (h.store.commit (h.tracks ()).session).1 = .ok () ∧
      (h.store.commit (h.tracks ()).session).2.1.committed = h.store.committed :=
  ⟨rfl, (commit_publishes default limitedLate () rfl).2.1 rfl⟩

/-- So a commit may succeed although an accepted row is missing afterwards. -/
theorem not_commit_publishes_all :
    ¬ ∀ (store : Store) (moves : List (Move Unit)) (i : Unit),
      let h := (start store).run moves
      (h.store.commit (h.tracks i).session).1 = .ok () →
        ∀ key row, (h.tracks i).journal.newest? key = some row →
          (h.store.commit (h.tracks i).session).2.1.committed.row key = some row := by
  intro all
  have stored := all default limitedLate () rfl (.approval default)
    (.approval (.fresh default default)) rfl
  cases stored

end History

end Appraisal.Memory
