import Appraisal.Proofs.Concurrent.Serializable
import Appraisal.Proofs.Memory.Calls
import Appraisal.Proofs.Workflow.Revised

/-!
# Tables that can be reached

The store takes the row of a recipient only if its request is stored, and no request is ever taken
away.  So rows of recipients belong to requests in every copy that a transaction works on, in its
savepoints, and in the committed tables, whatever calls the sessions make (`History.Bound`).  All
tables that can be reached are therefore attached (`Tables.Reached.attached`).
-/

namespace Appraisal.Memory

/-- A row may be put in place, the row of a recipient only if its request is there. -/
theorem Tables.Attached.put {t : Tables} (attached : t.Attached) {r : Row}
    (requested : ∀ id e, r.key = .recipient id e → (t.row (.request id)).isSome) :
    (t.put r).Attached := by
  intro id e there
  have stays : (t.row (.request id)).isSome → ((t.put r).row (.request id)).isSome := by
    intro known
    rw [Tables.row_put]
    split
    · rfl
    · exact known
  rw [Tables.row_put] at there
  split at there
  · rename_i own
    exact stays (requested id e own.symm)
  · exact stays (attached id e there)

/-! ## Sessions -/

/-- Rows of recipients belong to requests in the transaction of a session and in its savepoints. -/
structure Session.Attached (s : Session) : Prop where
  working : ∀ t, s.working = some t → t.tables.Attached
  savepoints : ∀ p ∈ s.savepoints, p.2.tables.Attached

namespace Session

variable {s : Session} {t : Transaction}

theorem attached_iff_holding : s.Attached ↔ s.Holding Tables.Attached :=
  ⟨fun h => ⟨h.working, h.savepoints⟩, fun h => ⟨h.working, h.savepoints⟩⟩

/-- The row of a recipient is stored only if its request is. -/
theorem requested_of_store (attached : t.tables.Attached) (working : s.working = some t)
    {call : StoreCall} {r : Row} (stored : storedRow call (s.store call).1 = some r)
    {id : RevisionRequestId} {e : EmployeeId} (key : r.key = .recipient id e) :
    (t.tables.row (.request id)).isSome := by
  cases answered : (s.store call).1 with
  | error f =>
    rw [answered] at stored
    cases call <;> cases stored
  | ok a =>
    rw [answered] at stored
    cases call with
    | saveApproval record =>
      cases stored
      cases key
    | insertRequest request =>
      cases stored
      cases key
    | insertRecipient row =>
      cases stored
      cases key
      obtain ⟨after, done⟩ := write_ok working answered
      rw [Transaction.insertRecipient_eq] at done
      cases found : t.tables.row (.request row.requestId) with
      | none =>
        rw [found] at done
        cases done
      | some request => rfl
    | updateRecipient row =>
      cases a with
      | false => cases stored
      | true =>
        cases stored
        cases key
        have told : true = (t.tables.unfinished? row).isSome := answer_of_store working answered
        refine attached row.requestId row.recipientId ?_
        rw [isSome_row_recipient]
        rw [Tables.unfinished?] at told
        cases found : t.tables.recipients.get? (row.requestId, row.recipientId) with
        | none =>
          rw [found] at told
          cases told
        | some stored => rfl
    | _ => cases stored

/-- Every call leaves a session attached, since a transaction begins on a copy of the committed
tables. -/
theorem Attached.answer (h : s.Attached) {store : Store} (committed : store.committed.Attached)
    (call : SessionCall) : (store.answer s call).2.2.Attached := by
  refine attached_iff_holding.2 ((attached_iff_holding.1 h).answer committed call ?_)
  exact fun _ _ _ _ working stored attached => attached.put fun _ _ key =>
    requested_of_store attached working stored key

end Session

/-! ## Commits -/

/-- A commit publishes the row of a recipient together with its request, or the request was there
before. -/
theorem Transaction.Over.attached_publish {base committed : Tables} {t : Transaction}
    (h : t.Over base) (evolves : base.Evolves committed) (own : t.tables.Attached)
    (attached : committed.Attached) : (committed.publish t.tables t.writes).Attached := by
  intro id e there
  rw [Tables.row_publish] at there ⊢
  by_cases asked : RowKey.request id ∈ t.writes
  · obtain ⟨r, found, -⟩ := h.present _ asked
    rw [if_pos asked, found]
    rfl
  · rw [if_neg asked]
    split at there
    · obtain ⟨r, found⟩ := Option.isSome_iff_exists.1 (own id e there)
      obtain ⟨request, rfl⟩ : ∃ request, r = .request request := by
        rw [Tables.row] at found
        obtain ⟨request, -, rfl⟩ := Option.map_eq_some_iff.1 found
        exact ⟨request, rfl⟩
      rw [h.untouched _ asked] at found
      rw [evolves.request_eq id _ found]
      rfl
    · exact attached id e there

namespace History

variable {ι : Type} [DecidableEq ι]

/-- Rows of recipients belong to requests everywhere, and every transaction began on tables that
have evolved into the committed ones. -/
structure Bound (h : History ι) : Prop where
  committed : h.store.committed.Attached
  sessions : ∀ i, (h.tracks i).session.Attached
  evolves : ∀ i, (h.tracks i).session.working.isSome →
    (h.tracks i).snapshot.Evolves h.store.committed

theorem Bound.step_call {initial : Tables} {h : History ι} (ok : h.Ok initial) (bound : h.Bound)
    (i : ι) (call : SessionCall) : (h.step (.call i call)).Bound := by
  have sound := (ok.tracks i).sound
  have later : h.store.committed.Evolves (h.step (.call i call)).store.committed :=
    Store.evolves_answer sound (bound.evolves i) call
  refine ⟨?_, fun j => ?_, fun j opened => ?_⟩
  · show (h.store.answer (h.tracks i).session call).2.1.committed.Attached
    rcases h.store.committed_answer_cases (h.tracks i).session call with
      same | ⟨-, t, working, -, -, after⟩
    · rw [same]
      exact bound.committed
    · rw [after]
      exact (sound.working t working).attached_publish (bound.evolves i (by rw [working]; rfl))
        ((bound.sessions i).working t working) bound.committed
  · have own : (h.trackAfter (h.tracks i) call).session.Attached :=
      (bound.sessions i).answer bound.committed call
    exact forall_tracks_step (P := fun _ track => track.session.Attached) bound.sessions own j
  · by_cases own : j = i
    · subst own
      rw [tracks_step_self] at opened ⊢
      refine Tables.Evolves.trans ?_ later
      rw [trackAfter] at opened ⊢
      dsimp only at opened ⊢
      split
      · exact .refl _
      · rename_i begun
        refine bound.evolves j ?_
        by_contra closed
        rw [Option.not_isSome_iff_eq_none] at closed
        exact begun (by simp [Session.begins, closed, opened])
    · rw [tracks_step_of_ne h call own] at opened ⊢
      exact (bound.evolves j opened).trans later

theorem bound_run {store : Store} (attached : store.committed.Attached) (moves : List (Move ι)) :
    ((start store : History ι).run moves).Bound := by
  induction moves using List.reverseRecOn with
  | nil => exact ⟨attached, fun _ => Session.attached_iff_holding.2
      (Session.holding_of_closed rfl rfl), nofun⟩
  | append_singleton moves move ih =>
    rw [run, List.foldl_append]
    show (((start store : History ι).run moves).step move).Bound
    cases move with
    | plan faults => exact ⟨ih.committed, ih.sessions, ih.evolves⟩
    | call i call => exact ih.step_call (ok_run store moves) i call

end History

/-- In tables that can be reached, rows of recipients belong to requests. -/
theorem Tables.Reached.attached {t : Tables} (h : t.Reached) : t.Attached := by
  obtain ⟨initial, moves, empty, rfl⟩ := h
  refine (History.bound_run ?_ moves).committed
  rw [empty]
  exact attached_default

end Appraisal.Memory
