import Appraisal.Proofs.Memory.History

/-!
# Private copies

The open transaction of a session and its savepoints are copies of the tables that were committed
when the transaction began.  `Session.Sound` says what each of them keeps of these tables.  This
module adds what they have to do with one another and with the store.

*Stacks.*  What is set later remembers more.  The rows that a savepoint remembers as written are
among those of every savepoint inside it and among those of the transaction (`Session.Stacked`).

*Publishing.*  A transaction holds every row that it wrote, so `Tables.publish?`, which stops where
a row would have to be removed, publishes the same as `Tables.publish`.  A store that began empty
therefore holds a row exactly if it was published at least once (`Tables.Counted`).

Every call preserves both, also one that fails (`Copied.step`), so they hold in every history
(`private_copies`).
-/

namespace Appraisal.Memory

/-! ## Write sets of a stack -/

/-- Savepoints remember no more rows than those inside them, and no more than the transaction. -/
structure Session.Stacked (s : Session) : Prop where
  /-- Each savepoint is contained in those inside it. -/
  savepoints : s.savepoints.Pairwise fun inner outer => outer.2.writes ⊆ inner.2.writes
  /-- Each savepoint is contained in the transaction. -/
  working : ∀ t, s.working = some t → ∀ p ∈ s.savepoints, p.2.writes ⊆ t.writes

namespace Session

variable {s s' : Session}

theorem stacked_of_empty (empty : s.savepoints = []) : s.Stacked where
  savepoints := by
    rw [empty]
    exact .nil
  working t _ p hp := by
    rw [empty] at hp
    cases hp

/-- A stack that is cut down to some entries at its bottom. -/
theorem Stacked.suffix (h : s.Stacked) {left : Savepoints} (suffix : left <:+ s.savepoints) :
    left.Pairwise fun inner outer => outer.2.writes ⊆ inner.2.writes :=
  h.savepoints.sublist suffix.sublist

/-- Every step of a session keeps its write sets in order. -/
theorem Stacked.step {committed : Tables} {call : SessionCall} (h : s.Stacked)
    (closed : s.working = none → s.savepoints = []) (step : s.Step committed call s') :
    s'.Stacked := by
  have from_ {name : String} : s.savepointsFrom name <:+ s.savepoints := List.dropWhile_suffix _
  cases step with
  | stay => exact h
  | begin isolation none => exact stacked_of_empty (closed none)
  | setReadOnly => exact ⟨h.savepoints, h.working⟩
  | put call t r working =>
    refine ⟨h.savepoints, fun u hu p hp key hk => ?_⟩
    cases hu
    exact Transaction.mem_writes_put.2 (.inr (h.working t working p hp hk))
  | savepoint name t working =>
    have below := h.working t working
    refine ⟨List.pairwise_cons.2 ⟨below, h.savepoints⟩, fun u hu p hp => ?_⟩
    cases working.symm.trans hu
    rcases List.mem_cons.1 hp with rfl | hp
    · exact List.Subset.refl _
    · exact below p hp
  | releaseSavepoint name point outer found =>
    have suffix : outer <:+ s.savepoints := (found ▸ List.suffix_cons point outer).trans from_
    exact ⟨h.suffix suffix, fun t ht p hp => h.working t ht p (suffix.subset hp)⟩
  | rollbackToSavepoint name point outer found =>
    have ordered := h.suffix (found ▸ from_ : point :: outer <:+ s.savepoints)
    refine ⟨ordered, fun u hu p hp => ?_⟩
    cases hu
    rcases List.mem_cons.1 hp with rfl | hp
    · exact List.Subset.refl _
    · exact (List.pairwise_cons.1 ordered).1 p hp
  | commit | rollback | release => exact stacked_of_empty rfl

end Session

/-! ## Publishing without removing -/

namespace Tables

/-- A table with the row that another has for a key, unless that has none. -/
def copyEntryOf? {K V : Type} [Ranked K] (table source : Table K V) (key : K) :
    Option (Table K V) :=
  (source.get? key).map (table.insert key)

/-- The tables with one row as others have it, unless these have none. -/
def copyRow? (t source : Tables) : RowKey → Option Tables
  | .approval id =>
    (copyEntryOf? t.approvals source.approvals id).map fun approvals => { t with approvals }
  | .request id =>
    (copyEntryOf? t.requests source.requests id).map fun requests => { t with requests }
  | .recipient requestId recipientId =>
    (copyEntryOf? t.recipients source.recipients (requestId, recipientId)).map
      fun recipients => { t with recipients }

/-- The tables with some rows published as others have them, unless these lack one of them. -/
def publish? (t source : Tables) (keys : List RowKey) : Option Tables :=
  keys.foldlM (fun t key => (t.copyRow? source key).map (·.bumpVersion key)) t

theorem copyEntryOf?_eq {K V : Type} [Ranked K] {table source : Table K V} {key : K}
    (found : (source.get? key).isSome) :
    copyEntryOf? table source key = some (copyEntry table source key) := by
  obtain ⟨row, found⟩ := Option.isSome_iff_exists.1 found
  rw [copyEntryOf?, copyEntry, found, Option.map_some]

theorem copyRow?_eq {t source : Tables} {key : RowKey} (found : (source.row key).isSome) :
    t.copyRow? source key = some (t.copyRow source key) := by
  cases key <;> rw [row, Option.isSome_map] at found <;>
    rw [copyRow?, copyEntryOf?_eq found, copyRow, Option.map_some]

/-- Nothing is removed if every row is there. -/
theorem publish?_eq {t source : Tables} {keys : List RowKey}
    (found : ∀ key ∈ keys, (source.row key).isSome) :
    t.publish? source keys = some (t.publish source keys) := by
  induction keys generalizing t with
  | nil => rfl
  | cons key keys ih =>
    obtain ⟨first, others⟩ := List.forall_mem_cons.1 found
    rw [publish?, List.foldlM_cons, copyRow?_eq first]
    exact ih others

/-! ## Rows and versions -/

/-- A row is there exactly if it was published. -/
def Counted (t : Tables) : Prop := ∀ key, (t.row key).isSome ↔ 1 ≤ t.version key

theorem counted_default : (default : Tables).Counted := by
  intro key
  have none : (default : Tables).row key = none := by cases key <;> rfl
  have unpublished : (default : Tables).version key = 0 := rfl
  simp [none, unpublished]

end Tables

namespace Transaction.Over

variable {base committed : Tables} {t : Transaction}

theorem isSome_row (h : Over base t) {key : RowKey} (written : key ∈ t.writes) :
    (t.tables.row key).isSome := by
  obtain ⟨r, found, -⟩ := h.present key written
  rw [found]
  rfl

/-- Publishing counts the rows that it puts in place, and no others. -/
theorem counted_publish (h : Over base t) (counted : committed.Counted) :
    (committed.publish t.tables t.writes).Counted := by
  intro key
  rw [Tables.row_publish, Tables.version_publish _ _ h.nodup]
  split
  · rename_i written
    exact iff_of_true (h.isSome_row written) (Nat.le_add_left _ _)
  · exact counted key

end Transaction.Over

/-! ## Histories -/

namespace History

variable {ι : Type} [DecidableEq ι]

/-- The write sets of all sessions are in order, and the store counts its rows. -/
structure Copied (h : History ι) : Prop where
  stacked : ∀ i, (h.tracks i).session.Stacked
  counted : h.store.committed.Counted

/-- Every move preserves this. -/
theorem Copied.step {initial : Tables} {h : History ι} (copied : h.Copied) (ok : h.Ok initial)
    (move : Move ι) : (h.step move).Copied := by
  cases move with
  | plan faults => exact ⟨copied.stacked, copied.counted⟩
  | call i call =>
    have sound := (ok.tracks i).sound
    have own : (h.trackAfter (h.tracks i) call).session.Stacked :=
      (copied.stacked i).step (fun none => (sound.closed none).1)
        (h.store.step_answer (h.tracks i).session call)
    refine ⟨forall_tracks_step (P := fun _ track => track.session.Stacked) copied.stacked own, ?_⟩
    show (h.store.answer (h.tracks i).session call).2.1.committed.Counted
    rcases h.store.committed_answer_cases (h.tracks i).session call with
      same | ⟨-, t, working, -, -, after⟩
    · rw [same]
      exact copied.counted
    · rw [after]
      exact (sound.working t working).counted_publish copied.counted

/-- It holds after any moves, if the store began empty. -/
theorem copied_run {store : Store} (empty : store.committed = default) (moves : List (Move ι)) :
    ((start store).run moves).Copied := by
  induction moves using List.reverseRecOn with
  | nil => exact ⟨fun _ => Session.stacked_of_empty rfl, empty ▸ Tables.counted_default⟩
  | append_singleton moves move ih =>
    have before := ih.step (ok_run store moves) move
    rwa [run, List.foldl_append]

/-- Let any sessions make any calls in any order, on a store that began empty.  A session without a
transaction has no savepoints and may write.  The transaction of a session and its savepoints are
as the snapshot that was taken when it began, with the versions of the snapshot and with its rows
but for those that they wrote, and these are there.  The rows written grow from the outermost
savepoint to the transaction.  So a commit changes the committed tables, if at all, by putting rows
in place, and never by removing one, and a row is committed exactly if its version is at least
one. -/
theorem private_copies (store : Store) (empty : store.committed = default)
    (moves : List (Move ι)) :
    let h := (start store).run moves
    (∀ i, (h.tracks i).session.Sound (h.tracks i).snapshot ∧ (h.tracks i).session.Stacked) ∧
    (∀ i,
      let after := (h.store.commit (h.tracks i).session).2.1.committed
      after = h.store.committed ∨
        ∃ t, (h.tracks i).session.working = some t ∧
          h.store.committed.publish? t.tables t.writes = some after) ∧
    ∀ key, (h.store.committed.row key).isSome ↔ 1 ≤ h.store.committed.version key := by
  intro h
  have ok := ok_run store moves
  have copied := copied_run empty moves
  refine ⟨fun i => ⟨(ok.tracks i).sound, copied.stacked i⟩, fun i => ?_, copied.counted⟩
  rcases h.store.committed_commit (h.tracks i).session with same | ⟨t, working, -, -, published⟩
  · exact .inl same
  · have kept := (ok.tracks i).sound.working t working
    refine .inr ⟨t, working, ?_⟩
    rw [published]
    exact Tables.publish?_eq fun key written => kept.isSome_row written

/-- A session sets a savepoint before the second and one before the third of three records.  Another
session commits a record, and the first one goes back. -/
def goneBack : List (Move Bool) :=
  let save (n : BitVec 128) : SessionCall := .store (.saveApproval (.fresh ⟨⟨n⟩⟩ default))
  [.call true (.begin .serializable), .call true (save 1), .call true (.savepoint "outer"),
    .call true (save 2), .call true (.savepoint "inner"), .call true (save 3),
    .call false (.begin .serializable), .call false (save 4), .call false .commit,
    .call true (.rollbackToSavepoint "inner")]

/-- What it wrote grows from savepoint to savepoint, and the record of the other one is counted. -/
theorem private_copies_goneBack :
    let h := (start default).run goneBack
    (default : Store).committed = default ∧
      (h.tracks true).session.Sound (h.tracks true).snapshot ∧ (h.tracks true).session.Stacked ∧
      (h.tracks true).session.savepoints.map (·.2.writes) =
        [[.approval ⟨⟨2⟩⟩, .approval ⟨⟨1⟩⟩], [.approval ⟨⟨1⟩⟩]] ∧
      (h.tracks true).session.working.map (·.writes) =
        some [.approval ⟨⟨2⟩⟩, .approval ⟨⟨1⟩⟩] ∧
      1 ≤ h.store.committed.version (.approval ⟨⟨4⟩⟩) := by
  obtain ⟨copies, -, counted⟩ := private_copies default rfl goneBack
  exact ⟨rfl, (copies true).1, (copies true).2, rfl, rfl, (counted (.approval ⟨⟨4⟩⟩)).1 rfl⟩

end History

end Appraisal.Memory
