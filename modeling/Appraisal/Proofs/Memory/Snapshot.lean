import Appraisal.Memory.Store
import Appraisal.Proofs.Memory.Row

/-!
# Transactions over a snapshot

A transaction works on a copy of the committed tables.  `Transaction.Over` says what that copy has
in common with the tables it was taken from, the *snapshot*, whatever the transaction has done
since: rows that it did not write are as they were, versions are as they were, and a revision
request that it wrote was not there.

*Evolution.*  Meanwhile other transactions commit.  `Tables.Evolves` relates committed tables to
later ones: versions only grow, a row changes only with its version, and a revision request never
changes.  `evolves_publish` is the step: a transaction over a snapshot that evolved into the
committed tables publishes tables that these evolve into.

*Sessions.*  `Session.Step` lists what a call may make of a session, and `step_answer` says that
every call does one of these things.  `Session.Sound` extends the statement on transactions to the
savepoints of a session, and every step preserves it.
-/

namespace Appraisal.Memory

/-! ## Tables that evolve -/

/-- The second tables may be what the first have become by commits. -/
structure Tables.Evolves (old new : Tables) : Prop where
  /-- Versions never shrink. -/
  version_le : ∀ k, old.version k ≤ new.version k
  /-- A row whose version is the same is the same. -/
  row_eq : ∀ k, old.version k = new.version k → old.row k = new.row k
  /-- A revision request never changes. -/
  request_eq : ∀ id r, old.row (.request id) = some r → new.row (.request id) = some r

theorem Tables.Evolves.refl (t : Tables) : t.Evolves t :=
  ⟨fun _ => Nat.le_refl _, fun _ _ => rfl, fun _ _ h => h⟩

theorem Tables.Evolves.trans {t u v : Tables} (first : t.Evolves u) (second : u.Evolves v) :
    t.Evolves v where
  version_le k := Nat.le_trans (first.version_le k) (second.version_le k)
  row_eq k h := by
    have h₁ := first.version_le k
    have h₂ := second.version_le k
    exact (first.row_eq k (by omega)).trans (second.row_eq k (by omega))
  request_eq id r h := second.request_eq id r (first.request_eq id r h)

/-! ## Single rows -/

theorem row_request (t : Tables) (id : RevisionRequestId) (request : RevisionRequest) :
    t.row (.request id) = some (.request request) ↔ t.requests.get? id = some request := by
  rw [Tables.row]
  cases t.requests.get? id <;> simp

theorem row_approval (t : Tables) (id : MappingId) (record : ApprovalRecord) :
    t.row (.approval id) = some (.approval record) ↔ t.approvals.get? id = some record := by
  rw [Tables.row]
  cases t.approvals.get? id <;> simp

theorem row_recipient (t : Tables) (requestId : RevisionRequestId) (recipientId : EmployeeId)
    (row : RecipientRow) : t.row (.recipient requestId recipientId) = some (.recipient row) ↔
      t.recipients.get? (requestId, recipientId) = some row := by
  rw [Tables.row]
  cases t.recipients.get? (requestId, recipientId) <;> simp

theorem isSome_row_recipient (t : Tables) (id : RevisionRequestId) (e : EmployeeId) :
    (t.row (.recipient id e)).isSome = (t.recipients.get? (id, e)).isSome := by
  rw [Tables.row, Option.isSome_map]

/-- Every row stands under its own key. -/
def Tables.Keyed (t : Tables) : Prop := ∀ k r, t.row k = some r → r.key = k

theorem Tables.Keyed.recipient {t : Tables} (keyed : t.Keyed) {requestId : RevisionRequestId}
    {recipientId : EmployeeId} {row : RecipientRow}
    (h : t.recipients.get? (requestId, recipientId) = some row) :
    row.requestId = requestId ∧ row.recipientId = recipientId := by
  have same := keyed _ _ ((row_recipient t requestId recipientId row).2 h)
  simpa [Row.key] using same

theorem Tables.Keyed.key_recipient {t : Tables} (keyed : t.Keyed) {requestId : RevisionRequestId}
    {recipientId : EmployeeId} {row : RecipientRow}
    (h : t.recipients.get? (requestId, recipientId) = some row) :
    (Row.recipient row).key = .recipient requestId recipientId :=
  keyed _ _ ((row_recipient t requestId recipientId row).2 h)

theorem Tables.Keyed.approval {t : Tables} (keyed : t.Keyed) {id : MappingId}
    {record : ApprovalRecord} (h : t.approvals.get? id = some record) : record.mappingId = id := by
  have same := keyed _ _ ((row_approval t id record).2 h)
  simpa [Row.key] using same

/-! ## Writes of a transaction -/

namespace Transaction

/-- The transaction with a row in place. -/
def put (t : Transaction) (r : Row) : Transaction := t.write (t.tables.put r) r.key

@[simp] theorem tables_put (t : Transaction) (r : Row) : (t.put r).tables = t.tables.put r := rfl

theorem mem_writes_put {t : Transaction} {r : Row} {k : RowKey} :
    k ∈ (t.put r).writes ↔ k = r.key ∨ k ∈ t.writes := by
  simp only [put, write]
  split
  · rename_i h
    constructor
    · exact .inr
    · rintro (rfl | hk)
      · exact h
      · exact hk
  · exact List.mem_cons

theorem nodup_writes_put {t : Transaction} (h : t.writes.Nodup) (r : Row) :
    (t.put r).writes.Nodup := by
  simp only [put, write]
  split
  · exact h
  · rename_i hr
    exact List.nodup_cons.2 ⟨hr, h⟩

theorem putRecipient_eq_put (t : Transaction) (row : RecipientRow) :
    t.putRecipient row = t.put (.recipient row) := rfl

theorem contains_requests (t : Tables) (id : RevisionRequestId) :
    t.requests.contains id = (t.row (.request id)).isSome := by
  simp [Table.contains, Tables.row]

theorem contains_recipients (t : Tables) (requestId : RevisionRequestId)
    (recipientId : EmployeeId) :
    t.recipients.contains (requestId, recipientId) =
      (t.row (.recipient requestId recipientId)).isSome := by
  simp [Table.contains, Tables.row]

theorem insertRequest_eq (t : Transaction) (request : RevisionRequest) :
    t.insertRequest request =
      if (t.tables.row (.request request.id)).isSome then .error (duplicateRequest request.id)
      else .ok (t.put (.request request)) := by
  rw [insertRequest, contains_requests]
  rfl

theorem insertRecipient_eq (t : Transaction) (row : RecipientRow) :
    t.insertRecipient row =
      if (t.tables.row (.request row.requestId)).isNone then
        .error (unknownRequest row.requestId)
      else if (t.tables.row (.recipient row.requestId row.recipientId)).isSome then
        .error (duplicateRecipient row.requestId row.recipientId)
      else .ok (t.put (.recipient row)) := by
  rw [insertRecipient, contains_requests, contains_recipients, putRecipient_eq_put,
    Option.not_isSome]

theorem updateRecipient_eq (t : Transaction) (row : RecipientRow) :
    t.updateRecipient row =
      if t.canUpdate row then (true, t.put (.recipient row)) else (false, t) := rfl

/-! ## Transactions over a snapshot -/

/-- The transaction has worked on a copy of a snapshot. -/
structure Over (base : Tables) (t : Transaction) : Prop where
  /-- The copy keeps the versions of the snapshot. -/
  versions : t.tables.versions = base.versions
  /-- A row that was not written is as in the snapshot. -/
  untouched : ∀ k, k ∉ t.writes → t.tables.row k = base.row k
  /-- A row that was written stands under its own key. -/
  present : ∀ k ∈ t.writes, ∃ r, t.tables.row k = some r ∧ r.key = k
  /-- Each written row is remembered once. -/
  nodup : t.writes.Nodup
  /-- A revision request that was written is not in the snapshot. -/
  fresh : ∀ id, .request id ∈ t.writes → base.row (.request id) = none

theorem over_start (base : Tables) : Over base (start base) where
  versions := rfl
  untouched _ _ := rfl
  present _ h := absurd h List.not_mem_nil
  nodup := .nil
  fresh _ h := absurd h List.not_mem_nil

namespace Over

variable {base : Tables} {t : Transaction}

theorem version (h : Over base t) (k : RowKey) : t.tables.version k = base.version k := by
  rw [Tables.version, Tables.version, h.versions]

/-- A row may be put in place, a revision request only where there is none. -/
theorem put (h : Over base t) {r : Row}
    (new : ∀ id, r.key = .request id → t.tables.row (.request id) = none) :
    Over base (t.put r) where
  versions := by rw [tables_put, Tables.versions_put, h.versions]
  untouched k hk := by
    rw [mem_writes_put, not_or] at hk
    rw [tables_put, Tables.row_put, if_neg hk.1, h.untouched k hk.2]
  present k hk := by
    rw [tables_put, Tables.row_put]
    split
    · rename_i same
      exact ⟨r, rfl, same.symm⟩
    · rename_i hne
      exact h.present k ((mem_writes_put.1 hk).resolve_left hne)
  nodup := nodup_writes_put h.nodup r
  fresh id hk := by
    rcases mem_writes_put.1 hk with hr | hw
    · have none := new id hr.symm
      by_cases hw : RowKey.request id ∈ t.writes
      · exact h.fresh id hw
      · rw [← h.untouched _ hw, none]
    · exact h.fresh id hw

end Over

theorem canCommit_iff {t : Transaction} {committed : Tables} :
    t.canCommit committed = true ↔ ∀ k ∈ t.writes, t.tables.version k = committed.version k := by
  simp [canCommit, List.all_eq_true]

/-- A transaction that may commit finds the rows that it wrote as its snapshot had them. -/
theorem Over.row_eq {base committed : Tables} {t : Transaction} (h : Over base t)
    (evolves : base.Evolves committed) (can : t.canCommit committed = true) {k : RowKey}
    (hk : k ∈ t.writes) : base.row k = committed.row k := by
  refine evolves.row_eq k ?_
  rw [← h.version k]
  exact canCommit_iff.1 can k hk

theorem Over.evolves_publish {base committed : Tables} {t : Transaction} (h : Over base t)
    (evolves : base.Evolves committed) (can : t.canCommit committed = true) :
    committed.Evolves (committed.publish t.tables t.writes) where
  version_le k := by
    rw [Tables.version_publish _ _ h.nodup]
    split <;> omega
  row_eq k hk := by
    rw [Tables.version_publish _ _ h.nodup] at hk
    rw [Tables.row_publish, if_neg]
    intro hw
    rw [if_pos hw] at hk
    omega
  request_eq id r hr := by
    rw [Tables.row_publish, if_neg, hr]
    intro hw
    have none := h.fresh id hw
    rw [h.row_eq evolves can hw, hr] at none
    cases none

theorem Over.keyed_publish {base committed : Tables} {t : Transaction} (h : Over base t)
    (keyed : committed.Keyed) : (committed.publish t.tables t.writes).Keyed := by
  intro k r hr
  rw [Tables.row_publish] at hr
  split at hr
  · rename_i hk
    obtain ⟨r', hr', same⟩ := h.present k hk
    cases hr.symm.trans hr'
    exact same
  · exact keyed k r hr

/-- A commit that publishes a row changes the tables. -/
theorem publish_ne {committed : Tables} {t : Transaction} (distinct : t.writes.Nodup)
    (h : t.writes ≠ []) : committed.publish t.tables t.writes ≠ committed := by
  obtain ⟨k, hk⟩ := List.exists_mem_of_ne_nil _ h
  intro same
  have hv := Tables.version_publish committed t.tables distinct k
  rw [same, if_pos hk] at hv
  omega

end Transaction

/-! ## Store calls on a session -/

/-- The row that a store call has stored, judging by its answer. -/
def storedRow : (call : StoreCall) → Except Failure call.Value → Option Row
  | .saveApproval record, .ok () => some (.approval record)
  | .insertRequest request, .ok () => some (.request request)
  | .insertRecipient row, .ok () => some (.recipient row)
  | .updateRecipient row, .ok true => some (.recipient row)
  | _, _ => none

namespace Session

theorem writable_eq_ok_iff {s : Session} {t : Transaction} :
    s.writable = .ok t ↔ s.readOnly = false ∧ s.working = some t := by
  rw [writable]
  cases s.readOnly <;> cases s.working <;> simp

/-- A store call leaves the session as it is, or it stores the row that its answer tells of. -/
theorem store_cases (s : Session) (call : StoreCall) :
    storedRow call (s.store call).1 = none ∧ (s.store call).2 = s ∨
      ∃ t r, storedRow call (s.store call).1 = some r ∧ s.working = some t ∧
        s.readOnly = false ∧
        (∀ id, r.key = .request id → t.tables.row (.request id) = none) ∧
        (s.store call).2 = s.withTransaction (t.put r) := by
  cases call with
  | findApproval id => exact .inl ⟨rfl, rfl⟩
  | findRequest id => exact .inl ⟨rfl, rfl⟩
  | findRecipient requestId recipientId => exact .inl ⟨rfl, rfl⟩
  | recipientsOf requestId => exact .inl ⟨rfl, rfl⟩
  | listFor recipientId filter => exact .inl ⟨rfl, rfl⟩
  | countUnread recipientId => exact .inl ⟨rfl, rfl⟩
  | saveApproval record =>
    simp only [store, write]
    cases hw : s.writable with
    | error f => exact .inl ⟨rfl, rfl⟩
    | ok t =>
      obtain ⟨hro, ht⟩ := writable_eq_ok_iff.1 hw
      exact .inr ⟨t, .approval record, rfl, ht, hro, nofun, rfl⟩
  | insertRequest request =>
    simp only [store, write]
    cases hw : s.writable with
    | error f => exact .inl ⟨rfl, rfl⟩
    | ok t =>
      obtain ⟨hro, ht⟩ := writable_eq_ok_iff.1 hw
      simp only [Transaction.insertRequest_eq]
      cases hr : t.tables.row (.request request.id) with
      | some r => exact .inl ⟨rfl, rfl⟩
      | none =>
        refine .inr ⟨t, .request request, rfl, ht, hro, fun id h => ?_, rfl⟩
        cases h
        exact hr
  | insertRecipient row =>
    simp only [store, write]
    cases hw : s.writable with
    | error f => exact .inl ⟨rfl, rfl⟩
    | ok t =>
      obtain ⟨hro, ht⟩ := writable_eq_ok_iff.1 hw
      simp only [Transaction.insertRecipient_eq]
      cases hr : t.tables.row (.request row.requestId) with
      | none => exact .inl ⟨rfl, rfl⟩
      | some r =>
        cases he : t.tables.row (.recipient row.requestId row.recipientId) with
        | some e => exact .inl ⟨rfl, rfl⟩
        | none => exact .inr ⟨t, .recipient row, rfl, ht, hro, nofun, rfl⟩
  | updateRecipient row =>
    simp only [store, write]
    cases hw : s.writable with
    | error f => exact .inl ⟨rfl, rfl⟩
    | ok t =>
      obtain ⟨hro, ht⟩ := writable_eq_ok_iff.1 hw
      simp only [Transaction.updateRecipient_eq]
      cases t.canUpdate row with
      | false =>
        refine .inl ⟨rfl, ?_⟩
        cases s
        cases ht
        rfl
      | true => exact .inr ⟨t, .recipient row, rfl, ht, hro, nofun, rfl⟩

end Session

/-! ## Steps of a session -/

/-- What a call may make of a session while the committed tables are as given.  A call that fails
leaves the session as it is, unless it is the end of a transaction. -/
inductive Session.Step (committed : Tables) (s : Session) : SessionCall → Session → Prop
  /-- The call fails or only reads. -/
  | stay (call : SessionCall) : Step committed s call s
  /-- A transaction begins on a copy of the committed tables. -/
  | begin (isolation : Isolation) (closed : s.working = none) :
    Step committed s (.begin isolation) (s.withTransaction (.start committed))
  /-- The transaction may only read from now on. -/
  | setReadOnly (t : Transaction) (working : s.working = some t) :
    Step committed s .setReadOnly { s with readOnly := true }
  /-- A row is stored. -/
  | put (call : StoreCall) (t : Transaction) (r : Row) (working : s.working = some t)
    (writable : s.readOnly = false)
    (new : ∀ id, r.key = .request id → t.tables.row (.request id) = none) :
    Step committed s (.store call) (s.withTransaction (t.put r))
  /-- A savepoint is set. -/
  | savepoint (name : String) (t : Transaction) (working : s.working = some t) :
    Step committed s (.savepoint name) { s with savepoints := (name, t) :: s.savepoints }
  /-- A savepoint and those inside it are removed. -/
  | releaseSavepoint (name : String) (point : String × Transaction) (outer : Savepoints)
    (found : s.savepointsFrom name = point :: outer) :
    Step committed s (.releaseSavepoint name) { s with savepoints := outer }
  /-- The transaction goes back to a savepoint. -/
  | rollbackToSavepoint (name : String) (point : String × Transaction) (outer : Savepoints)
    (found : s.savepointsFrom name = point :: outer) :
    Step committed s (.rollbackToSavepoint name)
      { s with working := some point.2, savepoints := point :: outer }
  /-- The transaction is committed, or its commit fails. -/
  | commit (t : Transaction) (working : s.working = some t) : Step committed s .commit s.discard
  /-- The transaction is rolled back. -/
  | rollback : Step committed s .rollback s.discard
  /-- The session is given back. -/
  | release (held : s.released = false) :
    Step committed s .release { s.discard with released := true }

namespace Store

theorem step_begin (store : Store) (s : Session) (isolation : Isolation) :
    s.Step store.committed (.begin isolation) (store.begin s isolation).2.2 := by
  rw [begin]
  split
  · exact .stay _
  · split
    · exact .stay _
    · rename_i h
      exact .begin isolation (by simpa using h)

theorem step_setReadOnly (store : Store) (s : Session) :
    s.Step store.committed .setReadOnly (store.setReadOnly s).2.2 := by
  rw [setReadOnly]
  split
  · rename_i t ht
    exact .setReadOnly t ht
  · exact .stay _

theorem step_savepoint (store : Store) (s : Session) (name : String) :
    s.Step store.committed (.savepoint name) (store.savepoint s name).2.2 := by
  rw [savepoint]
  split
  · exact .stay _
  · split
    · exact .stay _
    · rename_i t ht
      exact .savepoint name t ht

theorem step_releaseSavepoint (store : Store) (s : Session) (name : String) :
    s.Step store.committed (.releaseSavepoint name) (store.releaseSavepoint s name).2.2 := by
  rw [releaseSavepoint]
  split
  · exact .stay _
  · rename_i point outer found
    exact .releaseSavepoint name point outer found

theorem step_rollbackToSavepoint (store : Store) (s : Session) (name : String) :
    s.Step store.committed (.rollbackToSavepoint name) (store.rollbackToSavepoint s name).2.2 := by
  rw [rollbackToSavepoint]
  split
  · exact .stay _
  · rename_i point outer found
    exact .rollbackToSavepoint name point outer found

theorem step_commit (store : Store) (s : Session) :
    s.Step store.committed .commit (store.commit s).2.2 := by
  rw [commit]
  split
  · exact .stay _
  · rename_i t ht
    split
    · exact .commit t ht
    · split
      · exact .commit t ht
      · exact .commit t ht

theorem step_release (store : Store) (s : Session) :
    s.Step store.committed .release (store.release s).2.2 := by
  rw [release]
  split
  · exact .stay _
  · rename_i h
    exact .release (by simpa using h)

/-- Every call is a step of its session. -/
theorem step_answer (store : Store) (s : Session) (call : SessionCall) :
    s.Step store.committed call (store.answer s call).2.2 := by
  cases call with
  | begin isolation => exact store.step_begin s isolation
  | setReadOnly => exact store.step_setReadOnly s
  | savepoint name => exact store.step_savepoint s name
  | releaseSavepoint name => exact store.step_releaseSavepoint s name
  | rollbackToSavepoint name => exact store.step_rollbackToSavepoint s name
  | commit => exact store.step_commit s
  | rollback => exact .rollback
  | release => exact store.step_release s
  | store call =>
    show s.Step store.committed (.store call) (s.store call).2
    rcases s.store_cases call with ⟨-, same⟩ | ⟨t, r, -, working, writable, new, after⟩
    · rw [same]
      exact .stay _
    · rw [after]
      exact .put call t r working writable new

/-- A commit leaves the committed tables as they are, or neither a fault nor another commit keeps
the transaction from publishing what it wrote. -/
theorem committed_commit (store : Store) (s : Session) :
    (store.commit s).2.1.committed = store.committed ∨
      ∃ t, s.working = some t ∧ s.readOnly = false ∧ t.canCommit store.committed = true ∧
        (store.commit s).2.1.committed = store.committed.publish t.tables t.writes := by
  rw [commit]
  split
  · exact .inl rfl
  · rename_i t ht
    split
    · exact .inl rfl
    · split
      · exact .inl rfl
      · rename_i hro
        simp only [publish]
        cases can : t.canCommit store.committed with
        | true => exact .inr ⟨t, ht, by simpa using hro, can, rfl⟩
        | false => exact .inl rfl

/-- No call but a commit touches the committed tables. -/
theorem committed_answer (store : Store) (s : Session) {call : SessionCall}
    (h : call ≠ .commit) : (store.answer s call).2.1.committed = store.committed := by
  cases call with
  | begin isolation =>
    simp only [answer, begin]
    split
    · rfl
    · split <;> rfl
  | setReadOnly => simp only [answer, setReadOnly]; split <;> rfl
  | savepoint name =>
    simp only [answer, savepoint]
    split
    · rfl
    · split <;> rfl
  | releaseSavepoint name => simp only [answer, releaseSavepoint]; split <;> rfl
  | rollbackToSavepoint name => simp only [answer, rollbackToSavepoint]; split <;> rfl
  | rollback => rfl
  | release => simp only [answer, release]; split <;> rfl
  | store call => rfl
  | commit => exact absurd rfl h

/-- A call leaves the committed tables as they are, or it is a commit that publishes. -/
theorem committed_answer_cases (store : Store) (s : Session) (call : SessionCall) :
    (store.answer s call).2.1.committed = store.committed ∨
      call = .commit ∧ ∃ t, s.working = some t ∧ s.readOnly = false ∧
        t.canCommit store.committed = true ∧
        (store.answer s call).2.1.committed = store.committed.publish t.tables t.writes := by
  by_cases commit : call = .commit
  · subst commit
    exact (store.committed_commit s).imp_right fun published => ⟨rfl, published⟩
  · exact .inl (store.committed_answer s commit)

end Store

/-- What a commit does to the committed tables, judging by its answer. -/
theorem commit_cases (store : Store) {u : Session} {t : Transaction}
    (transaction : u.working = some t) :
    (store.commit u).2.2 = u.discard ∧
      ((∃ f, (store.commit u).1 = .error f) ∧
          (store.commit u).2.1.committed = store.committed ∨
        (store.commit u).1 = .ok () ∧ u.readOnly = true ∧
          (store.commit u).2.1.committed = store.committed ∨
        (store.commit u).1 = .ok () ∧ u.readOnly = false ∧
          t.canCommit store.committed = true ∧
          (store.commit u).2.1.committed = store.committed.publish t.tables t.writes) := by
  simp only [Store.commit, transaction]
  cases store.faults.onCommit with
  | cons f faults => exact ⟨rfl, .inl ⟨⟨f, rfl⟩, rfl⟩⟩
  | nil =>
    cases u.readOnly with
    | true => exact ⟨rfl, .inr (.inl ⟨rfl, rfl, rfl⟩)⟩
    | false =>
      simp only [Store.publish]
      cases can : t.canCommit store.committed with
      | true => exact ⟨rfl, .inr (.inr ⟨rfl, trivial, rfl, rfl⟩)⟩
      | false => exact ⟨rfl, .inl ⟨⟨_, rfl⟩, rfl⟩⟩

/-! ## Sound sessions -/

namespace Session

/-- The session works on a copy of a snapshot, in its transaction and in all savepoints. -/
structure Sound (base : Tables) (s : Session) : Prop where
  /-- A session without a transaction has no savepoints and may write. -/
  closed : s.working = none → s.savepoints = [] ∧ s.readOnly = false
  /-- The transaction works on a copy of the snapshot. -/
  working : ∀ t, s.working = some t → t.Over base
  /-- So did the transaction whenever a savepoint was set. -/
  savepoints : ∀ p ∈ s.savepoints, p.2.Over base

/-- A session without a transaction is sound over every snapshot. -/
theorem sound_of_closed {s : Session} (working : s.working = none)
    (closed : s.savepoints = [] ∧ s.readOnly = false) (base : Tables) : s.Sound base where
  closed _ := closed
  working t ht := by rw [working] at ht; cases ht
  savepoints p hp := by rw [closed.1] at hp; cases hp

theorem sound_default (base : Tables) : (default : Session).Sound base :=
  sound_of_closed rfl ⟨rfl, rfl⟩ base

theorem mem_of_mem_savepointsFrom {s : Session} {name : String} {p : String × Transaction}
    (h : p ∈ s.savepointsFrom name) : p ∈ s.savepoints :=
  (List.dropWhile_sublist _).subset h

/-- A transaction begins between two states of a session. -/
def begins (before after : Session) : Bool := before.working.isNone && after.working.isSome

theorem begins_of_open {s s' : Session} (h : s.working.isSome) : begins s s' = false := by
  cases hw : s.working with
  | none => rw [hw] at h; cases h
  | some t => simp [begins, hw]

theorem begins_of_closed {s s' : Session} (h : s'.working = none) : begins s s' = false := by
  simp [begins, h]

@[simp] theorem begins_self (s : Session) : begins s s = false := by
  cases h : s.working <;> simp [begins, h]

/-- Only a session with a transaction has savepoints. -/
theorem isSome_of_savepointsFrom {s : Session} {name : String} {point : String × Transaction}
    {outer : Savepoints} (closed : s.working = none → s.savepoints = [])
    (found : s.savepointsFrom name = point :: outer) : s.working.isSome := by
  cases hw : s.working with
  | some t => rfl
  | none =>
    have mem : point ∈ s.savepoints :=
      mem_of_mem_savepointsFrom (found ▸ List.mem_cons_self : point ∈ s.savepointsFrom name)
    rw [closed hw] at mem
    cases mem

/-- A step preserves soundness.  If a transaction begins with it, the snapshot is new. -/
theorem Sound.step {base committed : Tables} {s s' : Session} {call : SessionCall}
    (h : s.Sound base) (step : s.Step committed call s') :
    s'.Sound (if begins s s' then committed else base) := by
  have keep : s'.Sound base → (s.working = none → s'.working = none) →
      s'.Sound (if begins s s' then committed else base) := by
    intro sound stays
    cases hw : s.working with
    | some t => simpa [begins, hw] using sound
    | none => simpa [begins, stays hw] using sound
  have noSavepoint : ∀ {name point outer}, s.savepointsFrom name = point :: outer →
      s.working ≠ none := by
    intro name point outer found hn
    have mem := mem_of_mem_savepointsFrom (found ▸ List.mem_cons_self : point ∈ s.savepointsFrom name)
    rw [(h.closed hn).1] at mem
    cases mem
  cases step with
  | stay => exact keep h id
  | begin isolation closed =>
    have : begins s (s.withTransaction (.start committed)) = true := by
      simp [begins, closed, withTransaction]
    rw [if_pos this]
    refine ⟨nofun, fun t ht => ?_, fun p hp => ?_⟩
    · cases ht
      exact Transaction.over_start _
    · have none := (h.closed closed).1
      simp only [withTransaction, none] at hp
      cases hp
  | setReadOnly t working =>
    exact keep ⟨fun hn => absurd (working.symm.trans hn) nofun, h.working, h.savepoints⟩ id
  | put call t r working writable new =>
    refine keep ⟨nofun, fun u hu => ?_, h.savepoints⟩ fun hn => absurd (working.symm.trans hn) nofun
    cases hu
    exact (h.working t working).put new
  | savepoint name t working =>
    refine keep ⟨fun hn => absurd (working.symm.trans hn) nofun, h.working, fun p hp => ?_⟩ id
    rcases List.mem_cons.1 hp with rfl | hp
    · exact h.working t working
    · exact h.savepoints p hp
  | releaseSavepoint name point outer found =>
    refine keep ⟨fun hn => absurd hn (noSavepoint found), h.working, fun p hp => ?_⟩ id
    exact h.savepoints p (mem_of_mem_savepointsFrom (found ▸ List.mem_cons_of_mem _ hp))
  | rollbackToSavepoint name point outer found =>
    have mem : ∀ p ∈ point :: outer, p.2.Over base := fun p hp =>
      h.savepoints p (mem_of_mem_savepointsFrom (found ▸ hp))
    refine keep ⟨nofun, fun t ht => ?_, mem⟩ fun hn => absurd hn (noSavepoint found)
    cases ht
    exact mem point List.mem_cons_self
  | commit t working => exact keep (sound_of_closed rfl ⟨rfl, rfl⟩ base) fun _ => rfl
  | rollback => exact keep (sound_of_closed rfl ⟨rfl, rfl⟩ base) fun _ => rfl
  | release held => exact keep (sound_of_closed rfl ⟨rfl, rfl⟩ base) fun _ => rfl

end Session

/-- If the snapshot of an open transaction evolved into the committed tables, every call lets these
evolve. -/
theorem Store.evolves_answer {base : Tables} {store : Store} {s : Session} (h : s.Sound base)
    (evolves : s.working.isSome → base.Evolves store.committed) (call : SessionCall) :
    store.committed.Evolves (store.answer s call).2.1.committed := by
  rcases store.committed_answer_cases s call with same | ⟨-, t, ht, -, can, after⟩
  · rw [same]
    exact .refl _
  · rw [after]
    exact (h.working t ht).evolves_publish (evolves (by rw [ht]; rfl)) can

/-- Every call leaves rows under their own keys. -/
theorem Store.keyed_answer {base : Tables} {store : Store} {s : Session} (h : s.Sound base)
    (keyed : store.committed.Keyed) (call : SessionCall) :
    (store.answer s call).2.1.committed.Keyed := by
  rcases store.committed_answer_cases s call with same | ⟨-, t, ht, -, -, after⟩
  · rwa [same]
  · rw [after]
    exact (h.working t ht).keyed_publish keyed

end Appraisal.Memory
