import Appraisal.Proofs.Concurrent.Attachment
import Appraisal.Proofs.Workflow.Consistent
import Appraisal.Proofs.Workflow.Solo

/-!
# A change of status from end to end

What a change of status comes to on a store of one's own, as one case distinction over all states
and changes (`Solo.Verdict`, `Solo.setStepStatus_verdict`).

*Preparation.*  A change may be turned down for its comment, for its mapping or for its recipients,
in this order and before a session is opened.  A change that is not turned down is settled in one
transaction (`Solo.Settles`).

*Transaction.*  Three cases carry the content:

* If the step has the status already, nothing is stored, not even a record that was made up for a
  mapping without one.
* If the change asks for a revision and its identifier is taken, the record has been stored in the
  transaction when the request is refused.  A duplicate is no reason to try again, so the call ends
  after one attempt, and the record is gone with the transaction.
* Otherwise the record and the revision are published together.  The rows of recipients find no
  others with their keys, because in tables that can be reached these belong to requests, and the
  identifier is free (`Tables.Attached`).
-/

namespace Appraisal

/-- A record is another one with one step in a new state and otherwise the same, but for the time of
its last change. -/
structure ApprovalRecord.Moves (old new : ApprovalRecord) (step : Step) (state : StepState)
    (now : Instant) : Prop where
  mappingId : new.mappingId = old.mappingId
  state : ∀ other, new.state other = if step = other then state else old.state other
  createdAt : new.createdAt = old.createdAt
  updatedAt : new.updatedAt = now

theorem ApprovalRecord.moves_change (r : ApprovalRecord) (step : Step) (status : Status)
    (by_ : EmployeeId) (now : Instant) :
    r.Moves (r.change step status by_ now) step ⟨status, some now, some by_⟩ now where
  mappingId := r.mappingId_withState step _
  state := Memory.state_change r step status by_ now
  createdAt := r.createdAt_withState step _
  updatedAt := rfl

namespace Memory

open Workflow

namespace Solo

variable {q q' : Solo} {t : Transaction}

/-! ## Creating a request -/

section

variable {id : RevisionRequestId} {request : RevisionRequest} {recipients : List Recipient}

theorem perform_insertRows (writable : q.session.writable = .ok t)
    (requested : (t.tables.row (.request id)).isSome)
    (absent : ∀ r ∈ recipients, t.tables.row (.recipient id r.id) = none)
    (distinct : (recipients.map Recipient.id).Nodup) :
    q.perform (insertRows id recipients) =
      (.ok (freshRows id recipients), q.plus ((freshRows id recipients).map .recipient)) := by
  induction recipients generalizing q t with
  | nil => rw [freshRows, List.map_nil, List.map_nil, plus_nil]; rfl
  | cons r recipients ih =>
    obtain ⟨free, absent⟩ := List.forall_mem_cons.1 absent
    obtain ⟨other, distinct⟩ := List.nodup_cons.1 distinct
    let row : Row := .recipient (.fresh id r.id r.role)
    have first : q.perform (Work.insertRecipient (.fresh id r.id r.role)) =
        (.ok (), q.plus [row]) :=
      perform_store (Session.store_insertRecipient writable requested free)
    have stays : ∀ k, k ≠ .recipient id r.id → (t.putAll [row]).tables.row k = t.tables.row k :=
      fun k other => by
        rw [Transaction.tables_putAll, Tables.row_putAll_of_not_mem]
        exact fun mem => other (List.mem_singleton.1 mem)
    have rest := ih (q := q.plus [row]) (Session.writable_plus writable [row])
      (by rwa [stays (.request id) (fun same => by cases same)])
      (fun r' mem => by
        rw [stays _ fun same => other ?_, absent r' mem]
        rw [← (RowKey.recipient.inj same).2]
        exact List.mem_map_of_mem mem)
      distinct
    show q.perform (Work.insertRecipient (.fresh id r.id r.role) >>= fun _ =>
      insertRows id recipients >>= fun rows => pure (.fresh id r.id r.role :: rows)) = _
    rw [perform_bind first, perform_bind rest, perform_pure, plus_plus]
    rfl

/-- A request is created where there is none, and its rows find no others. -/
theorem perform_createIn (writable : q.session.writable = .ok t) (attached : t.tables.Attached)
    (absent : t.tables.row (.request request.id) = none) :
    q.perform (createIn request recipients) =
      (.ok (freshRows request.id (Recipient.distinct recipients)),
        q.plus (createdRows request recipients)) := by
  have first : q.perform (Work.insertRequest request) = (.ok (), q.plus [.request request]) :=
    perform_store (Session.store_insertRequest writable absent)
  have rest : (q.plus [.request request]).perform
      (insertRows request.id (Recipient.distinct recipients)) =
        (.ok (freshRows request.id (Recipient.distinct recipients)),
          (q.plus [.request request]).plus
            ((freshRows request.id (Recipient.distinct recipients)).map .recipient)) := by
    refine perform_insertRows (Session.writable_plus writable [.request request]) ?_ (fun r _ => ?_)
      (Recipient.nodup_distinct recipients)
    · rw [Transaction.tables_putAll]
      exact Tables.isSome_row_putAll (List.mem_singleton.2 rfl)
    · rw [Transaction.tables_putAll, Tables.row_putAll_of_not_mem (by simp [Row.key]), Tables.row,
        attached.recipient_eq_none absent]
      rfl
  rw [createIn, perform_bind first, perform_bind rest, perform_bind (perform_log _ _ _ _),
    perform_pure, plus_plus]
  rfl

theorem perform_createIn_error (writable : q.session.writable = .ok t)
    (stored : (t.tables.row (.request request.id)).isSome) :
    q.perform (createIn request recipients) =
      (.error (.storage (Transaction.duplicateRequest request.id)), q) := by
  have first : q.perform (Work.insertRequest request) =
      (.error (.storage (Transaction.duplicateRequest request.id)), q) :=
    perform_store_error (Session.store_insertRequest_error writable stored)
  rw [createIn, perform_bind_error first]

theorem nodup_keys_createdRows (request : RevisionRequest) (recipients : List Recipient) :
    ((createdRows request recipients).map Row.key).Nodup := by
  have keys :
      ((freshRows request.id (Recipient.distinct recipients)).map Row.recipient).map Row.key =
        ((Recipient.distinct recipients).map Recipient.id).map (.recipient request.id ·) := by
    simp [freshRows, Row.key, RecipientRow.fresh]
  rw [createdRows, List.map_cons, keys, List.nodup_cons]
  refine ⟨by simp [Row.key], ?_⟩
  exact (Recipient.nodup_distinct recipients).map fun _ _ same => (RowKey.recipient.inj same).2

end

/-! ## The change in its transaction -/

section

variable {change : StepStatusChange} {revision : Option PreparedRevision}

theorem perform_requestRevision (writable : q.session.writable = .ok t)
    (attached : t.tables.Attached)
    (absent : ∀ p, revision = some p → t.tables.row (.request p.request.id) = none) :
    q.perform (requestRevision revision) =
      (.ok (revisionEvents revision), q.plus (revisionRows revision)) := by
  cases revision with
  | none => rw [revisionRows, plus_nil]; rfl
  | some p =>
    rw [requestRevision, perform_bind (perform_createIn writable attached (absent p rfl))]
    rfl

/-- A step that has the status stays as it is. -/
theorem perform_applyChange_same (working : q.session.working = some t)
    (status : (foundRecord t.tables change q.clock.head).status change.step = change.status) :
    q.perform (applyChange change revision) =
      (.ok (.ofValue ⟨foundRecord t.tables change q.clock.head, false⟩), q.ticked) := by
  have found : q.ticked.perform (Work.findApproval change.mappingId) =
      (.ok (t.tables.approvals.get? change.mappingId), q.ticked) :=
    perform_reading (q := q.ticked) working trivial
  rw [foundRecord] at status ⊢
  rw [applyChange, perform_bind (perform_now q), perform_bind found]
  simp only [status, if_true]
  rw [perform_bind (perform_log _ _ _ _), perform_pure]

/-- A step that is given a new status is stored, and what follows depends on the revision. -/
theorem perform_applyChange_bind (writable : q.session.writable = .ok t)
    (status : (foundRecord t.tables change q.clock.head).status change.step ≠ change.status) :
    q.perform (applyChange change revision) =
      (q.ticked.plus [.approval (changedRecord t.tables change q.clock.head)]).perform (do
        let requested ← requestRevision revision
        return ⟨⟨changedRecord t.tables change q.clock.head, true⟩,
          changeEvent t.tables change q.clock.head :: requested⟩) := by
  have found : q.ticked.perform (Work.findApproval change.mappingId) =
      (.ok (t.tables.approvals.get? change.mappingId), q.ticked) :=
    perform_reading (q := q.ticked) (Session.writable_eq_ok_iff.1 writable).2 trivial
  have saved : q.ticked.perform
      (Work.saveApproval (changedRecord t.tables change q.clock.head)) =
        (.ok (), q.ticked.plus [.approval (changedRecord t.tables change q.clock.head)]) :=
    perform_store (Session.store_saveApproval writable _)
  rw [changedRecord, changeEvent, foundRecord] at *
  rw [applyChange, perform_bind (perform_now q), perform_bind found]
  simp only [status, if_false]
  rw [perform_bind saved]

/-- A step that is given a new status is stored together with the revision that is asked for. -/
theorem perform_applyChange (writable : q.session.writable = .ok t) (attached : t.tables.Attached)
    (status : (foundRecord t.tables change q.clock.head).status change.step ≠ change.status)
    (absent : ∀ p, revision = some p → t.tables.row (.request p.request.id) = none) :
    q.perform (applyChange change revision) =
      (.ok ⟨⟨changedRecord t.tables change q.clock.head, true⟩,
          changeEvent t.tables change q.clock.head :: revisionEvents revision⟩,
        q.ticked.plus (.approval (changedRecord t.tables change q.clock.head) ::
          revisionRows revision)) := by
  let record : Row := .approval (changedRecord t.tables change q.clock.head)
  have same : (t.putAll [record]).tables = t.tables.put record := t.tables_putAll [record]
  have requested : (q.ticked.plus [record]).perform (requestRevision revision) =
      (.ok (revisionEvents revision), (q.ticked.plus [record]).plus (revisionRows revision)) := by
    refine perform_requestRevision (Session.writable_plus writable [record]) ?_ fun p hp => ?_
    · rw [same]
      exact attached.put fun id e key => by cases key
    · rw [same, Tables.row_put, if_neg (fun key => by cases key), absent p hp]
  rw [perform_applyChange_bind writable status, perform_bind requested, plus_plus, perform_pure]
  rfl

/-- A revision that is stored already makes the change fail. -/
theorem perform_applyChange_error (writable : q.session.writable = .ok t)
    (status : (foundRecord t.tables change q.clock.head).status change.step ≠ change.status)
    {p : PreparedRevision} (stored : (t.tables.row (.request p.request.id)).isSome) :
    q.perform (applyChange change (some p)) =
      (.error (.storage (Transaction.duplicateRequest p.request.id)),
        q.ticked.plus [.approval (changedRecord t.tables change q.clock.head)]) := by
  let record : Row := .approval (changedRecord t.tables change q.clock.head)
  have refused : (q.ticked.plus [record]).perform (createIn p.request p.recipients) =
      (.error (.storage (Transaction.duplicateRequest p.request.id)), q.ticked.plus [record]) := by
    refine perform_createIn_error (Session.writable_plus writable [record]) ?_
    rw [Transaction.tables_putAll]
    exact Tables.isSome_putAll_of_isSome stored _
  have ended : (q.ticked.plus [record]).perform (requestRevision (some p)) =
      (.error (.storage (Transaction.duplicateRequest p.request.id)), q.ticked.plus [record]) :=
    perform_bind_error refused
  rw [perform_applyChange_bind writable status, perform_bind_error ended]

/-- A change stores no row twice. -/
theorem nodup_keys_changed (record : ApprovalRecord) (revision : Option PreparedRevision) :
    ((Row.approval record :: revisionRows revision).map Row.key).Nodup := by
  cases revision with
  | none => exact List.nodup_singleton _
  | some p =>
    rw [List.map_cons, List.nodup_cons]
    refine ⟨fun there => ?_, nodup_keys_createdRows p.request p.recipients⟩
    rcases mem_keys_createdRows.1 there with same | ⟨e, -, same⟩ <;> cases same

end

/-! ## Before the transaction -/

section

variable {change : StepStatusChange} {mapping : EvaluationMapping}

/-- The request for the revision that a change asks for. -/
def request (q : Solo) (change : StepStatusChange) (mapping : EvaluationMapping) :
    RevisionRequest where
  id := Id.random q.bits.head
  mappingId := mapping.id
  periodId := mapping.periodId
  employeeId := mapping.employeeId
  step := change.step
  comment := change.revisionComment.getD ""
  requestedBy := change.actedBy
  requestedAt := q.clock.head

/-- The revision that a change asks for, if it asks for one. -/
def revision? (q : Solo) (change : StepStatusChange) (mapping : EvaluationMapping) :
    Option PreparedRevision :=
  if change.status = .revisionRequested then
    some ⟨q.request change mapping, mapping.recipientsFor change.step change.recipients⟩
  else none

/-- The client when its change has been prepared. -/
def prepared (q : Solo) (change : StepStatusChange) : Solo :=
  if change.status = .revisionRequested then
    { q with clock := q.clock.tail, bits := q.bits.tail }
  else q

theorem clock_prepared (q : Solo) (change : StepStatusChange) :
    (q.prepared change).clock.head =
      if change.status = .revisionRequested then q.clock.get 1 else q.clock.head := by
  rw [prepared]
  split <;> rfl

theorem store_prepared (q : Solo) (change : StepStatusChange) :
    (q.prepared change).store = q.store := by
  rw [prepared]
  split <;> rfl

theorem perform_requireMapping {id : MappingId} (found : q.store.findMapping id = some mapping) :
    q.perform (requireMapping id) = (.ok mapping, q) := by
  have looked : q.perform (Work.ofAnswer (Action.findMapping id)) = (.ok (some mapping), q) :=
    perform_ofAnswer (by rw [← found]; rfl)
  rw [requireMapping, perform_bind looked, perform_pure]

theorem perform_requireMapping_error {id : MappingId} (unknown : q.store.findMapping id = none) :
    q.perform (requireMapping id) = (.error (.mappingNotFound id), q) := by
  have looked : q.perform (Work.ofAnswer (Action.findMapping id)) = (.ok none, q) :=
    perform_ofAnswer (by rw [← unknown]; rfl)
  rw [requireMapping, perform_bind looked]
  rfl

/-- A change that asks for a revision is turned down without a comment. -/
theorem perform_prepareChange_uncommented (asks : change.status = .revisionRequested)
    (blank : change.revisionComment.all Text.allBlank = true) :
    q.perform (Call.prepareChange change) =
      (.error (.validation "a revision comment is required"), q) := by
  rw [Call.prepareChange, changeComment_eq, if_pos ⟨asks, blank⟩,
    perform_bind_error (q.perform_ofCheck _)]

section

variable (commented : ¬ (change.status = .revisionRequested ∧
  change.revisionComment.all Text.allBlank = true))

include commented

/-- What is prepared once the comment has been checked. -/
theorem perform_prepareChange_bind :
    q.perform (Call.prepareChange change) = q.perform (do
      let mapping ← requireMapping change.mappingId
      prepareRevision mapping change
        (if change.status = .revisionRequested then some (change.revisionComment.getD "")
          else none)) := by
  rw [Call.prepareChange, changeComment_eq, if_neg commented]
  split <;> rw [perform_bind (q.perform_ofCheck _)]

theorem perform_prepareChange_unknown (unknown : q.store.findMapping change.mappingId = none) :
    q.perform (Call.prepareChange change) = (.error (.mappingNotFound change.mappingId), q) := by
  rw [perform_prepareChange_bind commented,
    perform_bind_error (perform_requireMapping_error unknown)]

theorem perform_prepareChange_unaddressed
    (found : q.store.findMapping change.mappingId = some mapping)
    (asks : change.status = .revisionRequested)
    (nobody : mapping.recipientsFor change.step change.recipients = []) :
    q.perform (Call.prepareChange change) =
      (.error (.validation s!"no recipients for a revision of the {change.step.text} step"),
        q) := by
  rw [perform_prepareChange_bind commented, perform_bind (perform_requireMapping found),
    if_pos asks, prepareRevision, checkRecipients_eq, if_pos nobody,
    perform_bind_error (q.perform_ofCheck _)]

theorem perform_prepareChange (found : q.store.findMapping change.mappingId = some mapping)
    (addressed : change.status = .revisionRequested →
      mapping.recipientsFor change.step change.recipients ≠ []) :
    q.perform (Call.prepareChange change) =
      (.ok (q.revision? change mapping), q.prepared change) := by
  rw [perform_prepareChange_bind commented, perform_bind (perform_requireMapping found), revision?,
    prepared]
  by_cases asks : change.status = .revisionRequested
  · rw [if_pos asks, if_pos asks, if_pos asks, prepareRevision, checkRecipients_eq,
      if_neg (addressed asks), perform_bind (q.perform_ofCheck _)]
    rfl
  · rw [if_neg asks, if_neg asks, if_neg asks]
    rfl

end

end

/-! ## The call -/

/-- What a change of status with a mapping comes to once it has been prepared. -/
def Settles (q : Solo) (change : StepStatusChange) (mapping : EvaluationMapping)
    (result : Except WorkflowError ApprovalRecord) (left : Tables) : Prop :=
  let asks := change.status = .revisionRequested
  let base := q.store.committed
  let now := if asks then q.clock.get 1 else q.clock.head
  let id : RevisionRequestId := Id.random q.bits.head
  let found := foundRecord base change now
  if found.status change.step = change.status then
    result = .ok found ∧ left = base
  else if asks ∧ (base.row (.request id)).isSome then
    result = .error (.transaction
      ⟨.uniqueViolation, Transaction.duplicateRequest id, "set_step_status", 1⟩) ∧ left = base
  else
    ∃ record, result = .ok record ∧ record.mappingId = change.mappingId ∧
      found.Moves record change.step ⟨change.status, some now, some change.actedBy⟩ now ∧
      base.Gains (.approval record :: revisionRows (q.revision? change mapping)) left

/-- What a change of status comes to: its result, and the store that it leaves.  The cases are tried
in this order.  In the first three the store is as it was, so no session has been opened. -/
def Verdict (q : Solo) (change : StepStatusChange) (result : Except WorkflowError ApprovalRecord)
    (left : Store) : Prop :=
  let asks := change.status = .revisionRequested
  if asks ∧ change.revisionComment.all Text.allBlank then
    result = .error (.validation "a revision comment is required") ∧ left = q.store
  else match q.store.findMapping change.mappingId with
  | none => result = .error (.mappingNotFound change.mappingId) ∧ left = q.store
  | some mapping =>
    if asks ∧ change.recipients = [] ∧ mapping.defaultRecipients change.step = [] then
      result = .error
        (.validation s!"no recipients for a revision of the {change.step.text} step") ∧
      left = q.store
    else q.Settles change mapping result left.committed

section

variable {change : StepStatusChange} {revision : Option PreparedRevision}

section

variable {p : Solo} (s : Service)
  (ready : q.perform (Call.prepareChange change) = (.ok revision, p))
  (onBegin : p.store.faults.onBegin = [])

include ready onBegin

/-- A change that finds the status in place publishes nothing. -/
theorem comesTo_setStepStatus_same (onCommit : p.store.faults.onCommit = [])
    (status : (foundRecord p.store.committed change p.clock.head).status change.step =
      change.status) :
    q.ComesTo s (.setStepStatus change) (.ok (foundRecord p.store.committed change p.clock.head))
      p.store.committed [] :=
  comesTo_of_stored (c := .setStepStatus change) ready onBegin onCommit
    (perform_applyChange_same (q := p.readied (.atIsolation .serializable)) rfl status) rfl
    (Session.plus_nil _).symm

/-- A change whose request is stored already gives up after one attempt. -/
theorem comesTo_setStepStatus_taken {r : PreparedRevision} (asked : revision = some r)
    (status : (foundRecord p.store.committed change p.clock.head).status change.step ≠
      change.status)
    (stored : (p.store.committed.row (.request r.request.id)).isSome) :
    q.ComesTo s (.setStepStatus change)
      (.error (.transaction
        ⟨.uniqueViolation, Transaction.duplicateRequest r.request.id, "set_step_status", 1⟩))
      p.store.committed [] := by
  subst asked
  have final : Final (.storage (Transaction.duplicateRequest r.request.id)) := by
    rintro f ⟨⟩
    rfl
  exact comesTo_of_error (c := .setStepStatus change) ready onBegin final
    (perform_applyChange_error (q := p.readied (.atIsolation .serializable)) rfl status stored) rfl

/-- Any other change publishes the changed record and the revision. -/
theorem comesTo_setStepStatus_moved (onCommit : p.store.faults.onCommit = [])
    (attached : p.store.committed.Attached)
    (status : (foundRecord p.store.committed change p.clock.head).status change.step ≠
      change.status)
    (absent : ∀ r, revision = some r → p.store.committed.row (.request r.request.id) = none) :
    ∃ left, p.store.committed.Gains
        (.approval (changedRecord p.store.committed change p.clock.head) :: revisionRows revision)
        left ∧
      q.ComesTo s (.setStepStatus change)
        (.ok (changedRecord p.store.committed change p.clock.head)) left
        (changeEvent p.store.committed change p.clock.head :: revisionEvents revision) :=
  ⟨_, gains_leaves _ (nodup_keys_changed _ _),
    comesTo_of_stored (c := .setStepStatus change) ready onBegin onCommit
      (perform_applyChange (q := p.readied (.atIsolation .serializable)) rfl attached status absent)
      rfl rfl⟩

end

/-- What a change that has been prepared comes to. -/
theorem settles_of_ready (s : Service) {mapping : EvaluationMapping}
    (reached : q.store.committed.Reached) (onBegin : q.store.faults.onBegin = [])
    (onCommit : q.store.faults.onCommit = [])
    (ready : q.perform (Call.prepareChange change) =
      (.ok (q.revision? change mapping), q.prepared change)) :
    q.Settles change mapping (q.perform (setStepStatus s change)).1
      (q.perform (setStepStatus s change)).2.store.committed := by
  have store := q.store_prepared change
  rw [← store] at reached onBegin onCommit
  rw [Settles, ← q.clock_prepared, ← store]
  split
  · rename_i status
    have comes := comesTo_setStepStatus_same s ready onBegin onCommit status
    exact ⟨comes.result, comes.left⟩
  · rename_i status
    split
    · rename_i taken
      have asked : q.revision? change mapping = some ⟨q.request change mapping, _⟩ :=
        if_pos taken.1
      have comes := comesTo_setStepStatus_taken s ready onBegin asked status taken.2
      exact ⟨comes.result, comes.left⟩
    · rename_i free
      obtain ⟨left, gains, comes⟩ := comesTo_setStepStatus_moved s ready onBegin onCommit
        reached.attached status fun r asked => by
          rw [revision?] at asked
          split at asked
          · rename_i asks
            cases asked
            exact Option.not_isSome_iff_eq_none.1 fun stored => free ⟨asks, stored⟩
          · cases asked
      exact ⟨_, comes.result, RowKey.approval.inj (key_changedRecord reached.keyed change _),
        ApprovalRecord.moves_change .., comes.left.symm ▸ gains⟩

/-- Everything that a change of status comes to on a store that nobody else uses, whatever the
mappings and handlers, the settings, the clock and the identifier that is generated. -/
theorem setStepStatus_verdict (s : Service) (change : StepStatusChange) (q : Solo)
    (reached : q.store.committed.Reached) (onBegin : q.store.faults.onBegin = [])
    (onCommit : q.store.faults.onCommit = []) :
    q.Verdict change (q.perform (setStepStatus s change)).1
      (q.perform (setStepStatus s change)).2.store := by
  have refused : ∀ e, q.perform (Call.prepareChange change) = (.error e, q) →
      (q.perform (setStepStatus s change)).1 = .error e ∧
        (q.perform (setStepStatus s change)).2.store = q.store := by
    intro e refused
    have ended : q.perform (setStepStatus s change) = (.error e, q) :=
      perform_action_refused (c := .setStepStatus change) refused
    rw [ended]
    exact ⟨rfl, rfl⟩
  rw [Verdict]
  split
  · rename_i lacks
    exact refused _ (perform_prepareChange_uncommented lacks.1 lacks.2)
  · rename_i commented
    split
    · rename_i unknown
      exact refused _ (perform_prepareChange_unknown commented unknown)
    · rename_i mapping found
      split
      · rename_i nobody
        exact refused _ (perform_prepareChange_unaddressed commented found nobody.1
          ((mapping.recipientsFor_eq_nil_iff _ _).2
            ((mapping.addressees_eq_nil_iff _ _).2 nobody.2)))
      · rename_i addressed
        have ready : q.perform (Call.prepareChange change) =
            (.ok (q.revision? change mapping), q.prepared change) :=
          perform_prepareChange commented found fun asks nobody =>
            addressed ⟨asks, (mapping.addressees_eq_nil_iff _ _).1
              ((mapping.recipientsFor_eq_nil_iff _ _).1 nobody)⟩
        exact settles_of_ready s reached onBegin onCommit ready

end

/-- A client of a store with one mapping and no rows. -/
def newcomer : Solo where
  store := System.oneMapping
  session := default
  clock _ := default
  bits _ := default
  reactions _ := .ok ()

/-- A change that asks for a revision of the criteria. -/
def askForCriteria : StepStatusChange :=
  ⟨default, .criteria, .revisionRequested, default, some "x", []⟩

/-- The record and the request are stored, with a row for the evaluatee. -/
theorem setStepStatus_verdict_askForCriteria :
    ∃ record, (newcomer.perform (setStepStatus ⟨default, default⟩ askForCriteria)).1 = .ok record ∧
      record.status .criteria = .revisionRequested ∧ record.status .primary = .pending ∧
      Tables.Gains default
        [.approval record,
          .request (newcomer.request askForCriteria (.fresh default default default)),
          .recipient (.fresh (Id.random default) default .evaluatee)]
        (newcomer.perform (setStepStatus ⟨default, default⟩ askForCriteria)).2.store.committed := by
  have reached : newcomer.store.committed.Reached := ⟨default, [], rfl, rfl⟩
  have found : newcomer.store.findMapping askForCriteria.mappingId =
      some (.fresh default default default) := rfl
  have verdict := setStepStatus_verdict ⟨default, default⟩ askForCriteria newcomer reached rfl rfl
  rw [Verdict, if_neg (by decide), found] at verdict
  dsimp only at verdict
  rw [if_neg (by decide), Settles, if_neg (by decide), if_neg (by decide)] at verdict
  obtain ⟨record, result, -, moves, gains⟩ := verdict
  refine ⟨record, result, ?_, ?_, gains⟩
  · rw [ApprovalRecord.status, moves.state]
    rfl
  · rw [ApprovalRecord.status, moves.state]
    rfl

end Solo

end Memory

end Appraisal
