import Appraisal.Proofs.Workflow.Growth

/-!
# Consistent tables

What always holds of the committed tables (`Tables.Consistent`): rows stand under their own keys,
requests and the rows of their recipients belong together, what a row says of being read and
completed agrees and is in order, a record says when and by whom each step was changed, and a step
that is to be revised has a request.

The times are in order because a deed is dated after the begin of its transaction, and the tables
that this found hold no later time.  So a deed leaves consistent tables on the ones that the
transaction began on (`Timely.consistent`), and its commit does on those that it finds
(`Merged.consistent`).
-/

namespace Appraisal

/-! ## Records -/

/-- What a record says of its steps agrees and is in order. -/
structure ApprovalRecord.Ordered (record : ApprovalRecord) : Prop where
  /-- A step says who changed it exactly if it says when. -/
  signed : ∀ step, (record.state step).updatedAt.isSome = (record.state step).updatedBy.isSome
  /-- A step that nobody changed is pending. -/
  untouched : ∀ step, (record.state step).updatedAt = none → record.status step = .pending
  /-- No step was changed before the record was made. -/
  created : ∀ step at_, (record.state step).updatedAt = some at_ → record.createdAt ≤ at_
  /-- No step was changed later than the record says. -/
  bounded : ∀ step at_, (record.state step).updatedAt = some at_ → at_ ≤ record.updatedAt

/-- The record is in order and was last changed with a step. -/
structure ApprovalRecord.Consistent (record : ApprovalRecord) : Prop extends record.Ordered where
  /-- Some step was changed when the record says. -/
  latest : ∃ step, (record.state step).updatedAt = some record.updatedAt

namespace ApprovalRecord

theorem ordered_fresh (id : MappingId) (now : Instant) : (fresh id now).Ordered where
  signed step := by
    rw [state_fresh]
    rfl
  untouched step _ := by
    rw [status, state_fresh]
    rfl
  created step at_ changed := by
    rw [state_fresh] at changed
    cases changed
  bounded step at_ changed := by
    rw [state_fresh] at changed
    cases changed

theorem Consistent.createdAt_le {record : ApprovalRecord} (h : record.Consistent) :
    record.createdAt ≤ record.updatedAt := by
  obtain ⟨step, changed⟩ := h.latest
  exact h.created step _ changed

/-- A record that was in order is consistent after a change, if this is the latest. -/
theorem Ordered.change {record : ApprovalRecord} (h : record.Ordered) {now : Instant}
    (after : record.createdAt ≤ now) (later : record.updatedAt ≤ now) (step : Step)
    (status : Status) (by_ : EmployeeId) : (record.change step status by_ now).Consistent := by
  have state := Memory.state_change record step status by_ now
  have createdAt : (record.change step status by_ now).createdAt = record.createdAt :=
    record.createdAt_withState _ _
  refine ⟨⟨fun other => ?_, fun other => ?_, fun other at_ => ?_, fun other at_ => ?_⟩, step, ?_⟩
  · rw [state]
    split
    · rfl
    · exact h.signed other
  · rw [ApprovalRecord.status, state]
    split
    · rintro ⟨⟩
    · exact h.untouched other
  · rw [state, createdAt]
    split
    · rintro ⟨⟩
      exact after
    · exact h.created other at_
  · rw [state]
    show _ → at_ ≤ now
    split
    · rintro ⟨⟩
      exact le_refl _
    · exact fun changed => (h.bounded other at_ changed).trans later
  · rw [state, if_pos rfl]
    rfl

end ApprovalRecord

/-! ## Rows of recipients -/

/-- What a row says of being read and completed agrees and is in order, after the request. -/
structure RecipientRow.Consistent (row : RecipientRow) (requestedAt : Instant) : Prop
    extends row.Marked where
  /-- It was read after the request was made. -/
  asked : ∀ at_, row.readAt = some at_ → requestedAt ≤ at_
  /-- It was completed after it was read. -/
  ordered : ∀ at_, row.completedAt = some at_ → ∃ before, row.readAt = some before ∧ before ≤ at_

namespace Memory

open Workflow

theorem RowUpdate.consistent_apply {row : RecipientRow} {requestedAt begun now : Instant}
    (h : row.Consistent requestedAt) (dated : (Row.recipient row).DatedBy begun)
    (asked : requestedAt ≤ begun) (le : begun ≤ now) {update : RowUpdate}
    (new : update.isDone row = false) : (update.apply row now).Consistent requestedAt := by
  have read : ∀ at_, (update.apply row now).readAt = some at_ → requestedAt ≤ at_ ∧ at_ ≤ now := by
    intro at_ read
    rw [update.readAt_apply] at read
    split at read
    · exact ⟨h.asked at_ read, (dated.1 at_ read).trans le⟩
    · cases read
      exact ⟨asked.trans le, le_refl _⟩
  refine ⟨update.marked_apply h.toMarked now, fun at_ known => (read at_ known).1,
    fun at_ completed => ?_⟩
  have marked := update.marked_apply h.toMarked now
  cases update with
  | read =>
    -- a row that is read for the first time was not completed
    have unread : row.isRead = false := new
    obtain ⟨unset, -⟩ := h.toMarked.eq_none_of_uncompleted (h.toMarked.uncompleted_of_unread unread)
    have same : (row.markRead now).completedAt = row.completedAt := by
      rw [RecipientRow.markRead]
      split <;> rfl
    rw [RowUpdate.apply, same, unset] at completed
    cases completed
  | complete comment =>
    cases completed
    obtain ⟨before, known⟩ := Option.isSome_iff_exists.1
      (marked.read.symm.trans (row.markRead_isRead now))
    exact ⟨before, known, (read before known).2⟩

/-! ## Tables -/

/-- The row is consistent, and so is what the tables hold that belongs to it. -/
def Row.ConsistentIn (t : Tables) : Row → Prop
  | .approval record => record.Consistent ∧
    ∀ step, record.status step = .revisionRequested → ∃ request,
      t.requests.get? request.id = some request ∧ request.mappingId = record.mappingId ∧
        request.step = step
  | .request asked => ∃ e, (t.recipients.get? (asked.id, e)).isSome
  | .recipient row => ∃ request, t.requests.get? row.requestId = some request ∧
    row.Consistent request.requestedAt

/-- Every row stands under its own key and is consistent. -/
structure Tables.Consistent (t : Tables) : Prop where
  keyed : t.Keyed
  rows : ∀ k r, t.row k = some r → r.ConsistentIn t

theorem consistent_default : (default : Tables).Consistent where
  keyed := fun k r found => by cases k <;> cases found
  rows := fun k r found => by cases k <;> cases found

namespace Tables

/-- The second tables hold all requests of the first, and rows for all their recipients. -/
structure Retained (t u : Tables) : Prop where
  requests : ∀ id request, t.row (.request id) = some (.request request) →
    u.row (.request id) = some (.request request)
  recipients : ∀ id e, (t.row (.recipient id e)).isSome → (u.row (.recipient id e)).isSome

theorem Extends.retained {t u : Tables} (h : t.Extends u) : t.Retained u :=
  ⟨fun _ _ found => h.request found, fun _ _ there => h.isSome there⟩

end Tables

theorem Row.ConsistentIn.mono {t u : Tables} {r : Row} (h : r.ConsistentIn t)
    (retained : t.Retained u) : r.ConsistentIn u := by
  have requests : ∀ id request, t.requests.get? id = some request →
      u.requests.get? id = some request := fun id request found =>
    (row_request u id request).1 (retained.requests id request ((row_request t id request).2 found))
  cases r with
  | approval record =>
    obtain ⟨consistent, asked⟩ := h
    refine ⟨consistent, fun step revised => ?_⟩
    obtain ⟨request, found, about⟩ := asked step revised
    exact ⟨request, requests _ _ found, about⟩
  | request asked =>
    obtain ⟨e, there⟩ := h
    refine ⟨e, ?_⟩
    rw [← isSome_row_recipient] at there ⊢
    exact retained.recipients _ _ there
  | recipient row =>
    obtain ⟨request, found, consistent⟩ := h
    exact ⟨request, requests _ _ found, consistent⟩

namespace Tables.Consistent

variable {t : Tables}

theorem attached (h : t.Consistent) : t.Attached := by
  intro id e there
  obtain ⟨r, found⟩ := Option.isSome_iff_exists.1 there
  obtain ⟨row, stored, rfl⟩ := Option.map_eq_some_iff.1 found
  obtain ⟨request, asked, -⟩ := h.rows _ _ found
  rw [(h.keyed.recipient stored).1] at asked
  rw [(row_request t id request).2 asked]
  rfl

theorem marked (h : t.Consistent) : t.Marked := by
  intro id e row found
  obtain ⟨request, -, consistent⟩ := h.rows _ _ ((row_recipient t id e row).2 found)
  exact consistent.toMarked

end Tables.Consistent

/-! ## Deeds -/

section

variable {base : Tables} {begun now : Instant} {rows : List Row}

theorem consistent_changedRecord (h : base.Consistent) (dated : base.Dated begun)
    (change : StepStatusChange) {at_ : Instant} (after : begun ≤ at_) :
    (changedRecord base change at_).Consistent := by
  rw [changedRecord]
  cases stored : base.approvals.get? change.mappingId with
  | none =>
    have record_eq : foundRecord base change at_ = .fresh change.mappingId at_ := by
      rw [foundRecord, stored]
      rfl
    rw [record_eq]
    exact (ApprovalRecord.ordered_fresh _ at_).change (le_refl _) (le_refl _) _ _ _
  | some record =>
    have record_eq : foundRecord base change at_ = record := by
      rw [foundRecord, stored]
      rfl
    have found := (row_approval base _ _).2 stored
    have consistent : record.Consistent := (h.rows _ _ found).1
    have old : record.updatedAt ≤ begun := dated _ _ found
    have later := old.trans after
    rw [record_eq]
    exact consistent.toOrdered.change (consistent.createdAt_le.trans later) later _ _ _

theorem Timely.consistent (h : Timely base begun now rows) (consistent : base.Consistent)
    (dated : base.Dated begun) : (base.putAll rows).Consistent := by
  have keyed := consistent.keyed
  have retained := (h.grows keyed consistent.attached consistent.marked dated).retained
  refine ⟨keyed.putAll rows, fun k r found => ?_⟩
  cases h.made keyed found with
  | kept same => exact (consistent.rows _ r same).mono retained
  | @changed change at_ shown asked =>
    refine ⟨consistent_changedRecord consistent dated change shown.1, fun step revised => ?_⟩
    have mapping : (changedRecord base change at_).mappingId = change.mappingId :=
      RowKey.approval.inj (key_changedRecord keyed change at_)
    rw [ApprovalRecord.status, changedRecord, state_change] at revised
    by_cases own : change.step = step
    · rw [if_pos own] at revised
      obtain ⟨request, stored, about, same⟩ := asked revised
      exact ⟨request, (row_request _ _ _).1 stored, about.trans mapping.symm, same.trans own⟩
    · rw [if_neg own, state_foundRecord, Tables.state] at revised
      cases stored : base.approvals.get? change.mappingId with
      | none =>
        rw [stored] at revised
        cases revised
      | some record =>
        rw [stored] at revised
        obtain ⟨-, asked⟩ := consistent.rows _ _ ((row_approval base _ _).2 stored)
        obtain ⟨request, known, about, same⟩ := asked step revised
        have there := retained.requests _ _ ((row_request base _ _).2 known)
        refine ⟨request, (row_request _ _ _).1 there, ?_, same⟩
        rw [about, mapping]
        exact keyed.approval stored
  | created ready absent addressed =>
    obtain ⟨x, asked⟩ := List.exists_mem_of_ne_nil _ (Recipient.distinct_ne_nil ready.1)
    refine ⟨x.id, ?_⟩
    rw [← isSome_row_recipient]
    exact addressed x asked
  | added absent stored =>
    refine ⟨_, (row_request _ _ _).1 stored, marked_fresh _ _ _, ?_, ?_⟩
    · rintro _ ⟨⟩
    · rintro _ ⟨⟩
  | @updated update row at_ shown request requested same new =>
    obtain ⟨request', asked, old⟩ := consistent.rows _ _ same
    have found' := (row_request base _ _).2 asked
    have there := (row_request _ _ _).1 (retained.requests _ _ found')
    have own : (update.apply row at_).requestId = row.requestId := by
      have key := update.key_apply row at_
      simp only [Row.key, RowKey.recipient.injEq] at key
      exact key.1
    refine ⟨request', by rw [own]; exact there, ?_⟩
    exact update.consistent_apply old (dated _ _ same) (dated _ _ found') shown.1 new

/-- The rows of a deed belong together in the committed tables, too. -/
theorem Merged.retained {committed left : Tables} (h : Merged base committed rows left)
    (grows : committed.Extends left) (grown : base.Extends committed) :
    (base.putAll rows).Retained left := by
  have before : ∀ k, k ∉ rows.map Row.key → (base.putAll rows).row k = base.row k :=
    fun k other => Tables.row_putAll_of_not_mem other
  refine ⟨fun id request found => ?_, fun id e there => ?_⟩
  · by_cases stored : RowKey.request id ∈ rows.map Row.key
    · rw [h.stored _ stored, found]
    · rw [before _ stored] at found
      exact grows.request (grown.request found)
  · by_cases stored : RowKey.recipient id e ∈ rows.map Row.key
    · rw [h.stored _ stored]
      exact there
    · rw [before _ stored] at there
      exact grows.isSome (grown.isSome there)

theorem Merged.consistent {committed left : Tables} (h : Merged base committed rows left)
    (committedConsistent : committed.Consistent) (deedConsistent : (base.putAll rows).Consistent)
    (grows : committed.Extends left) (grown : base.Extends committed) : left.Consistent := by
  have retained := h.retained grows grown
  refine ⟨fun k r found => ?_, fun k r found => ?_⟩
  · rcases h.cases k with same | ⟨same, -⟩
    · exact committedConsistent.keyed k r (same.symm.trans found)
    · exact deedConsistent.keyed k r (same.symm.trans found)
  · rcases h.cases k with same | ⟨same, -⟩
    · exact (committedConsistent.rows k r (same.symm.trans found)).mono grows.retained
    · exact (deedConsistent.rows k r (same.symm.trans found)).mono retained

end

end Memory

end Appraisal
