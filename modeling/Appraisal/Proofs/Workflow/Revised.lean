import Appraisal.Proofs.Concurrent.Tale
import Appraisal.Proofs.Workflow.Distinct

/-!
# Revisions in the tables

The work of a call stores rows, and `row_leaves_plus` says what the committed tables hold after its
commit.  `Revised` compares them to those before: the requests that were there are as they were,
with the recipients that they had, and a revision that the call prepared is there with its own
recipients.  It rests on one more invariant of the tables, that rows of recipients belong to
requests (`Tables.Attached`).

`Follows.prepareChange` says which revision a change prepares.
-/

namespace Appraisal.Memory

open Workflow

/-! ## Rows that a session leaves -/

/-- A session that stored some rows leaves the tables with these rows. -/
theorem row_leaves_plus (base : Tables) (rows : List Row) (k : RowKey) :
    (((Session.opened base).plus rows).leaves base).row k = (base.putAll rows).row k := by
  rw [Session.leaves_of_working (Session.working_plus rfl rows), Tables.row_publish,
    Transaction.tables_putAll]
  split
  · rfl
  · rename_i h
    rw [Transaction.mem_writes_putAll, not_or] at h
    exact (Tables.row_putAll_of_not_mem h.1).symm

theorem leaves_plus_ne (base : Tables) {rows : List Row} (h : rows ≠ []) :
    ((Session.opened base).plus rows).leaves base ≠ base := by
  rw [Session.leaves_of_working (Session.working_plus rfl rows)]
  have nodup : (Transaction.start base).writes.Nodup := .nil
  refine Transaction.publish_ne (Transaction.nodup_writes_putAll nodup rows) fun none => ?_
  obtain ⟨r, rows, rfl⟩ := List.exists_cons_of_ne_nil h
  have stored : r.key ∈ ((Transaction.start base).putAll (r :: rows)).writes :=
    Transaction.mem_writes_putAll.2 (.inl List.mem_cons_self)
  rw [none] at stored
  cases stored

/-! ## Revisions that are stored -/

/-- Every row of a recipient belongs to a request. -/
def Tables.Attached (t : Tables) : Prop :=
  ∀ id e, (t.row (.recipient id e)).isSome → (t.row (.request id)).isSome

theorem attached_default : (default : Tables).Attached := by
  intro id e there
  cases there

/-- A request that is not there has no rows of recipients. -/
theorem Tables.Attached.recipient_eq_none {t : Tables} (attached : t.Attached)
    {id : RevisionRequestId} (absent : t.row (.request id) = none) (e : EmployeeId) :
    t.recipients.get? (id, e) = none := by
  rw [← Option.not_isSome_iff_eq_none, ← isSome_row_recipient]
  intro there
  have request := attached id e there
  rw [absent] at request
  cases request

/-- Some tables are others with a revision, if one was asked for, and with approval records that
may differ. -/
structure Revised (base left : Tables) (revision : Option PreparedRevision) : Prop where
  /-- Rows of recipients belong to requests. -/
  attached : left.Attached
  /-- The requests of before are there as they were. -/
  request : ∀ id, (base.row (.request id)).isSome → left.row (.request id) = base.row (.request id)
  /-- They have the recipients that they had. -/
  recipients : ∀ id, (base.row (.request id)).isSome → ∀ e,
    (left.row (.recipient id e)).isSome = (base.row (.recipient id e)).isSome
  /-- The revision is there. -/
  stored : ∀ p, revision = some p → left.row (.request p.request.id) = some (.request p.request)
  /-- It has its own recipients. -/
  asked : ∀ p, revision = some p → ∀ e,
    (left.row (.recipient p.request.id e)).isSome ↔
      e ∈ (Recipient.distinct p.recipients).map Recipient.id

theorem mem_keys_createdRows {request : RevisionRequest} {recipients : List Recipient}
    {k : RowKey} :
    k ∈ (createdRows request recipients).map Row.key ↔ k = .request request.id ∨
      ∃ e ∈ (Recipient.distinct recipients).map Recipient.id, k = .recipient request.id e := by
  simp only [createdRows, freshRows, List.map_cons, List.map_map, List.mem_cons, List.mem_map,
    Function.comp_apply, Row.key, RecipientRow.fresh, exists_exists_and_eq_and]
  simp only [eq_comm]

theorem row_putAll_createdRows (t : Tables) (request : RevisionRequest)
    (recipients : List Recipient) :
    (t.putAll (createdRows request recipients)).row (.request request.id) =
      some (.request request) := by
  refine Tables.row_putAll_cons fun again => ?_
  simp [freshRows, Row.key] at again

theorem row_putAll_createdRows_of_ne (t : Tables) (request : RevisionRequest)
    (recipients : List Recipient) {id : RevisionRequestId} (other : id ≠ request.id) :
    (t.putAll (createdRows request recipients)).row (.request id) = t.row (.request id) ∧
      ∀ e, (t.putAll (createdRows request recipients)).row (.recipient id e) =
        t.row (.recipient id e) := by
  refine ⟨Tables.row_putAll_of_not_mem fun h => ?_, fun e =>
    Tables.row_putAll_of_not_mem fun h => ?_⟩
  · rcases mem_keys_createdRows.1 h with same | ⟨e, -, same⟩
    · cases same
      exact other rfl
    · cases same
  · rcases mem_keys_createdRows.1 h with same | ⟨e', -, same⟩
    · cases same
    · cases same
      exact other rfl

/-- Requests and their recipients are as they were. -/
theorem Revised.of_same {base left : Tables} (attached : base.Attached)
    (request : ∀ id, left.row (.request id) = base.row (.request id))
    (recipient : ∀ id e,
      (left.row (.recipient id e)).isSome = (base.row (.recipient id e)).isSome) :
    Revised base left none where
  attached id e h := by
    rw [request]
    rw [recipient] at h
    exact attached id e h
  request id _ := request id
  recipients id _ e := recipient id e
  stored := nofun
  asked := nofun

theorem Revised.trans {base middle left : Tables} {revision : Option PreparedRevision}
    (first : Revised base middle none) (second : Revised middle left revision) :
    Revised base left revision where
  attached := second.attached
  request id there := by
    have same := first.request id there
    rw [second.request id (same ▸ there), same]
  recipients id there e := by
    rw [second.recipients id (first.request id there ▸ there), first.recipients id there]
  stored := second.stored
  asked := second.asked

/-- A request is created where there is none. -/
theorem Revised.created {base : Tables} (attached : base.Attached) {p : PreparedRevision}
    (absent : base.row (.request p.request.id) = none) :
    Revised base (base.putAll (createdRows p.request p.recipients)) (some p) := by
  have others := fun id => @row_putAll_createdRows_of_ne base p.request p.recipients id
  have stored := row_putAll_createdRows base p.request p.recipients
  have fresh : ∀ id, (base.row (.request id)).isSome → id ≠ p.request.id := by
    rintro id there rfl
    rw [absent] at there
    cases there
  refine ⟨fun id e h => ?_, fun id there => (others id (fresh id there)).1,
    fun id there e => ?_, fun q hq => ?_, fun q hq e => ?_⟩
  · by_cases own : id = p.request.id
    · rw [own, stored]
      rfl
    · rw [(others id own).1]
      rw [(others id own).2] at h
      exact attached id e h
  · rw [(others id (fresh id there)).2]
  · cases hq
    exact stored
  · cases hq
    constructor
    · intro h
      by_contra missing
      have untouched : RowKey.recipient p.request.id e ∉
          (createdRows p.request p.recipients).map Row.key := by
        intro there
        rcases mem_keys_createdRows.1 there with same | ⟨e', asked, same⟩
        · cases same
        · cases same
          exact missing asked
      -- a row that was there before would belong to a request that was there
      rw [Tables.row_putAll_of_not_mem untouched] at h
      have there := attached _ _ h
      rw [absent] at there
      cases there
    · intro asked
      exact Tables.isSome_row_putAll (mem_keys_createdRows.2 (.inr ⟨e, asked, rfl⟩))

/-- Storing approval records and then a new revision. -/
theorem revised_putAll {base : Tables} (attached : base.Attached) {lead : List Row}
    (approvals : ∀ k ∈ lead.map Row.key, ∃ id, k = .approval id)
    {revision : Option PreparedRevision}
    (new : ∀ p, revision = some p → base.row (.request p.request.id) = none) :
    Revised base (base.putAll (lead ++ revisionRows revision)) revision := by
  have split : base.putAll (lead ++ revisionRows revision) =
      (base.putAll lead).putAll (revisionRows revision) := List.foldl_append
  have early : ∀ k, (∀ id, k ≠ .approval id) → (base.putAll lead).row k = base.row k := by
    intro k other
    refine Tables.row_putAll_of_not_mem fun h => ?_
    obtain ⟨id, same⟩ := approvals k h
    exact other id same
  have request : ∀ id, (base.putAll lead).row (.request id) = base.row (.request id) :=
    fun id => early _ nofun
  have recipient : ∀ id e, (base.putAll lead).row (.recipient id e) = base.row (.recipient id e) :=
    fun id e => early _ nofun
  have first : Revised base (base.putAll lead) none :=
    .of_same attached request fun id e => congrArg Option.isSome (recipient id e)
  rw [split]
  cases revision with
  | none => exact first
  | some p => exact first.trans (.created first.attached ((request _).trans (new p rfl)))

/-- Storing the row of a recipient who has one. -/
theorem revised_put_recipient {base : Tables} (attached : base.Attached) {row : RecipientRow}
    (found : (base.row (Row.recipient row).key).isSome) :
    Revised base (base.putAll [.recipient row]) none := by
  refine .of_same attached (fun id => Tables.row_putAll_of_not_mem (by simp [Row.key])) ?_
  intro id e
  by_cases same : RowKey.recipient id e = (Row.recipient row).key
  · have own : (base.putAll [.recipient row]).row (Row.recipient row).key =
        some (.recipient row) := Tables.row_putAll_cons List.not_mem_nil
    rw [same, own, found]
    rfl
  · rw [Tables.row_putAll_of_not_mem (by simpa using same)]

/-! ## Revisions that are prepared -/

namespace Follows

variable {α : Type} {origin : Store} {s s' : Session} {turns : List Turn}

theorem work_ofCheck {result : Except WorkflowError α} {a : α}
    (h : Follows origin (Work.ofCheck result : WorkflowWork α).run s turns (pure (.ok a)) s') :
    result = .ok a := by
  obtain ⟨-, same, -⟩ := of_pure h
  exact same.symm

/-- A mapping that is required is the one that the store has. -/
theorem requireMapping {id : MappingId} {mapping : EvaluationMapping}
    (h : Follows origin (requireMapping id).run s turns (pure (.ok mapping)) s') :
    origin.findMapping id = some mapping := by
  cases h with
  | @turn _ _ _ _ later _ w calm rest =>
    cases found : origin.findMapping id with
    | some m =>
      have ended : Follows origin (pure (Except.ok m) :
          Action WorkflowEvent (Except WorkflowError EvaluationMapping)) s later
          (pure (.ok mapping)) s' := by
        have same : (w.answer origin s (.findMapping id)).1 = .ok (some m) :=
          congrArg Except.ok found
        rw [same] at rest
        exact rest
      obtain ⟨-, same, -⟩ := of_pure ended
      cases same
      rfl
    | none =>
      have ended : Follows origin (pure (Except.error (.mappingNotFound id)) :
          Action WorkflowEvent (Except WorkflowError EvaluationMapping)) s later
          (pure (.ok mapping)) s' := by
        have same : (w.answer origin s (.findMapping id)).1 = .ok none := congrArg Except.ok found
        rw [same] at rest
        exact rest
      obtain ⟨-, same, -⟩ := of_pure ended
      cases same

theorem buildRequest {mapping : EvaluationMapping} {step : Step} {comment : String}
    {requestedBy : EmployeeId} {request : RevisionRequest}
    (h : Follows origin (buildRequest mapping step comment requestedBy) s turns (pure request) s') :
    request.mappingId = mapping.id ∧ request.step = step := by
  cases h with
  | turn w calm rest =>
    cases rest with
    | turn w calm rest =>
      obtain ⟨-, rfl, -⟩ := of_pure rest
      exact ⟨rfl, rfl⟩

section

variable {change : StepStatusChange} {revision : Option PreparedRevision}

/-- A revision is prepared just if the change asks for one, and it is one of the mapping that was
found and of the step. -/
theorem prepareChange_cases
    (h : Follows origin (Call.prepareChange change).run s turns (pure (.ok revision)) s') :
    ∃ mapping, origin.findMapping change.mappingId = some mapping ∧
      (revision.isSome = true ↔ change.status = .revisionRequested) ∧
      ∀ p, revision = some p → p.request.mappingId = mapping.id ∧ p.request.step = change.step := by
  obtain ⟨first, comment, s₁, rest, -, checked, h₁⟩ := work_bind h
  obtain ⟨second, mapping, s₂, rest, -, required, h₂⟩ := work_bind h₁
  have asks := isSome_of_changeComment (work_ofCheck checked)
  refine ⟨mapping, Follows.requireMapping required, ?_⟩
  cases comment with
  | none =>
    obtain ⟨-, rfl, -⟩ := work_pure h₂
    exact ⟨asks, nofun⟩
  | some comment =>
    obtain ⟨third, recipients, s₃, rest, -, -, h₃⟩ := work_bind h₂
    obtain ⟨fourth, request, s₄, rest, -, built, ended⟩ := work_bind h₃
    obtain ⟨-, rfl, -⟩ := work_pure ended
    refine ⟨asks, ?_⟩
    rintro _ ⟨⟩
    exact Follows.buildRequest (work_perform built)

/-- A change that asks for a revision has one prepared, for its mapping and step. -/
theorem prepareChange (mappings : ∀ id m, origin.findMapping id = some m → m.id = id)
    (asks : change.status = .revisionRequested)
    (h : Follows origin (Call.prepareChange change).run s turns (pure (.ok revision)) s') :
    ∃ p, revision = some p ∧ p.request.mappingId = change.mappingId ∧
      p.request.step = change.step := by
  obtain ⟨mapping, found, prepared, about⟩ := prepareChange_cases h
  obtain ⟨p, rfl⟩ := Option.isSome_iff_exists.1 (prepared.2 asks)
  obtain ⟨mappingId, step⟩ := about p rfl
  exact ⟨p, rfl, mappingId.trans (mappings _ _ found), step⟩

end

theorem prepareRequest_step {new : NewRevisionRequest} {p : PreparedRevision}
    (h : Follows origin (Call.prepareRequest new).run s turns (pure (.ok p)) s') :
    p.request.step = new.step := by
  obtain ⟨_, comment, _, _, -, -, h⟩ := work_bind h
  obtain ⟨_, mapping, _, _, -, -, h⟩ := work_bind h
  obtain ⟨_, recipients, _, _, -, -, h⟩ := work_bind h
  obtain ⟨_, request, _, _, -, built, ended⟩ := work_bind h
  obtain ⟨-, rfl, -⟩ := work_pure ended
  exact (Follows.buildRequest (work_perform built)).2

end Follows

end Appraisal.Memory
