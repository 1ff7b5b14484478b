import Appraisal.Proofs.Memory.Listing
import Appraisal.Proofs.Workflow.Changing

/-!
# A revision for many recipients

Asking for a revision and loading it again, on a store of one's own and for every list of recipients
(`Solo.fanOut`).  A revision is asked for on its own or by a change of status.

*Tables.*  A request that is stored with its rows is found with these rows and no others, because
its identifier was free, and rows of recipients belong to requests (`Tables.Gains.fansOut`).

*Repeats.*  Recipients who are named are told apart twice, and those by default once, so the rows
are those of one list either way (`EvaluationMapping.distinct_recipientsFor`).
-/

namespace Appraisal.Memory

open Workflow

/-- The rows of a request that was just stored for some recipients: one for each employee, in the
role that comes first for this employee, neither read nor completed, in the order of employees. -/
structure FansOut (id : RevisionRequestId) (recipients : List Recipient)
    (rows : List RecipientRow) : Prop where
  ordered : rows.Pairwise fun a b => rank a.recipientId < rank b.recipientId
  listed : ∀ row, row ∈ rows ↔ ∃ r, recipients.find? (fun k => k.id == r.id) = some r ∧
    row = ⟨id, r.id, r.role, false, none, false, none, none⟩

/-- This leaves no choice. -/
theorem FansOut.unique {id : RevisionRequestId} {recipients : List Recipient}
    {rows rows' : List RecipientRow} (h : FansOut id recipients rows)
    (h' : FansOut id recipients rows') : rows = rows' := by
  have nodup : rows.Nodup := Table.nodup_of_sorted h.ordered
  have nodup' : rows'.Nodup := Table.nodup_of_sorted h'.ordered
  have perm : rows.Perm rows' := (List.perm_ext_iff_of_nodup nodup nodup').2 fun row => by
    rw [h.listed, h'.listed]
  exact perm.eq_of_pairwise (fun a b _ _ lt gt => absurd gt (Nat.lt_asymm lt)) h.ordered h'.ordered

/-! ## Tables with a new request -/

namespace Tables.Gains

variable {base left : Tables} {request : RevisionRequest} {recipients : List Recipient}
  {records : List ApprovalRecord}
  (gains : base.Gains (records.map Row.approval ++ createdRows request recipients) left)

include gains

theorem get?_request : left.requests.get? request.id = some request := by
  refine (row_request _ _ _).1 (gains.stored (.request request) ?_).1
  exact List.mem_append_right _ List.mem_cons_self

/-- A request that was created has the rows that were created with it. -/
theorem recipient_iff (attached : base.Attached)
    (free : base.row (.request request.id) = none) {row : RecipientRow} :
    left.row (.recipient request.id row.recipientId) = some (.recipient row) ↔
      row ∈ freshRows request.id (Recipient.distinct recipients) := by
  constructor
  · intro found
    by_cases stored : RowKey.recipient request.id row.recipientId ∈
        (records.map Row.approval ++ createdRows request recipients).map Row.key
    · obtain ⟨own, mem, key⟩ := List.mem_map.1 stored
      have same := (gains.stored own mem).1
      rw [key, found] at same
      cases same
      rcases List.mem_append.1 mem with approved | created
      · obtain ⟨record, -, other⟩ := List.mem_map.1 approved
        cases other
      · obtain ⟨own, fresh, same⟩ := List.mem_map.1 ((List.mem_cons.1 created).resolve_left nofun)
        cases same
        exact fresh
    · rw [(gains.others _ stored).1, Tables.row, attached.recipient_eq_none free] at found
      cases found
  · intro fresh
    have key : (Row.recipient row).key = .recipient request.id row.recipientId := by
      obtain ⟨r, -, rfl⟩ := List.mem_map.1 fresh
      rfl
    rw [← key]
    refine (gains.stored (.recipient row) (List.mem_append_right _ ?_)).1
    exact List.mem_cons_of_mem _ (List.mem_map_of_mem fresh)

/-- A request that was created is found with one row for each employee who was asked. -/
theorem fansOut (keyed : base.Keyed) (attached : base.Attached)
    (free : base.row (.request request.id) = none) {addressees : List Recipient}
    (same : Recipient.distinct recipients = Recipient.distinct addressees) :
    FansOut request.id addressees (left.recipientsOf request.id) where
  ordered := (gains.keyed keyed).sorted_recipientsOf request.id
  listed row := by
    rw [(gains.keyed keyed).mem_recipientsOf, ← row_recipient, gains.recipient_iff attached free,
      same, freshRows, List.mem_map]
    constructor
    · rintro ⟨r, kept, rfl⟩
      exact ⟨r, Recipient.mem_distinct.1 kept, rfl⟩
    · rintro ⟨r, first, rfl⟩
      exact ⟨r, Recipient.mem_distinct.2 first, rfl⟩

end Tables.Gains

/-- Each employee who is asked is told once, in the order in which they were first named. -/
theorem requestedEvent_eq (request : RevisionRequest) {recipients addressees : List Recipient}
    (same : Recipient.distinct recipients = Recipient.distinct addressees) :
    requestedEvent request (freshRows request.id (Recipient.distinct recipients)) =
      .revisionRequested ⟨request.id, request.mappingId, request.step, request.requestedBy,
        (addressees.map Recipient.id).eraseDups, request.requestedAt⟩ := by
  have names : (freshRows request.id (Recipient.distinct recipients)).map
      RecipientRow.recipientId = (addressees.map Recipient.id).eraseDups := by
    rw [← Recipient.map_id_distinct, ← same, freshRows, List.map_map]
    rfl
  rw [requestedEvent, names]

namespace Solo

variable {q : Solo}

/-! ## Loading a request -/

theorem perform_loadDetail {t : Transaction} (working : q.session.working = some t)
    {id : RevisionRequestId} {request : RevisionRequest}
    (found : t.tables.requests.get? id = some request) :
    q.perform (loadDetail id) = (.ok ⟨request, t.tables.recipientsOf id⟩, q) := by
  have requests : q.perform (Work.findRequest id) = (.ok (some request), q) := by
    rw [← found]
    exact perform_reading working trivial
  have rows : q.perform (Work.recipientsOf id) = (.ok (t.tables.recipientsOf id), q) :=
    perform_reading working trivial
  rw [loadDetail, perform_bind requests]
  dsimp only
  rw [perform_bind rows, perform_pure]

theorem comesTo_getRequest (s : Service) (onBegin : q.store.faults.onBegin = [])
    (onCommit : q.store.faults.onCommit = []) {id : RevisionRequestId} {request : RevisionRequest}
    (found : q.store.committed.requests.get? id = some request) :
    q.ComesTo s (.getRequest id) (.ok ⟨request, q.store.committed.recipientsOf id⟩)
      q.store.committed [] :=
  comesTo_of_read (c := .getRequest id) rfl onBegin onCommit
    (perform_loadDetail (q := q.readied .reading) rfl found) rfl rfl

/-! ## Asking for a revision -/

/-- A call has asked for a revision.  Others are told of the request last, with the employees in the
order in which they first appear among the recipients, and whoever loads the request next finds it
with its rows. -/
structure Asks (q : Solo) (s : Service) (c : Call) (request : RevisionRequest)
    (recipients : List Recipient) (before : List WorkflowEvent) : Prop where
  told : ∀ place, Observes s place → q.told (c.action s) place = before ++
    [.revisionRequested ⟨request.id, request.mappingId, request.step, request.requestedBy,
      (recipients.map Recipient.id).eraseDups, request.requestedAt⟩]
  loaded : ∀ (reader : Service) (p : Solo), p.store = (q.perform (c.action s)).2.store →
    ∃ rows, FansOut request.id recipients rows ∧
      (p.perform (getRequest reader request.id)).1 = .ok ⟨request, rows⟩

section

variable (onBegin : q.store.faults.onBegin = []) (onCommit : q.store.faults.onCommit = [])

include onBegin onCommit

/-- A call that publishes a request with its rows and tells of it last has asked for a revision. -/
theorem asks_of_comesTo (reached : q.store.committed.Reached) {s : Service} {c : Call}
    {result : Except WorkflowError c.Value} {left : Tables} {request : RevisionRequest}
    {recipients addressees : List Recipient} (records : List ApprovalRecord)
    {before : List WorkflowEvent}
    (free : q.store.committed.row (.request request.id) = none)
    (same : Recipient.distinct recipients = Recipient.distinct addressees)
    (gains : q.store.committed.Gains
      (records.map Row.approval ++ createdRows request recipients) left)
    (comes : q.ComesTo s c result left
      (before ++ [requestedEvent request (freshRows request.id (Recipient.distinct recipients))])) :
    q.Asks s c request addressees before where
  told place observes := by
    rw [comes.told place observes, requestedEvent_eq request same]
  loaded reader p after := by
    have faults : p.store.faults = q.store.faults := by
      rw [after]
      exact faults_run onBegin onCommit
    have left_eq : p.store.committed = left := by
      rw [after, comes.left]
    have found : p.store.committed.requests.get? request.id = some request := by
      rw [left_eq]
      exact gains.get?_request
    refine ⟨p.store.committed.recipientsOf request.id, ?_, ?_⟩
    · rw [left_eq]
      exact gains.fansOut reached.keyed reached.attached free same
    · exact (comesTo_getRequest reader (faults ▸ onBegin) (faults ▸ onCommit) found).result

end

/-- A call that is turned down for what it says, or else carried out, fails for no other reason. -/
theorem validation_of_error {s : Service} {c : Call} {e : WorkflowError}
    (failed : (q.perform (c.action s)).1 = .error e)
    (either : (∃ message, q.perform c.prepare = (.error (.validation message), q)) ∨
      ∃ v, (q.perform (c.action s)).1 = .ok v) : ∃ message, e = .validation message := by
  rcases either with ⟨message, refused⟩ | ⟨v, done⟩
  · rw [perform_action_refused refused] at failed
    cases failed
    exact ⟨message, rfl⟩
  · rw [done] at failed
    cases failed

/-! ### On its own -/

section

variable {new : NewRevisionRequest} {mapping : EvaluationMapping}

/-- The request that is built for a client. -/
def built (q : Solo) (new : NewRevisionRequest) (mapping : EvaluationMapping) :
    RevisionRequest where
  id := Id.random q.bits.head
  mappingId := mapping.id
  periodId := mapping.periodId
  employeeId := mapping.employeeId
  step := new.step
  comment := new.comment
  requestedBy := new.requestedBy
  requestedAt := q.clock.head

theorem perform_prepareRequest_uncommented (blank : Text.allBlank new.comment = true) :
    q.perform (Call.prepareRequest new) =
      (.error (.validation "a revision comment is required"), q) := by
  rw [Call.prepareRequest, checkComment_eq, Option.all_some, if_pos blank,
    perform_bind_error (q.perform_ofCheck _)]

section

variable (commented : Text.allBlank new.comment = false)
  (found : q.store.findMapping new.mappingId = some mapping)

include commented found

theorem perform_prepareRequest_unaddressed
    (nobody : mapping.recipientsFor new.step new.recipients = []) :
    q.perform (Call.prepareRequest new) =
      (.error (.validation s!"no recipients for a revision of the {new.step.text} step"), q) := by
  rw [Call.prepareRequest, checkComment_eq, Option.all_some, if_neg (Bool.eq_false_iff.1 commented),
    perform_bind (q.perform_ofCheck _), perform_bind (perform_requireMapping found),
    checkRecipients_eq, if_pos nobody, perform_bind_error (q.perform_ofCheck _)]

theorem perform_prepareRequest (addressed : mapping.recipientsFor new.step new.recipients ≠ []) :
    q.perform (Call.prepareRequest new) =
      (.ok ⟨q.built new mapping, mapping.recipientsFor new.step new.recipients⟩,
        { q with clock := q.clock.tail, bits := q.bits.tail }) := by
  rw [Call.prepareRequest, checkComment_eq, Option.all_some, if_neg (Bool.eq_false_iff.1 commented),
    perform_bind (q.perform_ofCheck _), perform_bind (perform_requireMapping found),
    checkRecipients_eq, if_neg addressed, perform_bind (q.perform_ofCheck _)]
  rfl

end

/-- A request of its own that has been prepared is created. -/
theorem asks_createRequest (s : Service) (reached : q.store.committed.Reached)
    (onBegin : q.store.faults.onBegin = []) (onCommit : q.store.faults.onCommit = [])
    (free : q.store.committed.row (.request (Id.random q.bits.head)) = none)
    (ready : q.perform (Call.prepareRequest new) =
      (.ok ⟨q.built new mapping, mapping.recipientsFor new.step new.recipients⟩,
        { q with clock := q.clock.tail, bits := q.bits.tail })) :
    (q.perform (createRequest s new)).1 = .ok (q.built new mapping) ∧
      q.Asks s (.createRequest new) (q.built new mapping)
        (mapping.addressees new.step new.recipients) [] := by
  let p : Solo := { q with clock := q.clock.tail, bits := q.bits.tail }
  let recipients := mapping.recipientsFor new.step new.recipients
  have worked : (p.readied default).perform (createRecorded (q.built new mapping) recipients) =
      (.ok ⟨q.built new mapping, [requestedEvent (q.built new mapping)
          (freshRows (q.built new mapping).id (Recipient.distinct recipients))]⟩,
        (p.readied default).plus (createdRows (q.built new mapping) recipients)) := by
    rw [createRecorded, perform_bind (perform_createIn rfl reached.attached free), perform_pure]
    rfl
  have comes := comesTo_of_stored (s := s) (c := .createRequest new) ready onBegin onCommit worked
    rfl rfl
  exact ⟨comes.result, asks_of_comesTo onBegin onCommit reached [] free
    (mapping.distinct_recipientsFor _ _) (gains_leaves _ (nodup_keys_createdRows _ _)) comes⟩

/-- Asking on its own is turned down without a comment or without anybody to ask. -/
theorem prepareRequest_cases (found : q.store.findMapping new.mappingId = some mapping) :
    (∃ message, q.perform (Call.prepareRequest new) = (.error (.validation message), q)) ∨
      Text.allBlank new.comment = false ∧ mapping.addressees new.step new.recipients ≠ [] := by
  cases blank : Text.allBlank new.comment with
  | true => exact .inl ⟨_, perform_prepareRequest_uncommented blank⟩
  | false =>
    by_cases nobody : mapping.addressees new.step new.recipients = []
    · exact .inl ⟨_, perform_prepareRequest_unaddressed blank found
        ((mapping.recipientsFor_eq_nil_iff _ _).2 nobody)⟩
    · exact .inr ⟨rfl, nobody⟩

end

/-! ### By a change of status -/

section

variable {change : StepStatusChange} {mapping : EvaluationMapping}

/-- A step that does not have the status yet does not have it in the record that is changed, which
may be a new one. -/
theorem status_foundRecord_ne {t : Tables} (asks : change.status = .revisionRequested)
    (enters : (t.approvals.get? change.mappingId).map (·.status change.step) ≠
      some .revisionRequested) (now : Instant) :
    (foundRecord t change now).status change.step ≠ change.status := by
  rw [foundRecord, asks]
  intro same
  cases stored : t.approvals.get? change.mappingId with
  | none =>
    -- every step of a new record is pending
    rw [stored, Option.getD_none, ApprovalRecord.status, ApprovalRecord.state_fresh] at same
    cases same
  | some record =>
    rw [stored, Option.getD_some] at same
    exact enters (by rw [stored, Option.map_some, same])

/-- A change that asks for a revision of a step that has another status is carried out. -/
theorem asks_setStepStatus (s : Service) (reached : q.store.committed.Reached)
    (onBegin : q.store.faults.onBegin = []) (onCommit : q.store.faults.onCommit = [])
    (free : q.store.committed.row (.request (Id.random q.bits.head)) = none)
    (asks : change.status = .revisionRequested)
    (enters : (q.store.committed.approvals.get? change.mappingId).map (·.status change.step) ≠
      some .revisionRequested)
    (ready : q.perform (Call.prepareChange change) =
      (.ok (q.revision? change mapping), q.prepared change)) :
    ∃ record, (q.perform (setStepStatus s change)).1 = .ok record ∧
      record.status change.step = .revisionRequested ∧
      q.Asks s (.setStepStatus change) (q.request change mapping)
        (mapping.addressees change.step change.recipients)
        [changeEvent q.store.committed change (q.clock.get 1)] := by
  have revision : q.revision? change mapping = some
      ⟨q.request change mapping, mapping.recipientsFor change.step change.recipients⟩ :=
    if_pos asks
  have store := q.store_prepared change
  have clock : (q.prepared change).clock.head = q.clock.get 1 :=
    (q.clock_prepared change).trans (if_pos asks)
  have status := status_foundRecord_ne asks enters (q.clock.get 1)
  obtain ⟨left, gains, comes⟩ := comesTo_setStepStatus_moved s ready (store ▸ onBegin)
    (store ▸ onCommit) (store ▸ reached.attached) (by rwa [store, clock]) fun r asked => by
      rw [revision] at asked
      cases asked
      rwa [store]
  rw [store, clock, revision] at gains comes
  refine ⟨_, comes.result, ?_, ?_⟩
  · rw [← asks, ApprovalRecord.status, changedRecord, state_change, if_pos rfl]
  · exact asks_of_comesTo onBegin onCommit reached [_] free (mapping.distinct_recipientsFor _ _)
      gains comes

/-- Such a change is turned down without a comment or without anybody to ask. -/
theorem prepareChange_cases (found : q.store.findMapping change.mappingId = some mapping)
    (asks : change.status = .revisionRequested) :
    (∃ message, q.perform (Call.prepareChange change) = (.error (.validation message), q)) ∨
      change.revisionComment.all Text.allBlank = false ∧
        mapping.addressees change.step change.recipients ≠ [] := by
  cases blank : change.revisionComment.all Text.allBlank with
  | true => exact .inl ⟨_, perform_prepareChange_uncommented asks blank⟩
  | false =>
    have commented : ¬ (change.status = .revisionRequested ∧
        change.revisionComment.all Text.allBlank = true) := fun h => by
      rw [blank] at h
      cases h.2
    by_cases nobody : mapping.addressees change.step change.recipients = []
    · exact .inl ⟨_, perform_prepareChange_unaddressed commented found asks
        ((mapping.recipientsFor_eq_nil_iff _ _).2 nobody)⟩
    · exact .inr ⟨rfl, nobody⟩

end

section

variable (s : Service) (reached : q.store.committed.Reached)
  (onBegin : q.store.faults.onBegin = []) (onCommit : q.store.faults.onCommit = [])
  (free : q.store.committed.requests.get? (Id.random q.bits.head) = none)

include reached onBegin onCommit free

/-- Asking for a revision with a known mapping and an identifier that is free succeeds if there is a
comment and somebody to ask.  It fails for no other reason, whatever repeats there are. -/
theorem fanOut :
    (∀ new mapping, q.store.findMapping new.mappingId = some mapping →
      (Text.allBlank new.comment = false → mapping.addressees new.step new.recipients ≠ [] →
        (q.perform (createRequest s new)).1 = .ok (q.built new mapping) ∧
          q.Asks s (.createRequest new) (q.built new mapping)
            (mapping.addressees new.step new.recipients) []) ∧
      ∀ e, (q.perform (createRequest s new)).1 = .error e →
        ∃ message, e = .validation message) ∧
    ∀ change mapping, q.store.findMapping change.mappingId = some mapping →
      change.status = .revisionRequested →
      (q.store.committed.approvals.get? change.mappingId).map (·.status change.step) ≠
        some .revisionRequested →
      (change.revisionComment.all Text.allBlank = false →
        mapping.addressees change.step change.recipients ≠ [] →
        ∃ record, (q.perform (setStepStatus s change)).1 = .ok record ∧
          record.status change.step = .revisionRequested ∧
          q.Asks s (.setStepStatus change) (q.request change mapping)
            (mapping.addressees change.step change.recipients)
            [changeEvent q.store.committed change (q.clock.get 1)]) ∧
      ∀ e, (q.perform (setStepStatus s change)).1 = .error e →
        ∃ message, e = .validation message := by
  have absent : q.store.committed.row (.request (Id.random q.bits.head)) = none := by
    rw [Tables.row, free]
    rfl
  refine ⟨fun new mapping found => ?_, fun change mapping found asks enters => ?_⟩
  · have succeeds (commented : Text.allBlank new.comment = false)
        (somebody : mapping.addressees new.step new.recipients ≠ []) :=
      asks_createRequest s reached onBegin onCommit absent
        (perform_prepareRequest commented found
          fun nobody => somebody ((mapping.recipientsFor_eq_nil_iff _ _).1 nobody))
    refine ⟨succeeds, fun e failed => validation_of_error (c := .createRequest new) failed ?_⟩
    exact (prepareRequest_cases found).imp_right fun h => ⟨_, (succeeds h.1 h.2).1⟩
  · have succeeds (commented : change.revisionComment.all Text.allBlank = false)
        (somebody : mapping.addressees change.step change.recipients ≠ []) :=
      asks_setStepStatus s reached onBegin onCommit absent asks enters
        (perform_prepareChange (fun h => by rw [commented] at h; cases h.2) found
          fun _ nobody => somebody ((mapping.recipientsFor_eq_nil_iff _ _).1 nobody))
    refine ⟨succeeds, fun e failed => validation_of_error (c := .setStepStatus change) failed ?_⟩
    refine (prepareChange_cases found asks).imp_right fun h => ?_
    obtain ⟨record, done, -⟩ := succeeds h.1 h.2
    exact ⟨record, done⟩

end

/-- An employee who is named twice, and another one in between. -/
def namedTwice : NewRevisionRequest where
  mappingId := default
  step := .criteria
  comment := "x"
  requestedBy := default
  recipients := [⟨Id.random default, .primaryEvaluator⟩, ⟨default, .evaluatee⟩,
    ⟨Id.random default, .evaluatee⟩]

/-- The employee has one row, in the first of the two roles, and is told of first, although the
other one's row comes first. -/
theorem fanOut_namedTwice :
    (newcomer.perform (createRequest ⟨default, ⟨[⟨"audit", none⟩]⟩⟩ namedTwice)).1 =
        .ok (newcomer.built namedTwice (.fresh default default default)) ∧
      newcomer.told (createRequest ⟨default, ⟨[⟨"audit", none⟩]⟩⟩ namedTwice) 0 =
        [.revisionRequested ⟨Id.random default, default, .criteria, default,
          [Id.random default, default], default⟩] ∧
      ∀ p : Solo, p.store = (newcomer.perform
          (createRequest ⟨default, ⟨[⟨"audit", none⟩]⟩⟩ namedTwice)).2.store →
        (p.perform (getRequest ⟨default, default⟩ (Id.random default))).1 =
          .ok ⟨newcomer.built namedTwice (.fresh default default default),
            [.fresh (Id.random default) default .evaluatee,
              .fresh (Id.random default) (Id.random default) .primaryEvaluator]⟩ := by
  have reached : newcomer.store.committed.Reached := ⟨default, [], rfl, rfl⟩
  obtain ⟨done, asks⟩ := ((fanOut ⟨default, ⟨[⟨"audit", none⟩]⟩⟩ reached rfl rfl rfl).1 namedTwice
    (.fresh default default default) rfl).1 (by decide) (by decide)
  refine ⟨done, asks.told 0 ⟨_, rfl, rfl⟩, fun p after => ?_⟩
  obtain ⟨rows, fansOut, loads⟩ := asks.loaded ⟨default, default⟩ p after
  have listed : FansOut (Id.random default) namedTwice.recipients
      [.fresh (Id.random default) default .evaluatee,
        .fresh (Id.random default) (Id.random default) .primaryEvaluator] := by
    refine ⟨by decide, fun row => ⟨fun mem => ?_, ?_⟩⟩
    · rcases List.mem_pair.1 mem with rfl | rfl
      · exact ⟨⟨default, .evaluatee⟩, by decide, rfl⟩
      · exact ⟨⟨Id.random default, .primaryEvaluator⟩, by decide, rfl⟩
    · rintro ⟨r, first, rfl⟩
      have named : r ∈ namedTwice.recipients := List.mem_of_find?_eq_some first
      simp only [namedTwice, List.mem_cons, List.not_mem_nil, or_false] at named
      rcases named with rfl | rfl | rfl
      · exact List.mem_pair.2 (.inr rfl)
      · exact List.mem_pair.2 (.inl rfl)
      · exact absurd first (by decide)
  rw [fansOut.unique listed] at loads
  exact loads

end Solo

end Appraisal.Memory
