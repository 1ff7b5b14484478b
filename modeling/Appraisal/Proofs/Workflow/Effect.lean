import Appraisal.Proofs.Workflow.Revised
import Appraisal.Proofs.Workflow.Telling

/-!
# What the events of a call say of the tables

The events that a call raises tell what became of the tables with its commit.  `Effect` is this
statement, on the tables where the call stands: a change of status names the status that the step
had and the one that it has now, and a request for a revision names the recipients whose rows were
stored with it.

`Worked.effect` proves it of the events that a call raises, and says that the changes among them are
counted.
-/

namespace Appraisal.Memory

open Workflow

/-! ## Steps and events -/

/-- The state of a step. -/
def Tables.state (t : Tables) (id : MappingId) (step : Step) : StepState :=
  match t.approvals.get? id with
  | some record => record.state step
  | none => default

theorem Tables.state_eq_of_row {t u : Tables} {id : MappingId}
    (h : t.row (.approval id) = u.row (.approval id)) (step : Step) :
    t.state id step = u.state id step := by
  rw [state, state, approval_eq_of_row h]

/-- The state that a change leaves its step in. -/
def leftBy (d : StepStatusChanged) : StepState := ⟨d.after, some d.changedAt, some d.changedBy⟩

/-- The changes of a step among some events. -/
def changesOf (id : MappingId) (step : Step) (events : List WorkflowEvent) :
    List StepStatusChanged :=
  events.filterMap fun
    | .stepStatusChanged d => if d.mappingId = id ∧ d.step = step then some d else none
    | _ => none

theorem changesOf_append (id : MappingId) (step : Step) (first second : List WorkflowEvent) :
    changesOf id step (first ++ second) = changesOf id step first ++ changesOf id step second :=
  List.filterMap_append

theorem changesOf_eq_nil {events : List WorkflowEvent} (h : ∀ d, .stepStatusChanged d ∉ events)
    (id : MappingId) (step : Step) : changesOf id step events = [] := by
  refine List.filterMap_eq_nil_iff.2 fun event mem => ?_
  cases event with
  | stepStatusChanged d => exact absurd mem (h d)
  | _ => rfl

/-- A revision that was asked for with a change is stored, and the event names its recipients. -/
structure Requested (t : Tables) (d : StepStatusChanged) (r : RevisionRequested) : Prop where
  /-- The request is for the mapping and the step of the change. -/
  request : ∃ request, t.requests.get? r.requestId = some request ∧
    request.mappingId = d.mappingId ∧ request.step = d.step
  /-- No recipient is named twice. -/
  nodup : r.recipients.Nodup
  /-- The recipients named are those that have a row. -/
  recipients : ∀ e, e ∈ r.recipients ↔ (t.recipients.get? (r.requestId, e)).isSome

/-- What is stored of a revision stays. -/
theorem Requested.of_revised {base left : Tables} {revision : Option PreparedRevision}
    (revised : Revised base left revision) {d : StepStatusChanged} {r : RevisionRequested}
    (h : Requested base d r) : Requested left d r := by
  obtain ⟨⟨request, found, about⟩, nodup, recipients⟩ := h
  have row := (row_request base _ _).2 found
  have there : (base.row (.request r.requestId)).isSome := by
    rw [row]
    rfl
  refine ⟨⟨request, (row_request left _ _).1 ?_, about⟩, nodup, fun e => ?_⟩
  · rw [revised.request _ there, row]
  · rw [← isSome_row_recipient, revised.recipients _ there, isSome_row_recipient]
    exact recipients e

/-! ## Effects -/

/-- What the events of a call say of the tables before and after it. -/
structure Effect (base left : Tables) (events : List WorkflowEvent) : Prop where
  /-- Rows stand under their own keys. -/
  keyed : left.Keyed
  /-- Requests and their recipients are those of before, and those of a new revision. -/
  revised : ∃ revision, Revised base left revision
  /-- A step changed as one event says, or it did not change. -/
  state : ∀ id step,
    changesOf id step events = [] ∧ left.state id step = base.state id step ∨
      ∃ d, changesOf id step events = [d] ∧ d.before = (base.state id step).status ∧
        d.before ≠ d.after ∧ left.state id step = leftBy d
  /-- A change that asks for a revision is followed by the event of it. -/
  requested : ∀ d, .stepStatusChanged d ∈ events → d.after = .revisionRequested →
    ∃ r, events = [.stepStatusChanged d, .revisionRequested r] ∧ Requested left d r
  /-- There are no events without a change of the tables. -/
  silent : left = base → events = []

/-- A call that changes nothing raises no event. -/
theorem Effect.refl {base : Tables} (keyed : base.Keyed) (attached : base.Attached) :
    Effect base base [] where
  keyed := keyed
  revised := ⟨none, .of_same attached (fun _ => rfl) fun _ _ => rfl⟩
  state _ _ := .inl ⟨rfl, rfl⟩
  requested _ h := absurd h List.not_mem_nil
  silent _ := rfl

/-- The tables with rows in place, as they are seen row by row. -/
theorem Revised.congr {base left left' : Tables} {revision : Option PreparedRevision}
    (h : Revised base left revision) (same : ∀ k, left'.row k = left.row k) :
    Revised base left' revision where
  attached id e := by
    rw [same, same]
    exact h.attached id e
  request id := by
    rw [same]
    exact h.request id
  recipients id there e := by
    rw [same]
    exact h.recipients id there e
  stored p hp := by
    rw [same]
    exact h.stored p hp
  asked p hp e := by
    rw [same]
    exact h.asked p hp e

/-- Work that stores no approval record and raises no change of status. -/
theorem Effect.of_rows {base : Tables} (keyed : base.Keyed) {rows : List Row} (some_ : rows ≠ [])
    {revision : Option PreparedRevision} (revised : Revised base (base.putAll rows) revision)
    (records : ∀ id, RowKey.approval id ∉ rows.map Row.key) {events : List WorkflowEvent}
    (none : ∀ d, .stepStatusChanged d ∉ events) :
    Effect base (((Session.opened base).plus rows).leaves base) events where
  keyed k r h := keyed.putAll rows k r ((row_leaves_plus base rows k).symm.trans h)
  revised := ⟨revision, revised.congr (row_leaves_plus base rows)⟩
  state id step := by
    refine .inl ⟨changesOf_eq_nil none id step, Tables.state_eq_of_row ?_ step⟩
    rw [row_leaves_plus, Tables.row_putAll_of_not_mem (records id)]
  requested d h := absurd h (none d)
  silent same := absurd same (leaves_plus_ne base some_)

/-! ## A change of status -/

theorem state_foundRecord (base : Tables) (change : StepStatusChange) (now : Instant)
    (step : Step) :
    (foundRecord base change now).state step = base.state change.mappingId step := by
  rw [foundRecord, Tables.state]
  cases base.approvals.get? change.mappingId with
  | none => exact ApprovalRecord.state_fresh _ _ _
  | some record => rfl

theorem state_change (r : ApprovalRecord) (step : Step) (status : Status) (by_ : EmployeeId)
    (now : Instant) (other : Step) :
    (r.change step status by_ now).state other =
      if step = other then ⟨status, some now, some by_⟩ else r.state other := by
  have same : (r.change step status by_ now).state other =
      (r.withState step ⟨status, some now, some by_⟩).state other := by
    cases other <;> rfl
  rw [same]
  split
  · rename_i h
    rw [h, ApprovalRecord.state_withState_self]
  · rename_i h
    exact r.state_withState_of_ne _ h

theorem changesOf_change (base : Tables) (change : StepStatusChange) (now : Instant)
    (revision : Option PreparedRevision) (id : MappingId) (step : Step) :
    changesOf id step (changeEvent base change now :: revisionEvents revision) =
      if change.mappingId = id ∧ change.step = step then
        [⟨change.mappingId, change.step, (foundRecord base change now).status change.step,
          change.status, change.actedBy, now⟩]
      else [] := by
  have later : changesOf id step (revisionEvents revision) = [] := by
    refine changesOf_eq_nil (fun d mem => ?_) id step
    cases revision with
    | none => cases mem
    | some p => cases List.mem_singleton.1 mem
  have split : changesOf id step (changeEvent base change now :: revisionEvents revision) =
      changesOf id step [changeEvent base change now] ++
        changesOf id step (revisionEvents revision) :=
    changesOf_append id step [changeEvent base change now] _
  rw [split, later, List.append_nil]
  by_cases same : change.mappingId = id ∧ change.step = step
  · rw [if_pos same]
    simp [changesOf, changeEvent, same]
  · rw [if_neg same]
    simp [changesOf, changeEvent, same]

/-- A change of a step is the only one among its events. -/
theorem eq_of_mem_change {base : Tables} {change : StepStatusChange} {now : Instant}
    {revision : Option PreparedRevision} {d : StepStatusChanged}
    (h : .stepStatusChanged d ∈ changeEvent base change now :: revisionEvents revision) :
    .stepStatusChanged d = changeEvent base change now := by
  rcases List.mem_cons.1 h with same | later
  · exact same
  · cases revision with
    | none => cases later
    | some p => cases List.mem_singleton.1 later

/-- The states of steps when a changed record is stored. -/
theorem state_of_changed {base left : Tables} {change : StepStatusChange} {now : Instant}
    (stored : left.row (.approval change.mappingId) =
      some (.approval (changedRecord base change now)))
    (others : ∀ id, change.mappingId ≠ id → left.row (.approval id) = base.row (.approval id))
    (id : MappingId) (step : Step) :
    left.state id step =
      if change.mappingId = id ∧ change.step = step then
        ⟨change.status, some now, some change.actedBy⟩
      else base.state id step := by
  by_cases own : change.mappingId = id
  · subst own
    have found := (row_approval left _ _).1 stored
    have after : left.state change.mappingId step =
        (changedRecord base change now).state step := by
      rw [Tables.state, found]
    rw [after, changedRecord, state_change, state_foundRecord]
    simp only [true_and]
  · rw [if_neg fun h => own h.1]
    exact Tables.state_eq_of_row (others id own) step

/-- A change of status that is committed. -/
theorem Effect.of_change {base : Tables} (keyed : base.Keyed) (attached : base.Attached)
    {change : StepStatusChange} {revision : Option PreparedRevision} {now : Instant}
    (status : (foundRecord base change now).status change.step ≠ change.status)
    (new : ∀ p, revision = some p → base.row (.request p.request.id) = none)
    (prepared : change.status = .revisionRequested → ∃ p, revision = some p ∧
      p.request.mappingId = change.mappingId ∧ p.request.step = change.step) :
    Effect base
      (((Session.opened base).plus
        (.approval (changedRecord base change now) :: revisionRows revision)).leaves base)
      (changeEvent base change now :: revisionEvents revision) := by
  let record := changedRecord base change now
  let rows : List Row := .approval record :: revisionRows revision
  have key : (Row.approval record).key = .approval change.mappingId :=
    key_changedRecord keyed change now
  have approvals : ∀ k ∈ [Row.approval record].map Row.key, ∃ id, k = .approval id :=
    fun k hk => ⟨_, (List.mem_singleton.1 hk).trans key⟩
  have revised : Revised base (base.putAll ([.approval record] ++ revisionRows revision))
    revision := revised_putAll attached approvals new
  have revised' := revised.congr (row_leaves_plus base rows)
  have later : ∀ id, RowKey.approval id ∉ (revisionRows revision).map Row.key := by
    intro id there
    cases revision with
    | none => cases there
    | some p =>
      rcases mem_keys_createdRows.1 there with same | ⟨e, -, same⟩ <;> cases same
  have stored : (((Session.opened base).plus rows).leaves base).row
      (.approval change.mappingId) = some (.approval record) := by
    rw [row_leaves_plus, ← key]
    exact Tables.row_putAll_cons (by rw [key]; exact later _)
  have others : ∀ id, change.mappingId ≠ id →
      (((Session.opened base).plus rows).leaves base).row (.approval id) =
        base.row (.approval id) := by
    intro id other
    rw [row_leaves_plus]
    refine Tables.row_putAll_of_not_mem fun there => ?_
    rcases List.mem_cons.1 there with same | there
    · rw [key] at same
      cases same
      exact other rfl
    · exact later id there
  refine ⟨fun k r h => ?_, ⟨revision, revised'⟩, fun id step => ?_, fun d mem asks => ?_,
    fun same => absurd same (leaves_plus_ne base nofun)⟩
  · exact keyed.putAll rows k r ((row_leaves_plus base rows k).symm.trans h)
  · rw [changesOf_change, state_of_changed stored others]
    by_cases same : change.mappingId = id ∧ change.step = step
    · rw [if_pos same, if_pos same]
      obtain ⟨rfl, rfl⟩ := same
      refine .inr ⟨_, rfl, ?_, status, rfl⟩
      rw [ApprovalRecord.status, state_foundRecord]
    · rw [if_neg same, if_neg same]
      exact .inl ⟨rfl, rfl⟩
  · cases eq_of_mem_change mem
    obtain ⟨p, rfl, mappingId, step⟩ := prepared asks
    have names : (freshRows p.request.id (Recipient.distinct p.recipients)).map
        RecipientRow.recipientId = (Recipient.distinct p.recipients).map Recipient.id := by
      rw [freshRows, List.map_map]
      rfl
    refine ⟨_, rfl, ⟨p.request, ?_, mappingId, step⟩, ?_, fun e => ?_⟩
    · exact (row_request _ _ _).1 (revised'.stored p rfl)
    · rw [names]
      exact Recipient.nodup_distinct _
    · rw [names, ← isSome_row_recipient]
      exact (revised'.asked p rfl e).symm

/-! ## Every call -/

/-- The events that a call raises. -/
def raised : (c : Call) → Except WorkflowError c.Result → List WorkflowEvent
  | _, .error _ => []
  | .setStepStatus _, .ok r => r.pending
  | .createRequest _, .ok r => r.pending
  | .markRead .., .ok r | .submitCompletion .., .ok r => r.pending
  | .listForRecipient .., .ok _ | .countUnread _, .ok _ | .getRequest _, .ok _
  | .getRecord _, .ok _ => []

/-- The labels by which changes among some events are counted. -/
def tallied (events : List WorkflowEvent) : List (List (String × String)) :=
  events.filterMap fun
    | .stepStatusChanged d => some (changeLabels d.step d.after)
    | _ => none

theorem tallied_eq_nil {events : List WorkflowEvent} (h : ∀ d, .stepStatusChanged d ∉ events) :
    tallied events = [] := by
  refine List.filterMap_eq_nil_iff.2 fun event mem => ?_
  cases event with
  | stepStatusChanged d => exact absurd mem (h d)
  | _ => rfl

theorem concluded_hears {s : Service} {place : Nat} (observes : Observes s place) (c : Call)
    (outcome : Except WorkflowError c.Result) :
    concluded (hears place) s c outcome = raised c outcome := by
  cases outcome with
  | error e => cases c <;> rfl
  | ok r =>
    cases c with
    | setStepStatus change =>
      show handed _ s r.pending ++ (if r.value.changed then [] else []) = r.pending
      rw [handed_hears observes, ite_self, List.append_nil]
    | createRequest new =>
      show handed _ s r.pending ++ [] = r.pending
      rw [handed_hears observes, List.append_nil]
    | markRead requestId recipientId => exact handed_hears observes r.pending
    | submitCompletion requestId recipientId comment =>
      show handed _ s r.pending ++ [] = r.pending
      rw [handed_hears observes, List.append_nil]
    | _ => rfl

section

variable {origin : Store} {s : Service} {base left : Tables}

theorem Updated.effect (keyed : base.Keyed) (attached : base.Attached)
    {requestId : RevisionRequestId} {recipientId : EmployeeId} {update : RowUpdate}
    {v : WithEvents RecipientRow} {u : Session} {turns : List Turn}
    (h : Updated (.start base) requestId recipientId (.opened base) update v u turns) :
    Effect base (u.leaves base) v.pending ∧ tallied v.pending = [] := by
  cases h with
  | same row => exact ⟨.refl keyed attached, rfl⟩
  | @stored update turns now shown request requested row found new read =>
    have own := keyed.key_recipient found
    have there : (base.row (Row.recipient (update.apply row now)).key).isSome := by
      rw [update.key_apply, own, isSome_row_recipient]
      exact found ▸ rfl
    have revised := revised_put_recipient attached there
    have some_ : [Row.recipient (update.apply row now)] ≠ [] := List.cons_ne_nil _ _
    exact ⟨.of_rows keyed some_ revised (by simp [Row.key]) update.not_mem_events,
      tallied_eq_nil update.not_mem_events⟩

/-- The events of a call say what became of the tables, and the changes among them are counted. -/
theorem Worked.effect (keyed : base.Keyed) (attached : base.Attached)
    (mappings : ∀ id m, origin.findMapping id = some m → m.id = id) {c : Call} {plan : c.Plan}
    {prepared : List Turn} {ready : Session}
    (prepares : Follows origin c.prepare.run default prepared (pure (.ok plan)) ready)
    {outcome : Except WorkflowError c.Result}
    (worked : Worked origin (c.job s plan) base outcome left) :
    Effect base left (raised c outcome) ∧
      concluded tallies s c outcome = tallied (raised c outcome) := by
  have opened : (Session.opened base).working = some (.start base) := rfl
  cases worked with
  | failed => cases c <;> exact ⟨.refl keyed attached, rfl⟩
  | @read turns u b readOnly follows =>
    cases c with
    | listForRecipient recipientId filter => exact ⟨.refl keyed attached, rfl⟩
    | countUnread recipientId => exact ⟨.refl keyed attached, rfl⟩
    | getRequest requestId => exact ⟨.refl keyed attached, rfl⟩
    | getRecord id => exact ⟨.refl keyed attached, rfl⟩
    | _ => cases readOnly
  | @wrote turns u b writes follows =>
    cases c with
    | setStepStatus change =>
      obtain ⟨now, changed⟩ := Follows.applyChange opened follows
      cases changed with
      | same =>
        exact ⟨.refl keyed attached, by simp [concluded, raised, handed_tallies]; rfl⟩
      | moved turns shown status new read =>
        refine ⟨.of_change keyed attached status new fun asks =>
          Follows.prepareChange mappings asks prepares, ?_⟩
        have later : tallied (revisionEvents plan) = [] := by
          cases plan <;> rfl
        show handed tallies s _ ++ [changeLabels change.step change.status] =
          changeLabels change.step change.status :: tallied (revisionEvents plan)
        rw [handed_tallies, later]
        rfl
    | createRequest new =>
      obtain ⟨rfl, rfl, absent, -⟩ := Follows.createRecorded opened follows
      have revised : Revised base
          (base.putAll ([] ++ revisionRows (some ⟨plan.request, plan.recipients⟩)))
          (some ⟨plan.request, plan.recipients⟩) :=
        revised_putAll attached (fun k hk => absurd hk List.not_mem_nil) fun p hp =>
          Option.some.inj hp ▸ absent
      have records : ∀ id, RowKey.approval id ∉
          (createdRows plan.request plan.recipients).map Row.key := by
        intro id there
        rcases mem_keys_createdRows.1 there with same | ⟨e, -, same⟩ <;> cases same
      have some_ : createdRows plan.request plan.recipients ≠ [] := nofun
      have unchanged : ∀ d, .stepStatusChanged d ∉ [requestedEvent plan.request
          (freshRows plan.request.id (Recipient.distinct plan.recipients))] := by
        intro d mem
        cases List.mem_singleton.1 mem
      refine ⟨.of_rows keyed some_ revised records unchanged, ?_⟩
      show handed tallies s _ ++ [] = []
      rw [handed_tallies]
      rfl
    | markRead requestId recipientId =>
      obtain ⟨effect, none⟩ := (Follows.markReadIn opened follows).effect keyed attached
      exact ⟨effect, (handed_tallies s b.pending).trans none.symm⟩
    | submitCompletion requestId recipientId comment =>
      obtain ⟨effect, none⟩ := (Follows.completeIn opened follows).effect keyed attached
      refine ⟨effect, ?_⟩
      show handed tallies s b.pending ++ [] = tallied b.pending
      rw [handed_tallies, none]
      rfl
    | _ => cases writes

end

end Appraisal.Memory
