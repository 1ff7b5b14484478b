import Appraisal.Proofs.Workflow.Effect

/-!
# Deeds

What the work of a call stores is one of four things: nothing, a new request with its rows, a
changed record that may come with a new request, or the row of a recipient who has read or completed
a request.  `Deed` lists them, with the events that tell of them, and `Follows.deed` says that the
work of every call does one of them on the tables that it finds.

`Deed.made` says what a row may be after a deed, and `Deed.recipient` what became of the row of a
recipient and which events tell of it.
-/

namespace Appraisal.Memory

open Workflow

/-! ## What a call has planned -/

/-- The revision of a plan. -/
def revisionOf : (c : Call) → c.Plan → Option PreparedRevision
  | .setStepStatus _, plan => plan
  | .createRequest _, plan => some ⟨plan.request, plan.recipients⟩
  | .markRead .., _ | .submitCompletion .., _ | .listForRecipient .., _ | .countUnread _, _
  | .getRequest _, _ | .getRecord _, _ => none

/-- A change that asks for a revision comes with one for its mapping and step. -/
def Asks (change : StepStatusChange) (revision : Option PreparedRevision) : Prop :=
  change.status = .revisionRequested → ∃ p, revision = some p ∧
    p.request.mappingId = change.mappingId ∧ p.request.step = change.step

/-- The plan of a change has the revision that is asked for. -/
def Suits : (c : Call) → c.Plan → Prop
  | .setStepStatus change, plan => Asks change plan
  | .createRequest _, _ | .markRead .., _ | .submitCompletion .., _ | .listForRecipient .., _
  | .countUnread _, _ | .getRequest _, _ | .getRecord _, _ => True

/-! ## Deeds -/

/-- The work of a call may store such rows on the tables, at a time that the clock showed and with a
revision that was prepared, and these events tell of it. -/
inductive Deed (base : Tables) (shown : Instant → Prop) (prepared : PreparedRevision → Prop) :
    List Row → List WorkflowEvent → Prop
  | nothing : Deed base shown prepared [] []
  /-- A request is created. -/
  | created {p : PreparedRevision} (ready : prepared p)
    (absent : base.row (.request p.request.id) = none) :
    Deed base shown prepared (revisionRows (some p)) (revisionEvents (some p))
  /-- A step is given another status. -/
  | changed {change : StepStatusChange} {revision : Option PreparedRevision} {now : Instant}
    (at_ : shown now) (ready : ∀ p, revision = some p → prepared p)
    (status : (foundRecord base change now).status change.step ≠ change.status)
    (absent : ∀ p, revision = some p → base.row (.request p.request.id) = none)
    (asks : Asks change revision) :
    Deed base shown prepared (.approval (changedRecord base change now) :: revisionRows revision)
      (changeEvent base change now :: revisionEvents revision)
  /-- A request is read or completed for a recipient. -/
  | updated (update : RowUpdate) {now : Instant} (at_ : shown now) {requestId : RevisionRequestId}
    {recipientId : EmployeeId} {request : RevisionRequest} {row : RecipientRow}
    (requested : base.requests.get? requestId = some request)
    (found : base.recipients.get? (requestId, recipientId) = some row)
    (new : update.isDone row = false) :
    Deed base shown prepared [.recipient (update.apply row now)]
      (update.events requestId recipientId row now)

variable {base : Tables} {shown shown' : Instant → Prop} {prepared prepared' : PreparedRevision → Prop}
  {rows : List Row} {events : List WorkflowEvent}

theorem Deed.mono (h : Deed base shown prepared rows events) (later : ∀ now, shown now → shown' now)
    (ready : ∀ p, prepared p → prepared' p) : Deed base shown' prepared' rows events := by
  cases h with
  | nothing => exact .nothing
  | created ready' absent => exact .created (ready _ ready') absent
  | changed at_ ready' status absent asks =>
    exact .changed (later _ at_) (fun p hp => ready p (ready' p hp)) status absent asks
  | updated update at_ requested found new =>
    exact .updated update (later _ at_) requested found new

theorem Updated.deed {requestId : RevisionRequestId} {recipientId : EmployeeId}
    {update : RowUpdate} {v : WithEvents RecipientRow} {s s' : Session} {turns : List Turn}
    (h : Updated (.start base) requestId recipientId s update v s' turns) :
    ∃ rows, s' = s.plus rows ∧ Deed base (ShownIn turns) prepared rows v.pending := by
  cases h with
  | same => exact ⟨[], (Session.plus_nil s).symm, .nothing⟩
  | stored update turns shown requested found new =>
    exact ⟨_, rfl, .updated update shown requested found new⟩

/-- The work of every call that may write does one deed. -/
theorem Follows.deed {origin : Store} {service : Service} {c : Call} {plan : c.Plan}
    (suits : Suits c plan) (writes : (c.job service plan).options.readOnly = false)
    {b : c.Result} {s : Session} {turns : List Turn}
    (h : Follows origin (c.job service plan).work.run (.opened base) turns (pure (.ok b)) s) :
    ∃ rows, s = (Session.opened base).plus rows ∧
      Deed base (ShownIn turns) (fun p => revisionOf c plan = some p) rows (raised c (.ok b)) := by
  have opened : (Session.opened base).working = some (.start base) := rfl
  cases c with
  | setStepStatus change =>
    obtain ⟨now, changed⟩ := Follows.applyChange opened h
    cases changed with
    | same => exact ⟨[], (Session.plus_nil _).symm, .nothing⟩
    | moved turns shown status new read =>
      exact ⟨_, rfl, .changed shown (fun p hp => hp) status new suits⟩
  | createRequest new =>
    obtain ⟨rfl, rfl, absent, read⟩ := Follows.createRecorded opened h
    exact ⟨_, rfl, .created (p := ⟨plan.request, plan.recipients⟩) rfl absent⟩
  | markRead requestId recipientId => exact (Follows.markReadIn opened h).deed
  | submitCompletion requestId recipientId comment => exact (Follows.completeIn opened h).deed
  | _ => cases writes

/-! ## Rows that a deed leaves -/

theorem mem_createdRows {request : RevisionRequest} {recipients : List Recipient} {r : Row}
    (h : r ∈ createdRows request recipients) : r = .request request ∨
      ∃ x ∈ Recipient.distinct recipients, r = .recipient (.fresh request.id x.id x.role) := by
  rcases List.mem_cons.1 h with rfl | h
  · exact .inl rfl
  · obtain ⟨row, mem, rfl⟩ := List.mem_map.1 h
    obtain ⟨x, asked, rfl⟩ := List.mem_map.1 mem
    exact .inr ⟨x, asked, rfl⟩

/-- What a row may be when a deed has left some tables: a row of before, or one of those that the
deed stores. -/
inductive Made (base left : Tables) (shown : Instant → Prop) (prepared : PreparedRevision → Prop) :
    Row → Prop
  | kept {r : Row} (found : base.row r.key = some r) : Made base left shown prepared r
  | changed {change : StepStatusChange} {now : Instant} (at_ : shown now)
    (requested : change.status = .revisionRequested → ∃ request,
      left.row (.request request.id) = some (.request request) ∧
        request.mappingId = change.mappingId ∧ request.step = change.step) :
    Made base left shown prepared (.approval (changedRecord base change now))
  | created {p : PreparedRevision} (ready : prepared p)
    (absent : base.row (.request p.request.id) = none)
    (addressed : ∀ x ∈ Recipient.distinct p.recipients,
      (left.row (.recipient p.request.id x.id)).isSome) :
    Made base left shown prepared (.request p.request)
  | added {request : RevisionRequest} {x : Recipient}
    (absent : base.row (.request request.id) = none)
    (stored : left.row (.request request.id) = some (.request request)) :
    Made base left shown prepared (.recipient (.fresh request.id x.id x.role))
  | updated (update : RowUpdate) {row : RecipientRow} {now : Instant} (at_ : shown now)
    {request : RevisionRequest}
    (requested : base.row (.request row.requestId) = some (.request request))
    (found : base.row (Row.recipient row).key = some (.recipient row))
    (new : update.isDone row = false) :
    Made base left shown prepared (.recipient (update.apply row now))

theorem Made.of_createdRows {t : Tables} {p : PreparedRevision} (ready : prepared p)
    (absent : base.row (.request p.request.id) = none) {r : Row}
    (mem : r ∈ createdRows p.request p.recipients) :
    Made base (t.putAll (createdRows p.request p.recipients)) shown prepared r := by
  rcases mem_createdRows mem with rfl | ⟨x, asked, rfl⟩
  · refine .created ready absent fun x asked => Tables.isSome_row_putAll ?_
    exact mem_keys_createdRows.2 (.inr ⟨x.id, List.mem_map_of_mem asked, rfl⟩)
  · exact .added absent (row_putAll_createdRows t p.request p.recipients)

theorem Deed.made (h : Deed base shown prepared rows events) (keyed : base.Keyed) {k : RowKey}
    {r : Row} (found : (base.putAll rows).row k = some r) :
    Made base (base.putAll rows) shown prepared r := by
  obtain rfl : r.key = k := keyed.putAll rows k r found
  rcases base.row_putAll_cases rows r.key with ⟨-, same⟩ | ⟨r', mem, -, row⟩
  · exact .kept (same.symm.trans found)
  · cases row.symm.trans found
    cases h with
    | nothing => cases mem
    | created ready absent => exact .of_createdRows ready absent mem
    | @changed change revision now at_ ready status absent asks =>
      rcases List.mem_cons.1 mem with rfl | mem
      · refine .changed at_ fun asked => ?_
        obtain ⟨p, rfl, mapping, step⟩ := asks asked
        have stored := row_putAll_createdRows
          (base.put (.approval (changedRecord base change now))) p.request p.recipients
        exact ⟨p.request, stored, mapping, step⟩
      · cases revision with
        | none => cases mem
        | some p => exact .of_createdRows (ready p rfl) (absent p rfl) mem
    | @updated update now at_ requestId recipientId request row requested stored new =>
      cases List.mem_singleton.1 mem
      obtain ⟨rfl, rfl⟩ := keyed.recipient stored
      exact .updated update at_ ((row_request _ _ _).2 requested)
        ((row_recipient _ _ _ _).2 stored) new

/-! ## The row of a recipient -/

/-- An event tells of a recipient's row. -/
def concerns (requestId : RevisionRequestId) (recipientId : EmployeeId) : WorkflowEvent → Bool
  | .revisionRead d => d.requestId = requestId && d.recipientId = recipientId
  | .revisionCompleted d => d.requestId = requestId && d.recipientId = recipientId
  | .stepStatusChanged _ | .revisionRequested _ => false

/-- The events that tell of a recipient's row. -/
def eventsOf (requestId : RevisionRequestId) (recipientId : EmployeeId)
    (events : List WorkflowEvent) : List WorkflowEvent :=
  events.filter (concerns requestId recipientId)

/-- What a deed may make of the row of a recipient, with the events that tell of it. -/
inductive RowMoves (base : Tables) (shown : Instant → Prop) (requestId : RevisionRequestId)
    (recipientId : EmployeeId) :
    Option RecipientRow → Option RecipientRow → List WorkflowEvent → Prop
  | stays (row? : Option RecipientRow) :
    RowMoves base shown requestId recipientId row? row? []
  | added (role : Role) (absent : base.row (.request requestId) = none) :
    RowMoves base shown requestId recipientId none (some (.fresh requestId recipientId role)) []
  | updated (update : RowUpdate) {row : RecipientRow} {now : Instant} (at_ : shown now)
    (new : update.isDone row = false) :
    RowMoves base shown requestId recipientId (some row) (some (update.apply row now))
      (update.events requestId recipientId row now)

theorem eventsOf_append (requestId : RevisionRequestId) (recipientId : EmployeeId)
    (first second : List WorkflowEvent) : eventsOf requestId recipientId (first ++ second) =
      eventsOf requestId recipientId first ++ eventsOf requestId recipientId second :=
  List.filter_append ..

@[simp] theorem eventsOf_revisionEvents (requestId : RevisionRequestId) (recipientId : EmployeeId)
    (revision : Option PreparedRevision) :
    eventsOf requestId recipientId (revisionEvents revision) = [] := by
  cases revision <;> rfl

theorem eventsOf_events (update : RowUpdate) (requestId other : RevisionRequestId)
    (recipientId another : EmployeeId) (row : RecipientRow) (now : Instant) :
    eventsOf requestId recipientId (update.events other another row now) =
      if other = requestId ∧ another = recipientId then update.events other another row now
      else [] := by
  cases update with
  | read =>
    by_cases same : other = requestId ∧ another = recipientId <;>
      simp [eventsOf, RowUpdate.events, concerns, same]
  | complete comment =>
    by_cases same : other = requestId ∧ another = recipientId <;>
      cases wasRead : row.isRead <;>
        simp [eventsOf, RowUpdate.events, completionEvents, concerns, same, wasRead]

/-- A row of a recipient that was not there belongs to a request that was not there. -/
theorem RowMoves.of_created {t : Tables} {p : PreparedRevision}
    (attached : base.Attached) (absent : base.row (.request p.request.id) = none)
    {requestId : RevisionRequestId} {recipientId : EmployeeId} {r : Row}
    (mem : r ∈ createdRows p.request p.recipients)
    (key : r.key = .recipient requestId recipientId)
    (row : t.row (.recipient requestId recipientId) = some r) :
    RowMoves base shown requestId recipientId (base.recipients.get? (requestId, recipientId))
      (t.recipients.get? (requestId, recipientId)) [] := by
  rcases mem_createdRows mem with rfl | ⟨x, -, rfl⟩
  · cases key
  · have own : RowKey.recipient p.request.id x.id = .recipient requestId recipientId := key
    cases own
    rw [attached.recipient_eq_none absent, (row_recipient _ _ _ _).1 row]
    exact .added x.role absent

theorem Deed.recipient (h : Deed base shown prepared rows events) (keyed : base.Keyed)
    (attached : base.Attached) (requestId : RevisionRequestId) (recipientId : EmployeeId) :
    RowMoves base shown requestId recipientId (base.recipients.get? (requestId, recipientId))
      ((base.putAll rows).recipients.get? (requestId, recipientId))
      (eventsOf requestId recipientId events) := by
  have stays : (base.putAll rows).row (.recipient requestId recipientId) =
      base.row (.recipient requestId recipientId) →
      RowMoves base shown requestId recipientId (base.recipients.get? (requestId, recipientId))
        ((base.putAll rows).recipients.get? (requestId, recipientId)) [] := by
    intro same
    rw [Tables.recipient_eq_of_row same]
    exact .stays _
  have found := base.row_putAll_cases rows (.recipient requestId recipientId)
  cases h with
  | nothing => exact .stays _
  | @created p ready absent =>
    rw [eventsOf_revisionEvents]
    rcases found with ⟨-, same⟩ | ⟨r, mem, key, row⟩
    · exact stays same
    · exact .of_created attached absent mem key row
  | @changed change revision now at_ ready status absent asks =>
    have silent : eventsOf requestId recipientId
        (changeEvent base change now :: revisionEvents revision) = [] :=
      eventsOf_revisionEvents requestId recipientId revision
    rw [silent]
    rcases found with ⟨-, same⟩ | ⟨r, mem, key, row⟩
    · exact stays same
    · rcases List.mem_cons.1 mem with rfl | mem
      · cases key
      · cases revision with
        | none => cases mem
        | some p => exact .of_created attached (absent p rfl) mem key row
  | @updated update now at_ other another request row requested stored new =>
    have own : (Row.recipient (update.apply row now)).key = .recipient other another :=
      (update.key_apply row now).trans (keyed.key_recipient stored)
    rw [eventsOf_events]
    rcases found with ⟨untouched, same⟩ | ⟨r, mem, key, row'⟩
    · rw [if_neg]
      · exact stays same
      · rintro ⟨rfl, rfl⟩
        exact untouched (by rw [List.map_singleton, own]; exact List.mem_singleton.2 rfl)
    · cases List.mem_singleton.1 mem
      cases own.symm.trans key
      rw [if_pos ⟨rfl, rfl⟩, stored, (row_recipient _ _ _ _).1 row']
      exact .updated update at_ new

end Appraisal.Memory
