import Appraisal.Proofs.Concurrent.Twin
import Appraisal.Proofs.Memory.Placed
import Appraisal.Proofs.Workflow.Call

/-!
# What work stores and reads

The work of a call that ends with a value has stored certain rows, in a certain order, and has read
certain others.  There is one theorem for each piece of work that writes: `Follows.applyChange`,
`Follows.createRecorded`, `Follows.markReadIn` and `Follows.completeIn`.  Each also says that the
work read nothing but rows that it stored and revision requests that it found.
-/

namespace Appraisal.Memory

open Workflow

/-! ## Runs of work -/

theorem ReadIn.append {first second : List Turn} {key : RowKey} :
    ReadIn (first ++ second) key ↔ ReadIn first key ∨ ReadIn second key := by
  simp only [ReadIn, List.mem_append, or_and_right, exists_or]

theorem ReadIn.call {call : StoreCall} {w : Outside} {key : RowKey} :
    ReadIn [⟨.session (.store call), w⟩] key ↔ reads call key := by
  simp [ReadIn]

theorem not_readIn_nil {key : RowKey} : ¬ ReadIn [] key := by
  simp [ReadIn]

/-- The clock showed a time in some turns. -/
def ShownIn (turns : List Turn) (now : Instant) : Prop := ∃ turn ∈ turns, turn.outside.now = now

theorem ShownIn.append {first second : List Turn} {now : Instant} :
    ShownIn (first ++ second) now ↔ ShownIn first now ∨ ShownIn second now := by
  simp only [ShownIn, List.mem_append, or_and_right, exists_or]

section

variable {α β : Type} {origin : Store} {s s' : Session} {turns : List Turn}

namespace Follows

/-- A single call on the session. -/
theorem session {call : SessionCall} {answer : call.Answer}
    (h : Follows origin (Action.session call) s turns (pure answer) s') :
    ∃ w : Outside, turns = [⟨.session call, w⟩] ∧
      answer = (w.answer origin s (.session call)).1 ∧
      s' = (w.answer origin s (.session call)).2.2 := by
  cases h with
  | turn w calm rest =>
    obtain ⟨rfl, same, stay⟩ := of_pure rest
    exact ⟨w, rfl, same, stay⟩

/-- Work in a row ends with a value if both pieces do. -/
theorem work_bind {work : WorkflowWork α} {f : α → WorkflowWork β} {b : β}
    (h : Follows origin (work >>= f).run s turns (pure (.ok b)) s') :
    ∃ first a mid second, turns = first ++ second ∧
      Follows origin work.run s first (pure (.ok a)) mid ∧
      Follows origin (f a).run mid second (pure (.ok b)) s' := by
  obtain ⟨first, r, mid, second, split, hw, hf⟩ := bind_pure h
  cases r with
  | ok a => exact ⟨first, a, mid, second, split, hw, hf⟩
  | error e =>
    obtain ⟨-, same, -⟩ := of_pure hf
    cases same

theorem work_pure {a b : α} (h : Follows origin (pure a : WorkflowWork α).run s turns
    (pure (.ok b)) s') : turns = [] ∧ b = a ∧ s' = s := by
  obtain ⟨none, same, stay⟩ := of_pure h
  exact ⟨none, Except.ok.inj same, stay⟩

theorem work_throw {e : WorkflowError} {b : α}
    (h : Follows origin (throw e : WorkflowWork α).run s turns (pure (.ok b)) s') : False := by
  obtain ⟨-, same, -⟩ := of_pure h
  cases same

/-- A store call that ends with a value. -/
theorem work_store {call : StoreCall} {v : call.Value}
    (h : Follows origin (Work.store call : WorkflowWork call.Value).run s turns (pure (.ok v)) s') :
    (s.store call).1 = .ok v ∧ s' = s.plus (storedRow call (.ok v)).toList ∧
      ∀ key, ReadIn turns key ↔ reads call key := by
  obtain ⟨first, answer, mid, second, rfl, called, rest⟩ := bind_pure h
  obtain ⟨w, rfl, rfl, rfl⟩ := session called
  cases ha : (s.store call).1 with
  | error f =>
    have ended : Follows origin (pure (Except.error (ofFailure f)) :
        Action WorkflowEvent (Except WorkflowError call.Value)) (s.store call).2 second
        (pure (.ok v)) s' := by
      have same : (w.answer origin s (.session (.store call))).1 = .error f := ha
      rw [same] at rest
      exact rest
    obtain ⟨-, same, -⟩ := of_pure ended
    cases same
  | ok a =>
    have ended : Follows origin (pure (Except.ok a) :
        Action WorkflowEvent (Except WorkflowError call.Value)) (s.store call).2 second
        (pure (.ok v)) s' := by
      have same : (w.answer origin s (.session (.store call))).1 = .ok a := ha
      rw [same] at rest
      exact rest
    obtain ⟨rfl, same, rfl⟩ := of_pure ended
    cases same
    refine ⟨rfl, ?_, fun key => ?_⟩
    · rw [← ha]
      exact s.store_eq_plus call
    · rw [List.append_nil]
      exact ReadIn.call

/-- Work that is done away from the session and cannot fail. -/
theorem work_perform {action : Action WorkflowEvent α} {a : α}
    (h : Follows origin (Work.perform action : WorkflowWork α).run s turns (pure (.ok a)) s') :
    Follows origin action s turns (pure a) s' := by
  obtain ⟨first, b, mid, second, rfl, done, rest⟩ := bind_pure h
  obtain ⟨rfl, same, rfl⟩ := of_pure rest
  cases same
  rw [List.append_nil]
  exact done

theorem now {a : Instant} (h : Follows origin Action.now s turns (pure a) s') :
    s' = s ∧ ShownIn turns a ∧ ∀ key, ¬ ReadIn turns key := by
  cases h with
  | turn w calm rest =>
    obtain ⟨rfl, rfl, stay⟩ := of_pure rest
    exact ⟨stay, ⟨_, List.mem_cons_self, rfl⟩, fun key ⟨made, hm, call, hc, _⟩ => by simp_all⟩

theorem log {level : LogLevel} {message : String} {fields : List (String × LogValue)} {u : Unit}
    (h : Follows origin (Action.log level message fields) s turns (pure u) s') :
    s' = s ∧ ∀ key, ¬ ReadIn turns key := by
  cases h with
  | turn w calm rest =>
    obtain ⟨rfl, -, stay⟩ := of_pure rest
    exact ⟨stay, fun key ⟨made, hm, call, hc, _⟩ => by simp_all⟩

end Follows

end

/-! ## Creating a request -/

/-- The rows of a request that was just created. -/
def freshRows (requestId : RevisionRequestId) (recipients : List Recipient) : List RecipientRow :=
  recipients.map fun r => .fresh requestId r.id r.role

/-- The rows of a new request: the request itself and one for each distinct recipient. -/
def createdRows (request : RevisionRequest) (recipients : List Recipient) : List Row :=
  .request request :: (freshRows request.id (Recipient.distinct recipients)).map .recipient

namespace Follows

variable {origin : Store} {s s' : Session} {turns : List Turn}

/-- Storing the rows of recipients reads and stores only these and the request. -/
theorem insertRows {requestId : RevisionRequestId} {recipients : List Recipient}
    {rows : List RecipientRow}
    (h : Follows origin (insertRows requestId recipients : WorkflowWork _).run s turns
      (pure (.ok rows)) s') :
    rows = freshRows requestId recipients ∧ s' = s.plus (rows.map .recipient) ∧
      ∀ key, ReadIn turns key → key = .request requestId ∨
        key ∈ (rows.map Row.recipient).map Row.key := by
  induction recipients generalizing s turns rows with
  | nil =>
    obtain ⟨rfl, rfl, rfl⟩ := work_pure h
    exact ⟨rfl, (Session.plus_nil s').symm, fun key hk => absurd hk not_readIn_nil⟩
  | cons r recipients ih =>
    obtain ⟨first, u, mid, rest, rfl, inserted, h⟩ := work_bind h
    obtain ⟨-, rfl, read⟩ := work_store inserted
    obtain ⟨later, more, last, none, rfl, h, ended⟩ := work_bind h
    obtain ⟨rfl, rfl, rfl⟩ := work_pure ended
    obtain ⟨rfl, rfl, readMore⟩ := ih h
    refine ⟨rfl, ?_, fun key hk => ?_⟩
    · rw [Session.plus_plus]
      rfl
    · rw [List.append_nil, ReadIn.append] at hk
      rw [List.map_cons, List.map_cons, List.mem_cons]
      rcases hk with hk | hk
      · rcases (read key).1 hk with same | same
        · exact .inl same
        · exact .inr (.inl same)
      · rcases readMore key hk with same | same
        · exact .inl same
        · exact .inr (.inr same)

/-- Creating a request stores its rows, none of which were there, and reads no others. -/
theorem createIn {request : RevisionRequest} {recipients : List Recipient}
    {rows : List RecipientRow} {t : Transaction} (working : s.working = some t)
    (h : Follows origin (createIn request recipients : WorkflowWork _).run s turns
      (pure (.ok rows)) s') :
    rows = freshRows request.id (Recipient.distinct recipients) ∧
      s' = s.plus (createdRows request recipients) ∧
      t.tables.row (.request request.id) = none ∧
      ∀ key, ReadIn turns key → key ∈ (createdRows request recipients).map Row.key := by
  obtain ⟨first, u, mid, rest, rfl, inserted, h⟩ := work_bind h
  obtain ⟨accepted, rfl, read⟩ := work_store inserted
  obtain ⟨second, rows', mid', rest', rfl, rowsIn, h⟩ := work_bind h
  obtain ⟨rfl, rfl, readRows⟩ := insertRows rowsIn
  obtain ⟨third, u', mid'', rest'', rfl, logged, ended⟩ := work_bind h
  obtain ⟨rfl, silent⟩ := log (work_perform logged)
  obtain ⟨rfl, rfl, rfl⟩ := work_pure ended
  refine ⟨rfl, ?_, ?_, fun key hk => ?_⟩
  · rw [Session.plus_plus]
    rfl
  · exact Session.new_of_store working accepted rfl rfl
  · rw [List.append_nil, ReadIn.append, ReadIn.append] at hk
    rw [createdRows, List.map_cons, List.mem_cons]
    rcases hk with hk | hk | hk
    · exact .inl ((read key).1 hk)
    · exact readRows key hk
    · exact absurd hk (silent key)

/-- Creating a request on its own records that its recipients were asked. -/
theorem createRecorded {request : RevisionRequest} {recipients : List Recipient}
    {v : WithEvents RevisionRequest} {t : Transaction} (working : s.working = some t)
    (h : Follows origin (createRecorded request recipients).run s turns (pure (.ok v)) s') :
    v = ⟨request, [requestedEvent request
        (freshRows request.id (Recipient.distinct recipients))]⟩ ∧
      s' = s.plus (createdRows request recipients) ∧
      t.tables.row (.request request.id) = none ∧
      ∀ key, ReadIn turns key → key ∈ (createdRows request recipients).map Row.key := by
  obtain ⟨first, rows, mid, rest, rfl, created, ended⟩ := work_bind h
  obtain ⟨rfl, rfl, new, read⟩ := createIn working created
  obtain ⟨rfl, rfl, rfl⟩ := work_pure ended
  rw [List.append_nil]
  exact ⟨rfl, rfl, new, read⟩

end Follows

/-! ## Changing a step -/

/-- The record that a change finds. -/
def foundRecord (tables : Tables) (change : StepStatusChange) (now : Instant) : ApprovalRecord :=
  (tables.approvals.get? change.mappingId).getD (.fresh change.mappingId now)

/-- The record that a change leaves. -/
def changedRecord (tables : Tables) (change : StepStatusChange) (now : Instant) : ApprovalRecord :=
  (foundRecord tables change now).change change.step change.status change.actedBy now

/-- The rows of the revision that is asked for, if any. -/
def revisionRows : Option PreparedRevision → List Row
  | none => []
  | some p => createdRows p.request p.recipients

/-- The events of the revision that is asked for, if any. -/
def revisionEvents : Option PreparedRevision → List WorkflowEvent
  | none => []
  | some p => [requestedEvent p.request
      (freshRows p.request.id (Recipient.distinct p.recipients))]

/-- The event of a change. -/
def changeEvent (tables : Tables) (change : StepStatusChange) (now : Instant) : WorkflowEvent :=
  .stepStatusChanged ⟨change.mappingId, change.step,
    (foundRecord tables change now).status change.step, change.status, change.actedBy, now⟩

/-- What a change does on an open transaction: nothing if the step has the status already, and
otherwise it stores the changed record and the revision. -/
inductive Changed (t : Transaction) (change : StepStatusChange)
    (revision : Option PreparedRevision) (now : Instant) (s : Session) :
    WithEvents StepOutcome → Session → List Turn → Prop
  /-- The step has the status. -/
  | same (turns : List Turn)
    (status : (foundRecord t.tables change now).status change.step = change.status) :
    Changed t change revision now s (.ofValue ⟨foundRecord t.tables change now, false⟩) s turns
  /-- The step is given the status. -/
  | moved (turns : List Turn) (shown : ShownIn turns now)
    (status : (foundRecord t.tables change now).status change.step ≠ change.status)
    (new : ∀ p, revision = some p → t.tables.row (.request p.request.id) = none)
    (read : ∀ key, ReadIn turns key → key = .approval change.mappingId ∨
      key ∈ (revisionRows revision).map Row.key) :
    Changed t change revision now s
      ⟨⟨changedRecord t.tables change now, true⟩,
        changeEvent t.tables change now :: revisionEvents revision⟩
      (s.plus (.approval (changedRecord t.tables change now) :: revisionRows revision)) turns

namespace Follows

variable {origin : Store} {s s' : Session} {turns : List Turn}

theorem requestRevision {revision : Option PreparedRevision} {events : List WorkflowEvent}
    {t : Transaction} (working : s.working = some t)
    (h : Follows origin (requestRevision revision).run s turns (pure (.ok events)) s') :
    events = revisionEvents revision ∧ s' = s.plus (revisionRows revision) ∧
      (∀ p, revision = some p → t.tables.row (.request p.request.id) = none) ∧
      ∀ key, ReadIn turns key → key ∈ (revisionRows revision).map Row.key := by
  cases revision with
  | none =>
    obtain ⟨rfl, rfl, rfl⟩ := work_pure h
    exact ⟨rfl, (Session.plus_nil s').symm, nofun, fun key hk => absurd hk not_readIn_nil⟩
  | some p =>
    obtain ⟨first, rows, mid, rest, rfl, created, ended⟩ := work_bind h
    obtain ⟨rfl, rfl, new, read⟩ := createIn working created
    obtain ⟨rfl, rfl, rfl⟩ := work_pure ended
    rw [List.append_nil]
    exact ⟨rfl, rfl, fun q hq => Option.some.inj hq ▸ new, read⟩

theorem applyChange {change : StepStatusChange} {revision : Option PreparedRevision}
    {v : WithEvents StepOutcome} {t : Transaction} (working : s.working = some t)
    (h : Follows origin (applyChange change revision).run s turns (pure (.ok v)) s') :
    ∃ now, Changed t change revision now s v s' turns := by
  obtain ⟨first, now, s₁, rest, rfl, looked, h₁⟩ := work_bind h
  obtain ⟨rfl, shown, silent⟩ := Follows.now (work_perform looked)
  refine ⟨now, ?_⟩
  obtain ⟨second, stored, s₂, rest, rfl, found, h₂⟩ := work_bind h₁
  obtain ⟨answered, stay, readFound⟩ := work_store found
  obtain rfl : s₂ = s₁ := stay.trans (Session.plus_nil s₁)
  have stored_eq : stored = t.tables.approvals.get? change.mappingId :=
    Except.ok.inj (answered.symm.trans (Session.read_of_working working _))
  have record : stored.getD (.fresh change.mappingId now) = foundRecord t.tables change now := by
    rw [stored_eq, foundRecord]
  simp only [record] at h₂
  split at h₂
  · rename_i status
    obtain ⟨third, u, s₃, rest, rfl, logged, ended⟩ := work_bind h₂
    obtain ⟨rfl, -⟩ := log (work_perform logged)
    obtain ⟨rfl, rfl, stay⟩ := work_pure ended
    rw [stay]
    exact .same _ status
  · rename_i status
    obtain ⟨third, u, s₃, rest, rfl, saved, h₃⟩ := work_bind h₂
    obtain ⟨-, after, readSaved⟩ := work_store saved
    obtain rfl : s₃ = s₂.plus [.approval (changedRecord t.tables change now)] := after
    obtain ⟨fourth, events, s₄, rest, rfl, requested, ended⟩ := work_bind h₃
    have opened := Session.working_plus working [.approval (changedRecord t.tables change now)]
    obtain ⟨rfl, rfl, new, readRequested⟩ := Follows.requestRevision opened requested
    obtain ⟨rfl, rfl, rfl⟩ := work_pure ended
    rw [Session.plus_plus]
    refine .moved _ (ShownIn.append.2 (.inl shown)) status (fun p hp => ?_) fun key hk => ?_
    · have absent := new p hp
      rw [Transaction.tables_putAll, Tables.row_putAll_of_not_mem (by simp [Row.key])] at absent
      exact absent
    · simp only [ReadIn.append] at hk
      rcases hk with hk | hk | hk | hk | hk
      · exact absurd hk (silent key)
      · exact .inl ((readFound key).1 hk)
      · exact ((readSaved key).1 hk).elim
      · exact .inr (readRequested key hk)
      · exact absurd hk not_readIn_nil

end Follows

/-! ## Reading and completing a request -/

/-- What a recipient does with a request. -/
inductive RowUpdate
  | read
  | complete (comment : String)

namespace RowUpdate

/-- The row after it was done. -/
def apply (row : RecipientRow) (now : Instant) : RowUpdate → RecipientRow
  | read => row.markRead now
  | complete comment => row.complete comment now

/-- It had been done before. -/
def isDone (row : RecipientRow) : RowUpdate → Bool
  | read => row.isRead
  | complete _ => row.isCompleted

/-- The events that tell of it. -/
def events (requestId : RevisionRequestId) (recipientId : EmployeeId) (row : RecipientRow)
    (now : Instant) : RowUpdate → List WorkflowEvent
  | read => [.revisionRead ⟨requestId, recipientId, now⟩]
  | complete comment => completionEvents requestId recipientId row.isRead comment now

end RowUpdate

/-- What reading or completing a request does on an open transaction: nothing, if it is read
already, or it stores the row that it found in another state. -/
inductive Updated (t : Transaction) (requestId : RevisionRequestId) (recipientId : EmployeeId)
    (s : Session) : RowUpdate → WithEvents RecipientRow → Session → List Turn → Prop
  /-- The row stays as it is. -/
  | same (row : RecipientRow) (turns : List Turn) :
    Updated t requestId recipientId s .read (.ofValue row) s turns
  /-- The row is stored. -/
  | stored (update : RowUpdate) (turns : List Turn) {now : Instant} (shown : ShownIn turns now)
    {request : RevisionRequest} (requested : t.tables.requests.get? requestId = some request)
    {row : RecipientRow} (found : t.tables.recipients.get? (requestId, recipientId) = some row)
    (new : update.isDone row = false)
    (read : ∀ key, ReadIn turns key → key = .request requestId ∨
      key = .recipient requestId recipientId ∨ key = (Row.recipient row).key) :
    Updated t requestId recipientId s update
      ⟨update.apply row now, update.events requestId recipientId row now⟩
      (s.plus [.recipient (update.apply row now)]) turns

theorem key_markRead (row : RecipientRow) (now : Instant) :
    (Row.recipient (row.markRead now)).key = (Row.recipient row).key := by
  rw [RecipientRow.markRead]
  split <;> rfl

theorem RowUpdate.key_apply (update : RowUpdate) (row : RecipientRow) (now : Instant) :
    (Row.recipient (update.apply row now)).key = (Row.recipient row).key := by
  cases update with
  | read => exact key_markRead row now
  | complete comment => exact key_markRead row now

theorem RowUpdate.not_mem_events (update : RowUpdate) {requestId : RevisionRequestId}
    {recipientId : EmployeeId} {row : RecipientRow} {now : Instant} (d : StepStatusChanged) :
    .stepStatusChanged d ∉ update.events requestId recipientId row now := by
  cases update with
  | read => simp [events]
  | complete comment => cases hr : row.isRead <;> simp [events, completionEvents, hr]

/-- What is read when a row is loaded and then stored in another state. -/
theorem readIn_update {first second third : List Turn} {requestId : RevisionRequestId}
    {recipientId : EmployeeId} {row row' : RecipientRow}
    (loaded : ∀ key, ReadIn first key → key = .request requestId ∨
      key = .recipient requestId recipientId)
    (silent : ∀ key, ¬ ReadIn second key)
    (updated : ∀ key, ReadIn third key ↔ reads (.updateRecipient row') key)
    (same : (Row.recipient row').key = (Row.recipient row).key) {key : RowKey}
    (h : ReadIn (first ++ (second ++ third)) key) :
    key = .request requestId ∨ key = .recipient requestId recipientId ∨
      key = (Row.recipient row).key := by
  rw [ReadIn.append, ReadIn.append] at h
  rcases h with h | h | h
  · exact (loaded key h).imp_right .inl
  · exact absurd h (silent key)
  · rw [← same]
    exact .inr (.inr ((updated key).1 h))

namespace Follows

variable {origin : Store} {s s' : Session} {turns : List Turn}

theorem loadRow {requestId : RevisionRequestId} {recipientId : EmployeeId} {row : RecipientRow}
    {t : Transaction} (working : s.working = some t)
    (h : Follows origin (loadRow requestId recipientId).run s turns (pure (.ok row)) s') :
    s' = s ∧ (∃ request, t.tables.requests.get? requestId = some request) ∧
      t.tables.recipients.get? (requestId, recipientId) = some row ∧
      ∀ key, ReadIn turns key → key = .request requestId ∨
        key = .recipient requestId recipientId := by
  obtain ⟨first, request, s₁, rest, rfl, requested, h₁⟩ := work_bind h
  obtain ⟨answered, stay, readRequest⟩ := work_store requested
  obtain rfl : s₁ = s := stay.trans (Session.plus_nil s)
  have request_eq := answered.symm.trans (Session.read_of_working working _)
  cases request with
  | none => exact (work_throw h₁).elim
  | some request =>
    obtain ⟨second, found, s₂, rest, rfl, loaded, h₂⟩ := work_bind h₁
    obtain ⟨answered, stay, readRow⟩ := work_store loaded
    obtain rfl : s₂ = s₁ := stay.trans (Session.plus_nil s₁)
    have found_eq := answered.symm.trans (Session.read_of_working working _)
    cases found with
    | none => exact (work_throw h₂).elim
    | some row' =>
      obtain ⟨rfl, rfl, rfl⟩ := work_pure h₂
      refine ⟨rfl, ⟨request, (Except.ok.inj request_eq).symm⟩, (Except.ok.inj found_eq).symm,
        fun key hk => ?_⟩
      rw [List.append_nil, ReadIn.append] at hk
      rcases hk with hk | hk
      · exact .inl ((readRequest key).1 hk)
      · exact .inr ((readRow key).1 hk)

theorem markReadIn {requestId : RevisionRequestId} {recipientId : EmployeeId}
    {v : WithEvents RecipientRow} {t : Transaction} (working : s.working = some t)
    (h : Follows origin (markReadIn requestId recipientId).run s turns (pure (.ok v)) s') :
    Updated t requestId recipientId s .read v s' turns := by
  obtain ⟨first, row, s₁, rest, rfl, loaded, h₁⟩ := work_bind h
  obtain ⟨rfl, ⟨request, requested⟩, found, readLoaded⟩ := Follows.loadRow working loaded
  obtain ⟨second, now, s₂, rest, rfl, looked, h₂⟩ := work_bind h₁
  obtain ⟨rfl, shown, silent⟩ := Follows.now (work_perform looked)
  split at h₂
  · obtain ⟨rfl, rfl, stay⟩ := work_pure h₂
    rw [stay]
    exact .same _ _
  · rename_i unread
    obtain ⟨third, taken, s₃, rest, rfl, updated, h₃⟩ := work_bind h₂
    obtain ⟨-, after, readUpdated⟩ := work_store updated
    cases taken with
    | true =>
      obtain ⟨rfl, rfl, rfl⟩ := work_pure h₃
      obtain rfl : s' = s₂.plus [.recipient (row.markRead now)] := after
      refine .stored .read _ (ShownIn.append.2 (.inr (ShownIn.append.2 (.inl shown)))) requested
        found (eq_false_of_ne_true unread) fun key hk => ?_
      rw [List.append_nil] at hk
      exact readIn_update readLoaded silent readUpdated (key_markRead row now) hk
    | false =>
      obtain rfl : s₃ = s₂ := after.trans (Session.plus_nil s₂)
      obtain ⟨fourth, again, s₄, rest, rfl, reloaded, ended⟩ := work_bind h₃
      obtain ⟨rfl, -, -, -⟩ := Follows.loadRow working reloaded
      obtain ⟨rfl, rfl, stay⟩ := work_pure ended
      rw [stay]
      exact .same _ _

theorem completeIn {requestId : RevisionRequestId} {recipientId : EmployeeId} {comment : String}
    {v : WithEvents RecipientRow} {t : Transaction} (working : s.working = some t)
    (h : Follows origin (completeIn requestId recipientId comment).run s turns (pure (.ok v)) s') :
    Updated t requestId recipientId s (.complete comment) v s' turns := by
  obtain ⟨first, row, s₁, rest, rfl, loaded, h₁⟩ := work_bind h
  obtain ⟨rfl, ⟨request, requested⟩, found, readLoaded⟩ := Follows.loadRow working loaded
  split at h₁
  · exact (work_throw h₁).elim
  · rename_i uncompleted
    obtain ⟨second, now, s₂, rest, rfl, looked, h₂⟩ := work_bind h₁
    obtain ⟨rfl, shown, silent⟩ := Follows.now (work_perform looked)
    obtain ⟨third, taken, s₃, rest, rfl, updated, h₃⟩ := work_bind h₂
    obtain ⟨-, after, readUpdated⟩ := work_store updated
    cases taken with
    | false => exact (work_throw h₃).elim
    | true =>
      obtain ⟨rfl, rfl, rfl⟩ := work_pure h₃
      obtain rfl : s' = s₂.plus [.recipient (row.complete comment now)] := after
      refine .stored (.complete comment) _ (ShownIn.append.2 (.inr (ShownIn.append.2 (.inl shown))))
        requested found (eq_false_of_ne_true uncompleted) fun key hk => ?_
      rw [List.append_nil] at hk
      exact readIn_update readLoaded silent readUpdated (key_markRead row now) hk

end Follows

/-! ## Jobs that write -/

/-- What the work of a job has stored, and that it has read nothing but these rows and requests
that it found, unless it has stored nothing. -/
def Covered (base : Tables) (turns : List Turn) (rows : List Row) : Prop :=
  rows = [] ∨ ∀ key, ReadIn turns key → key ∈ rows.map Row.key ∨
    ∃ id r, key = .request id ∧ base.row (.request id) = some r

theorem Updated.covered {base : Tables} (keyed : base.Keyed) {requestId : RevisionRequestId}
    {recipientId : EmployeeId} {update : RowUpdate} {v : WithEvents RecipientRow} {s s' : Session}
    {turns : List Turn} (h : Updated (.start base) requestId recipientId s update v s' turns) :
    ∃ rows, s' = s.plus rows ∧ Covered base turns rows := by
  cases h with
  | same => exact ⟨[], (Session.plus_nil s).symm, .inl rfl⟩
  | @stored update turns now shown request requested row found new read =>
    refine ⟨[.recipient (update.apply row now)], rfl, .inr fun k hk => ?_⟩
    have own := keyed.key_recipient found
    rw [List.map_singleton, List.mem_singleton, update.key_apply]
    rcases read k hk with rfl | rfl | rfl
    · refine .inr ⟨requestId, .request request, rfl, ?_⟩
      rw [Tables.row, show base.requests.get? requestId = some request from requested]
      rfl
    · exact .inl own.symm
    · exact .inl rfl

theorem key_changedRecord {base : Tables} (keyed : base.Keyed) (change : StepStatusChange)
    (now : Instant) :
    (Row.approval (changedRecord base change now)).key = .approval change.mappingId := by
  have found : (foundRecord base change now).mappingId = change.mappingId := by
    rw [foundRecord]
    cases h : base.approvals.get? change.mappingId with
    | none => rfl
    | some record => exact keyed.approval h
  rw [Row.key, changedRecord, ApprovalRecord.change, ← found]
  simp only [ApprovalRecord.mappingId_withState]

/-- The work of a job that may write. -/
theorem Follows.job {origin : Store} {base : Tables} (keyed : base.Keyed) {service : Service}
    {c : Call} {plan : c.Plan} (writes : (c.job service plan).options.readOnly = false)
    {b : c.Result} {s : Session} {turns : List Turn}
    (h : Follows origin (c.job service plan).work.run (.opened base) turns (pure (.ok b)) s) :
    ∃ rows, s = (Session.opened base).plus rows ∧ Covered base turns rows := by
  have opened : (Session.opened base).working = some (.start base) := rfl
  cases c with
  | setStepStatus change =>
    obtain ⟨now, changed⟩ := Follows.applyChange opened h
    cases changed with
    | same => exact ⟨[], (Session.plus_nil _).symm, .inl rfl⟩
    | moved turns shown status new read =>
      refine ⟨_, rfl, .inr fun key hk => .inl ?_⟩
      rw [List.map_cons, List.mem_cons]
      rcases read key hk with rfl | hk
      · exact .inl (key_changedRecord keyed change now).symm
      · exact .inr hk
  | createRequest new =>
    obtain ⟨-, rfl, -, read⟩ := Follows.createRecorded opened h
    exact ⟨_, rfl, .inr fun key hk => .inl (read key hk)⟩
  | markRead requestId recipientId => exact (Follows.markReadIn opened h).covered keyed
  | submitCompletion requestId recipientId comment =>
    exact (Follows.completeIn opened h).covered keyed
  | _ => cases writes

end Appraisal.Memory
