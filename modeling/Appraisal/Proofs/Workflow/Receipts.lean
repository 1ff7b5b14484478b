import Appraisal.Proofs.Workflow.Deed

/-!
# Receipts

The row of a recipient accounts for the events that tell of it: one if it is read and one more if it
is completed, with what the row says of either (`Tables.story`).  `Receipts` is the statement that
some events are what the rows of some tables account for beyond those of others, and
`Deed.receipts` proves it of the events of a deed.

Only a completion tells of a completion (`Worked.completion`), and it does so whenever it succeeds
(`Worked.completed`).
-/

namespace Appraisal

/-- What a row says of being read and completed agrees. -/
structure RecipientRow.Marked (row : RecipientRow) : Prop where
  read : row.isRead = row.readAt.isSome
  completed : row.isCompleted = row.completedAt.isSome
  answered : row.responseComment.isSome = row.completedAt.isSome
  implies : row.isCompleted = true → row.isRead = true

namespace RecipientRow.Marked

variable {row : RecipientRow}

theorem readAt_eq_none (h : row.Marked) (unread : row.isRead = false) : row.readAt = none := by
  rw [← Option.not_isSome_iff_eq_none, ← h.read, unread]
  exact Bool.false_ne_true

theorem eq_none_of_uncompleted (h : row.Marked) (uncompleted : row.isCompleted = false) :
    row.completedAt = none ∧ row.responseComment = none := by
  have unset : row.completedAt.isSome = false := h.completed ▸ uncompleted
  have unanswered : row.responseComment.isSome = false := h.answered.trans unset
  exact ⟨by simpa using unset, by simpa using unanswered⟩

theorem uncompleted_of_unread (h : row.Marked) (unread : row.isRead = false) :
    row.isCompleted = false := by
  by_contra completed
  have read := h.implies (by simpa using completed)
  rw [unread] at read
  cases read

end RecipientRow.Marked

namespace Memory

open Workflow

/-! ## Rows and their events -/

/-- The event that a row was read. -/
def readingOf (requestId : RevisionRequestId) (recipientId : EmployeeId) (row : RecipientRow) :
    List WorkflowEvent :=
  match row.readAt with
  | some at_ => [.revisionRead ⟨requestId, recipientId, at_⟩]
  | none => []

/-- The event that a row was completed. -/
def completionOf (requestId : RevisionRequestId) (recipientId : EmployeeId) (row : RecipientRow) :
    List WorkflowEvent :=
  match row.responseComment, row.completedAt with
  | some comment, some at_ => [.revisionCompleted ⟨requestId, recipientId, comment, at_⟩]
  | _, _ => []

/-- The events that the row of a recipient accounts for. -/
def storyOf (requestId : RevisionRequestId) (recipientId : EmployeeId) :
    Option RecipientRow → List WorkflowEvent
  | some row => readingOf requestId recipientId row ++ completionOf requestId recipientId row
  | none => []

def Tables.story (t : Tables) (requestId : RevisionRequestId) (recipientId : EmployeeId) :
    List WorkflowEvent :=
  storyOf requestId recipientId (t.recipients.get? (requestId, recipientId))

/-- Every row agrees with itself. -/
def Tables.Marked (t : Tables) : Prop :=
  ∀ requestId recipientId row, t.recipients.get? (requestId, recipientId) = some row → row.Marked

theorem marked_fresh (requestId : RevisionRequestId) (recipientId : EmployeeId) (role : Role) :
    (RecipientRow.fresh requestId recipientId role).Marked :=
  ⟨rfl, rfl, rfl, nofun⟩

theorem RowUpdate.marked_apply {row : RecipientRow} (h : row.Marked) (update : RowUpdate)
    (now : Instant) : (update.apply row now).Marked := by
  have read : (row.markRead now).Marked := by
    rw [RecipientRow.markRead]
    split
    · exact h
    · exact ⟨rfl, h.completed, h.answered, fun _ => rfl⟩
  cases update with
  | read => exact read
  | complete comment => exact ⟨read.read, rfl, rfl, fun _ => row.markRead_isRead now⟩

/-- A row that is read or completed for the first time accounts for the events of that. -/
theorem RowUpdate.story_apply {row : RecipientRow} (h : row.Marked) {update : RowUpdate}
    (new : update.isDone row = false) (requestId : RevisionRequestId) (recipientId : EmployeeId)
    (now : Instant) : storyOf requestId recipientId (some (update.apply row now)) =
      storyOf requestId recipientId (some row) ++ update.events requestId recipientId row now := by
  have read : row.isRead = false → readingOf requestId recipientId (row.markRead now) =
      [.revisionRead ⟨requestId, recipientId, now⟩] ∧ readingOf requestId recipientId row = [] := by
    intro unread
    simp [readingOf, RecipientRow.markRead, unread, h.readAt_eq_none unread]
  cases update with
  | read =>
    have unread : row.isRead = false := new
    obtain ⟨unset, unanswered⟩ := h.eq_none_of_uncompleted (h.uncompleted_of_unread unread)
    obtain ⟨after, before⟩ := read unread
    have uncompleted : completionOf requestId recipientId (row.markRead now) = [] := by
      simp [completionOf, RecipientRow.markRead, unread, unset, unanswered]
    show readingOf _ _ (row.markRead now) ++ completionOf _ _ (row.markRead now) = _
    rw [after, uncompleted]
    simp [storyOf, before, completionOf, unset, unanswered, RowUpdate.events]
  | complete comment =>
    obtain ⟨unset, unanswered⟩ := h.eq_none_of_uncompleted new
    have before : completionOf requestId recipientId row = [] := by
      simp [completionOf, unset, unanswered]
    show readingOf _ _ (row.markRead now) ++
      [.revisionCompleted ⟨requestId, recipientId, comment, now⟩] = _
    rw [storyOf, before, List.append_nil, RowUpdate.events, completionEvents, ← List.append_assoc]
    cases wasRead : row.isRead with
    | true => simp [RecipientRow.markRead, wasRead]
    | false =>
      obtain ⟨after, unread⟩ := read wasRead
      rw [after, unread]
      rfl

theorem RowMoves.story {base : Tables} {shown : Instant → Prop} {requestId : RevisionRequestId}
    {recipientId : EmployeeId} {old new : Option RecipientRow} {told : List WorkflowEvent}
    (h : RowMoves base shown requestId recipientId old new told)
    (marked : ∀ row, old = some row → row.Marked) :
    (∀ row, new = some row → row.Marked) ∧
      storyOf requestId recipientId new = storyOf requestId recipientId old ++ told := by
  cases h with
  | stays => exact ⟨marked, (List.append_nil _).symm⟩
  | added role absent =>
    refine ⟨fun row same => ?_, rfl⟩
    cases same
    exact marked_fresh _ _ _
  | updated update at_ new =>
    refine ⟨fun row same => ?_, update.story_apply (marked _ rfl) new _ _ _⟩
    cases same
    exact update.marked_apply (marked _ rfl) _

/-! ## Completed rows -/

/-- How many rows are completed. -/
def Tables.completed (t : Tables) : Nat := t.recipients.values.countP (·.isCompleted)

def isCompletion : WorkflowEvent → Bool
  | .revisionCompleted _ => true
  | _ => false

theorem Tables.completed_put_recipient (t : Tables) (row : RecipientRow) :
    (t.put (.recipient row)).completed +
        (if (t.recipients.get? (row.requestId, row.recipientId)).any (·.isCompleted) then 1 else 0) =
      t.completed + if row.isCompleted then 1 else 0 :=
  Table.countP_values_insert (fun row : RecipientRow => row.isCompleted) t.recipients
    (row.requestId, row.recipientId) row

/-- A new request adds no completed row. -/
theorem Tables.completed_putAll_createdRows {t : Tables} {request : RevisionRequest}
    (none_ : ∀ e, t.recipients.get? (request.id, e) = none) (recipients : List Recipient) :
    (t.putAll (createdRows request recipients)).completed = t.completed := by
  have all : ∀ (rs : List Recipient) (u : Tables),
      (∀ e, (u.recipients.get? (request.id, e)).any (·.isCompleted) = false) →
      (u.putAll ((freshRows request.id rs).map .recipient)).completed = u.completed := by
    intro rs
    induction rs with
    | nil => exact fun u _ => rfl
    | cons r rs ih =>
      intro u uncompleted
      let row := RecipientRow.fresh request.id r.id r.role
      have later := ih (u.put (.recipient row)) fun e => by
        show ((u.recipients.insert (request.id, r.id) row).get? (request.id, e)).any _ = false
        rw [Table.get?_insert]
        split
        · rfl
        · exact uncompleted e
      have one := u.completed_put_recipient row
      have old : (u.recipients.get? (row.requestId, row.recipientId)).any (·.isCompleted) = false :=
        uncompleted r.id
      rw [old] at one
      exact later.trans one
  exact all _ (t.put (.request request)) fun e => by
    show (t.recipients.get? (request.id, e)).any _ = false
    rw [none_ e]
    rfl

theorem isCompletion_update (update : RowUpdate) (row : RecipientRow)
    (requestId : RevisionRequestId) (recipientId : EmployeeId) (now : Instant)
    (marked : row.Marked) (new : update.isDone row = false) :
    row.isCompleted = false ∧
      (update.events requestId recipientId row now).countP isCompletion =
        if (update.apply row now).isCompleted then 1 else 0 := by
  cases update with
  | read =>
    have uncompleted := marked.uncompleted_of_unread new
    have kept : (row.markRead now).isCompleted = false := by
      rw [RecipientRow.markRead]
      split <;> exact uncompleted
    refine ⟨uncompleted, ?_⟩
    rw [RowUpdate.apply, kept]
    rfl
  | complete comment =>
    refine ⟨new, ?_⟩
    rw [RowUpdate.events, completionEvents]
    cases row.isRead <;> rfl

/-! ## Receipts -/

/-- Some events are what the rows of recipients account for beyond those of before. -/
structure Receipts (base left : Tables) (events : List WorkflowEvent) : Prop where
  /-- Each row accounts for those that tell of it. -/
  story : ∀ requestId recipientId, left.story requestId recipientId =
    base.story requestId recipientId ++ eventsOf requestId recipientId events
  /-- There are as many completions as there are more completed rows. -/
  completed : left.completed = base.completed + events.countP isCompletion

namespace Receipts

variable {base middle left : Tables} {events later : List WorkflowEvent}

theorem refl (base : Tables) : Receipts base base [] :=
  ⟨fun _ _ => (List.append_nil _).symm, rfl⟩

theorem trans (first : Receipts base middle events) (second : Receipts middle left later) :
    Receipts base left (events ++ later) where
  story requestId recipientId := by
    rw [second.story, first.story, eventsOf_append, List.append_assoc]
  completed := by
    rw [second.completed, first.completed, List.countP_append, Nat.add_assoc]

theorem congr {left' : Tables} (h : Receipts base left events)
    (same : left'.recipients = left.recipients) : Receipts base left' events := by
  refine ⟨fun requestId recipientId => ?_, ?_⟩
  · rw [Tables.story, same]
    exact h.story requestId recipientId
  · rw [Tables.completed, same]
    exact h.completed

end Receipts

section

variable {base : Tables} {shown : Instant → Prop} {prepared : PreparedRevision → Prop}
  {rows : List Row} {events : List WorkflowEvent}

theorem Deed.completed (h : Deed base shown prepared rows events) (keyed : base.Keyed)
    (attached : base.Attached) (marked : base.Marked) :
    (base.putAll rows).completed = base.completed + events.countP isCompletion := by
  have asked : ∀ {p : PreparedRevision} (t : Tables), t.recipients = base.recipients →
      base.row (.request p.request.id) = none →
      (t.putAll (createdRows p.request p.recipients)).completed = base.completed := by
    intro p t same absent
    refine (Tables.completed_putAll_createdRows (fun e => ?_) _).trans ?_
    · rw [same]
      exact attached.recipient_eq_none absent e
    · rw [Tables.completed, same]
      rfl
  cases h with
  | nothing => rfl
  | created ready absent => exact asked base rfl absent
  | @changed change revision now at_ ready status absent asks =>
    cases revision with
    | none => rfl
    | some p => exact asked (base.put (.approval (changedRecord base change now))) rfl (absent p rfl)
  | @updated update now at_ requestId recipientId request row requested found new =>
    obtain ⟨uncompleted, one⟩ := isCompletion_update update row requestId recipientId now
      (marked _ _ _ found) new
    have own : (Row.recipient (update.apply row now)).key = .recipient requestId recipientId :=
      (update.key_apply row now).trans (keyed.key_recipient found)
    have key : ((update.apply row now).requestId, (update.apply row now).recipientId) =
        (requestId, recipientId) := by
      cases own
      rfl
    have count := base.completed_put_recipient (update.apply row now)
    rw [key, found, Option.any_some, uncompleted] at count
    rw [one]
    exact count

/-- A deed's events are what the rows account for, and the rows agree with themselves. -/
theorem Deed.receipts (h : Deed base shown prepared rows events) (keyed : base.Keyed)
    (attached : base.Attached) (marked : base.Marked) :
    (base.putAll rows).Marked ∧ Receipts base (base.putAll rows) events := by
  have own := fun requestId recipientId => (h.recipient keyed attached requestId recipientId).story
    fun row found => marked requestId recipientId row found
  exact ⟨fun requestId recipientId => (own requestId recipientId).1,
    fun requestId recipientId => (own requestId recipientId).2,
    h.completed keyed attached marked⟩

end

/-! ## Every call -/

/-- The plan of a change has the revision that is asked for. -/
theorem Follows.suits {origin : Store} {c : Call} {plan : c.Plan} {prepared : List Turn}
    {ready : Session} (mappings : ∀ id m, origin.findMapping id = some m → m.id = id)
    (prepares : Follows origin c.prepare.run default prepared (pure (.ok plan)) ready) :
    Suits c plan := by
  cases c with
  | setStepStatus change => exact fun asks => Follows.prepareChange mappings asks prepares
  | _ => trivial

/-- A call that stands on some tables leaves others with the rows of a deed. -/
theorem Worked.deed {origin : Store} {s : Service} {c : Call} {plan : c.Plan} (suits : Suits c plan)
    {base left : Tables} {outcome : Except WorkflowError c.Result}
    (worked : Worked origin (c.job s plan) base outcome left) :
    ∃ rows, Deed base (fun _ => True) (fun p => revisionOf c plan = some p) rows
        (raised c outcome) ∧ ∀ k, left.row k = (base.putAll rows).row k := by
  cases worked with
  | failed => cases c <;> exact ⟨[], .nothing, fun _ => rfl⟩
  | read readOnly =>
    cases c with
    | listForRecipient | countUnread | getRequest | getRecord =>
      exact ⟨[], .nothing, fun _ => rfl⟩
    | _ => cases readOnly
  | wrote writes follows =>
    obtain ⟨rows, rfl, deed⟩ := follows.deed suits writes
    exact ⟨rows, deed.mono (fun _ _ => trivial) fun _ => id, row_leaves_plus base rows⟩

/-! ## What a call returns -/

/-- What a call returns when its work has returned something. -/
def returned : (c : Call) → c.Result → c.Value
  | .setStepStatus _, r => r.value.record
  | .createRequest _, r => r.value
  | .markRead .., r | .submitCompletion .., r => r.value
  | .listForRecipient .., v | .countUnread _, v | .getRequest _, v | .getRecord _, v => v

theorem within_conclude (s : Service) (c : Call) (plan : c.Plan)
    (outcome : Except WorkflowError c.Result) :
    ((c.job s plan).conclude outcome).Within (fun _ => True)
      fun r => r = outcome.map (returned c) := by
  refine ⟨trivial, fun _ => ?_⟩
  cases outcome with
  | error e => rfl
  | ok b =>
    have finish : ((c.job s plan).finish b).Within (fun _ => True) fun v => v = returned c b := by
      cases c with
      | setStepStatus change =>
        refine (Program.Within.any _).bind fun _ _ => ?_
        split
        · exact ⟨trivial, fun _ => ⟨trivial, fun _ => rfl⟩⟩
        · rfl
      | createRequest new =>
        exact (Program.Within.any _).bind fun _ _ => ⟨trivial, fun _ => rfl⟩
      | markRead requestId recipientId => exact (Program.Within.any _).bind fun _ _ => rfl
      | submitCompletion requestId recipientId comment =>
        exact (Program.Within.any _).bind fun _ _ => ⟨trivial, fun _ => rfl⟩
      | _ => rfl
    exact finish.bind fun v hv => congrArg Except.ok hv

theorem returns_of_path {s : Service} {c : Call} {plan : c.Plan}
    {outcome : Except WorkflowError c.Result} {cleanUp : Action WorkflowEvent Unit}
    {made : List (Request WorkflowEvent)} {r : Except WorkflowError c.Value}
    (path : (cleanUp >>= fun _ => (c.job s plan).conclude outcome).Path made (pure r)) :
    r = outcome.map (returned c) :=
  ((Program.Within.any cleanUp).bind fun _ _ => within_conclude s c plan outcome).of_path path

/-- The row that a completion returns. -/
def completedRow? : (c : Call) → c.Value → Option RecipientRow
  | .submitCompletion .., row => some row
  | .setStepStatus _, _ | .createRequest _, _ | .markRead .., _ | .listForRecipient .., _
  | .countUnread _, _ | .getRequest _, _ | .getRecord _, _ => none

/-- Only a completion tells of a completion: of the one that it was asked for, and with what it
returns. -/
theorem Worked.completion {origin : Store} {s : Service} {c : Call} {plan : c.Plan}
    {base left : Tables} {outcome : Except WorkflowError c.Result}
    (worked : Worked origin (c.job s plan) base outcome left) {d : RevisionCompleted}
    (mem : .revisionCompleted d ∈ raised c outcome) :
    c = .submitCompletion d.requestId d.recipientId d.responseComment ∧
      ∃ b row, outcome = .ok b ∧ completedRow? c (returned c b) = some row ∧
        row.responseComment = some d.responseComment ∧ row.completedAt = some d.completedAt := by
  have opened : (Session.opened base).working = some (.start base) := rfl
  cases worked with
  | failed => cases c <;> cases mem
  | read readOnly =>
    cases c with
    | listForRecipient | countUnread | getRequest | getRecord => cases mem
    | _ => cases readOnly
  | @wrote turns u b writes follows =>
    cases c with
    | setStepStatus change =>
      obtain ⟨now, changed⟩ := Follows.applyChange opened follows
      cases changed with
      | same => cases mem
      | moved =>
        rcases List.mem_cons.1 mem with same | later
        · cases same
        · cases plan with
          | none => cases later
          | some p => cases List.mem_singleton.1 later
    | createRequest new =>
      obtain ⟨rfl, -, -, -⟩ := Follows.createRecorded opened follows
      cases List.mem_singleton.1 mem
    | markRead requestId recipientId =>
      have updated := Follows.markReadIn opened follows
      cases updated with
      | same => cases mem
      | stored => cases List.mem_singleton.1 mem
    | submitCompletion requestId recipientId comment =>
      have updated := Follows.completeIn opened follows
      cases updated with
      | @stored update turns now shown request requested row found new read =>
        have told : d = ⟨requestId, recipientId, comment, now⟩ := by
          have one : .revisionCompleted d ∈
              completionEvents requestId recipientId row.isRead comment now := mem
          rw [completionEvents] at one
          cases row.isRead <;> simpa using one
        subst told
        exact ⟨rfl, _, _, rfl, rfl, rfl, rfl⟩
    | _ => cases writes

theorem Worked.completed {origin : Store} {s : Service} {requestId : RevisionRequestId}
    {recipientId : EmployeeId} {comment : String} {base left : Tables}
    {b : (Call.submitCompletion requestId recipientId comment).Result}
    (worked : Worked origin ((Call.submitCompletion requestId recipientId comment).job s ())
      base (.ok b) left) :
    ∃ at_, .revisionCompleted ⟨requestId, recipientId, comment, at_⟩ ∈
      raised (.submitCompletion requestId recipientId comment) (.ok b) := by
  have opened : (Session.opened base).working = some (.start base) := rfl
  cases worked with
  | read readOnly => cases readOnly
  | wrote writes follows =>
    have updated := Follows.completeIn opened follows
    cases updated with
    | @stored update turns now shown request requested row found new read =>
      refine ⟨now, ?_⟩
      show _ ∈ completionEvents requestId recipientId row.isRead comment now
      rw [completionEvents]
      cases row.isRead <;> simp

theorem Worked.counted {origin : Store} {s : Service} {c : Call} {plan : c.Plan}
    {base left : Tables} {outcome : Except WorkflowError c.Result}
    (worked : Worked origin (c.job s plan) base outcome left) :
    (concluded completes s c outcome).length = (raised c outcome).countP isCompletion := by
  have uncounted : (∀ requestId recipientId comment,
      c ≠ .submitCompletion requestId recipientId comment) →
      (raised c outcome).countP isCompletion = 0 := by
    refine fun other => List.countP_eq_zero.2 fun event mem => ?_
    cases event with
    | revisionCompleted d => exact absurd (worked.completion mem).1 (other _ _ _)
    | _ => exact Bool.false_ne_true
  cases outcome with
  | error e => cases c <;> rfl
  | ok b =>
    cases c with
    | setStepStatus change =>
      rw [uncounted (by rintro _ _ _ ⟨⟩)]
      show (handed completes s b.pending ++ if b.value.changed then [] else []).length = 0
      rw [handed_completes, ite_self]
      rfl
    | submitCompletion requestId recipientId comment =>
      show (handed completes s b.pending ++ [()]).length = _
      rw [handed_completes]
      cases worked with
      | read readOnly => cases readOnly
      | wrote writes follows =>
        have opened : (Session.opened base).working = some (.start base) := rfl
        have updated := Follows.completeIn opened follows
        cases updated with
        | @stored update turns now shown request requested row found new read =>
          show _ = (completionEvents requestId recipientId row.isRead comment now).countP _
          rw [completionEvents]
          cases row.isRead <;> rfl
    | createRequest new =>
      rw [uncounted (by rintro _ _ _ ⟨⟩)]
      show (handed completes s b.pending ++ []).length = 0
      rw [handed_completes]
      rfl
    | markRead requestId recipientId =>
      rw [uncounted (by rintro _ _ _ ⟨⟩)]
      exact congrArg List.length (handed_completes s b.pending)
    | _ => rfl

end Memory

end Appraisal
