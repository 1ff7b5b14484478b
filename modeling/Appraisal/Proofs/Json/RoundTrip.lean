import Appraisal.Json.Exchanged
import Appraisal.Proofs.Json.Members
import Appraisal.Proofs.Json.Parsing
import Appraisal.Proofs.Time.Rfc3339

/-!
# JSON forms read back

Everything that is stored, exchanged or told to handlers reads back from its JSON form, and from
the text of that form (`forms_round_trip`).  The times in it must be proper: a leap second must end
a minute, and the year must be in range.

*Simple forms.*  Identifiers, literals and times are written as strings and read back by laws of
their own.  `ReadsBack` says that a value reads back and that its form is plain, so that the text of
the form reads back too.

*Structures.*  A form of distinct members gives each field its own (`slots_ofMembers`), so what is
left to show for each structure is that its fields read back.

*What may be left out.*  Only the members of the fields themselves count (`memberSlot_insert`), so
a missing member is compared with one that is there at the place of one field only.
-/

namespace Appraisal

/-! ## Identifiers -/

namespace Uuid

theorem length_writeDigits (count n : Nat) (rest : List Char) :
    (writeDigits count n rest).length = count + rest.length := by
  induction count generalizing n rest with
  | zero => simp [writeDigits]
  | succ count ih => rw [writeDigits, ih, List.length_cons]; omega

theorem length_writeGroups_groups (n : Nat) : (writeGroups groups n).length = 36 := by
  simp only [groups, writeGroups, length_writeDigits, List.length_cons, List.length_nil]

theorem writeDigits_eq_cons (count n : Nat) (rest : List Char) :
    ∃ d < 16, ∃ more, writeDigits (count + 1) n rest = digit d :: more := by
  induction count generalizing n rest with
  | zero => exact ⟨n % 16, Nat.mod_lt _ (by decide), rest, rfl⟩
  | succ count ih => exact ih (n / 16) (digit (n % 16) :: rest)

/-- No digit starts the name of the scheme or opens a brace. -/
theorem digit_ne : ∀ d < 16, (digit d).toLower ≠ 'u' ∧ digit d ≠ '{' := by decide

/-- The hyphenated form is told from the other spellings. -/
theorem readText_writeGroups (u : Uuid) :
    readText (writeGroups groups u.bits.toNat) = some u.bits.toNat := by
  obtain ⟨d, small, more, digits⟩ : ∃ d < 16, ∃ more,
      writeGroups groups u.bits.toNat = digit d :: more := writeDigits_eq_cons 7 _ _
  have scheme : afterScheme? (digit d :: more) = none := by
    refine if_neg fun same => ?_
    exact (digit_ne d small).1 (List.cons.inj same).1
  have read := readGroups_writeGroups_groups u
  have long : (writeGroups groups u.bits.toNat).length ≠ 32 := by
    rw [length_writeGroups_groups]
    decide
  rw [digits] at read long ⊢
  rw [readText.eq_def, if_neg long, scheme]
  split
  · rename_i none
    cases none
  · split
    · rename_i same
      exact absurd (List.cons.inj same).1 (digit_ne d small).2
    · exact read

theorem ofText?_text (u : Uuid) : ofText? u.text = some u := by
  rw [ofText?, text, String.toList_ofList, readText_writeGroups, Option.map_some,
    BitVec.ofNat_toNat]
  rfl

end Uuid

theorem Id.ofText?_text {entity : Entity} (id : Id entity) : Id.ofText? id.text = some id := by
  rw [Id.ofText?, Id.text, Uuid.ofText?_text]
  rfl

namespace Json

/-! ## Values that read back -/

/-- The value reads back from its form, and its form reads back from its text. -/
structure ReadsBack {α : Type} [Form α] (a : α) : Prop where
  read : Form.ofJson? (toJson a) = some a
  plain : Plain (toJson a)

theorem readsBack_bool (b : Bool) : ReadsBack b := ⟨rfl, .bool b⟩

theorem readsBack_string (s : String) : ReadsBack s := ⟨rfl, .string s⟩

theorem readsBack_id {entity : Entity} (id : Id entity) : ReadsBack id :=
  ⟨id.ofText?_text, .string _⟩

theorem readsBack_instant {t : Instant} (proper : t.Proper) : ReadsBack t :=
  ⟨Rfc3339.ofText?_text proper, .string _⟩

theorem readsBack_literal {α : Type} [Literal α] (a : α) : ReadsBack a :=
  ⟨readLiteral_text a, .string _⟩

theorem readsBack_list {α : Type} [Form α] {as : List α} (all : ∀ a ∈ as, ReadsBack a) :
    ReadsBack as := by
  refine ⟨?_, .array ?_⟩
  · show readAll (as.map toJson) = some as
    induction as with
    | nil => rfl
    | cons a as ih =>
      rw [List.forall_mem_cons] at all
      simp only [List.map_cons, readAll, all.1.read, ih all.2]
  · intro item mem
    obtain ⟨a, ha, rfl⟩ := List.mem_map.1 mem
    exact (all a ha).plain

/-! ## Fields -/

section

variable {α : Type} [Form α]

theorem required?_given {a : α} (back : ReadsBack a) :
    (Slot.given (toJson a)).required? = some a := back.read

theorem withDefault?_given {a : α} (back : ReadsBack a) (default : α) :
    (Slot.given (toJson a)).withDefault? default = some a := back.read

end

/-- A field that may be absent reads back, and its form reads back from its text. -/
structure OptionReadsBack {α : Type} [Form α] (o : Option α) : Prop where
  read : (Slot.given (ofOption o)).optional? = some o
  plain : Plain (ofOption o)

/-- A value whose form is a string is told from one that is absent. -/
theorem optionReadsBack {α : Type} [Form α] {o : Option α} (back : ∀ a ∈ o, ReadsBack a)
    (written : ∀ a : α, ∃ s, toJson a = .ofString s) : OptionReadsBack o := by
  cases o with
  | none => exact ⟨rfl, .null⟩
  | some a =>
    obtain ⟨s, form⟩ := written a
    refine ⟨?_, (back a rfl).plain⟩
    have read := (back a rfl).read
    rw [form] at read
    rw [ofOption, form]
    exact congrArg (Option.map some) read

theorem optionReadsBack_id {entity : Entity} (o : Option (Id entity)) : OptionReadsBack o :=
  optionReadsBack (fun id _ => readsBack_id id) fun _ => ⟨_, rfl⟩

theorem optionReadsBack_string (o : Option String) : OptionReadsBack o :=
  optionReadsBack (fun s _ => readsBack_string s) fun _ => ⟨_, rfl⟩

theorem optionReadsBack_instant {o : Option Instant} (proper : ∀ t ∈ o.toList, t.Proper) :
    OptionReadsBack o :=
  optionReadsBack (fun t ht => readsBack_instant (proper t (Option.mem_toList.2 ht)))
    fun _ => ⟨_, rfl⟩

theorem plain_ofMembers {members : List (String × Json)} (all : ∀ m ∈ members, Plain m.2) :
    Plain (.ofMembers members) := by
  refine .object (fun m hm => ?_) fun m hm => ?_
  · obtain ⟨m', hm', rfl⟩ := List.mem_map.1 hm
    rfl
  · obtain ⟨m', hm', rfl⟩ := List.mem_map.1 hm
    exact all m' hm'

/-! ## Structures -/

/-- A structure reads back if it makes itself of what its form gives its fields. -/
theorem readsBack_of_slots {α : Type} [Form α] {a : α} {names : List String}
    {members : List (String × Json)} {make : List Slot → Option α}
    (form : toJson a = .ofMembers members)
    (reads : ∀ j, (Form.ofJson? j : Option α) = (slots names j).bind make)
    (same : members.map Prod.fst = names) (distinct : names.Nodup)
    (plain : ∀ m ∈ members, Plain m.2)
    (made : make (members.map fun m => .given m.2) = some a) : ReadsBack a := by
  refine ⟨?_, ?_⟩
  · rw [form, reads, slots_ofMembers same distinct]
    exact made
  · rw [form]
    exact plain_ofMembers plain

/-- A type whose values hold times. -/
class Timed (α : Type) where
  /-- The times in a value. -/
  times : α → List Instant

/-- All times in the value are proper. -/
def ProperTimes {α : Type} [Timed α] (a : α) : Prop := ∀ t ∈ Timed.times a, t.Proper

instance : Timed StepState := ⟨fun s => s.updatedAt.toList⟩

instance : Timed ApprovalRecord := ⟨fun r =>
  Timed.times r.criteria ++ Timed.times r.selfEvaluation ++ Timed.times r.primary ++
    Timed.times r.secondary ++ [r.createdAt, r.updatedAt]⟩

instance : Timed RevisionRequest := ⟨fun r => [r.requestedAt]⟩

instance : Timed RecipientRow := ⟨fun r => r.readAt.toList ++ r.completedAt.toList⟩

instance : Timed RequestView := ⟨fun v => Timed.times v.request ++ Timed.times v.recipient⟩

instance : Timed RequestDetail :=
  ⟨fun d => Timed.times d.request ++ d.recipients.flatMap Timed.times⟩

instance : Timed EvaluationMapping := ⟨fun _ => []⟩

instance : Timed NewRevisionRequest := ⟨fun _ => []⟩

instance : Timed StepStatusChange := ⟨fun _ => []⟩

instance : Timed WorkflowEvent := ⟨fun
  | .stepStatusChanged d => [d.changedAt]
  | .revisionRequested d => [d.requestedAt]
  | .revisionRead d => [d.at_]
  | .revisionCompleted d => [d.completedAt]⟩

theorem readsBack_ids {entity : Entity} (ids : List (Id entity)) : ReadsBack ids :=
  readsBack_list fun id _ => readsBack_id id

theorem readsBack_stepState {s : StepState} (proper : ProperTimes s) : ReadsBack s := by
  have status := readsBack_literal s.status
  have updatedAt := optionReadsBack_instant proper
  have updatedBy := optionReadsBack_id s.updatedBy
  refine readsBack_of_slots rfl (fun _ => rfl) rfl (by decide) ?_ ?_
  · simp [ReadsBack.plain, OptionReadsBack.plain, *]
  · simp [required?_given, OptionReadsBack.read, *]

theorem readsBack_approvalRecord {r : ApprovalRecord} (proper : ProperTimes r) : ReadsBack r := by
  simp only [ProperTimes, Timed.times, List.forall_mem_append, List.forall_mem_cons] at proper
  obtain ⟨⟨⟨⟨first, second⟩, third⟩, fourth⟩, created, updated, -⟩ := proper
  have mappingId := readsBack_id r.mappingId
  have criteria := readsBack_stepState first
  have selfEvaluation := readsBack_stepState second
  have primary := readsBack_stepState third
  have secondary := readsBack_stepState fourth
  have createdAt := readsBack_instant created
  have updatedAt := readsBack_instant updated
  refine readsBack_of_slots rfl (fun _ => rfl) rfl (by decide) ?_ ?_
  · simp [ReadsBack.plain, *]
  · simp [required?_given, *]

theorem readsBack_revisionRequest {r : RevisionRequest} (proper : ProperTimes r) :
    ReadsBack r := by
  have id := readsBack_id r.id
  have mappingId := readsBack_id r.mappingId
  have periodId := readsBack_id r.periodId
  have employeeId := readsBack_id r.employeeId
  have step := readsBack_literal r.step
  have comment := readsBack_string r.comment
  have requestedBy := readsBack_id r.requestedBy
  have requestedAt := readsBack_instant (proper r.requestedAt List.mem_cons_self)
  refine readsBack_of_slots rfl (fun _ => rfl) rfl (by decide) ?_ ?_
  · simp [ReadsBack.plain, *]
  · simp [required?_given, *]

theorem readsBack_recipientRow {r : RecipientRow} (proper : ProperTimes r) : ReadsBack r := by
  obtain ⟨read, completed⟩ := List.forall_mem_append.1 proper
  have requestId := readsBack_id r.requestId
  have recipientId := readsBack_id r.recipientId
  have role := readsBack_literal r.role
  have isRead := readsBack_bool r.isRead
  have readAt := optionReadsBack_instant read
  have isCompleted := readsBack_bool r.isCompleted
  have completedAt := optionReadsBack_instant completed
  have comment := optionReadsBack_string r.responseComment
  refine readsBack_of_slots rfl (fun _ => rfl) rfl (by decide) ?_ ?_
  · simp [ReadsBack.plain, OptionReadsBack.plain, *]
  · simp [required?_given, OptionReadsBack.read, *]

theorem readsBack_recipient (r : Recipient) : ReadsBack r := by
  have id := readsBack_id r.id
  have role := readsBack_literal r.role
  refine readsBack_of_slots rfl (fun _ => rfl) rfl (by decide) ?_ ?_
  · simp [ReadsBack.plain, *]
  · simp [required?_given, *]

theorem readsBack_requestView {v : RequestView} (proper : ProperTimes v) : ReadsBack v := by
  obtain ⟨asked, addressed⟩ := List.forall_mem_append.1 proper
  have request := readsBack_revisionRequest asked
  have recipient := readsBack_recipientRow addressed
  refine readsBack_of_slots rfl (fun _ => rfl) rfl (by decide) ?_ ?_
  · simp [ReadsBack.plain, *]
  · simp [required?_given, *]

theorem readsBack_requestDetail {d : RequestDetail} (proper : ProperTimes d) : ReadsBack d := by
  obtain ⟨asked, addressed⟩ := List.forall_mem_append.1 proper
  have request := readsBack_revisionRequest asked
  have recipients : ReadsBack d.recipients := readsBack_list fun row hrow =>
    readsBack_recipientRow fun t ht => addressed t (List.mem_flatMap.2 ⟨row, hrow, ht⟩)
  refine readsBack_of_slots rfl (fun _ => rfl) rfl (by decide) ?_ ?_
  · simp [ReadsBack.plain, *]
  · simp [required?_given, *]

theorem readsBack_evaluationMapping (m : EvaluationMapping) : ReadsBack m := by
  have id := readsBack_id m.id
  have periodId := readsBack_id m.periodId
  have employeeId := readsBack_id m.employeeId
  have primary := optionReadsBack_id m.primaryEvaluator
  have secondary := readsBack_ids m.secondaryEvaluators
  refine readsBack_of_slots rfl (fun _ => rfl) rfl (by decide) ?_ ?_
  · simp [ReadsBack.plain, OptionReadsBack.plain, *]
  · simp [required?_given, OptionReadsBack.read, *]

theorem readsBack_newRevisionRequest (r : NewRevisionRequest) : ReadsBack r := by
  have mappingId := readsBack_id r.mappingId
  have step := readsBack_literal r.step
  have comment := readsBack_string r.comment
  have requestedBy := readsBack_id r.requestedBy
  have recipients : ReadsBack r.recipients := readsBack_list fun r _ => readsBack_recipient r
  refine readsBack_of_slots rfl (fun _ => rfl) rfl (by decide) ?_ ?_
  · simp [ReadsBack.plain, *]
  · simp [required?_given, withDefault?_given, *]

theorem readsBack_stepStatusChange (c : StepStatusChange) : ReadsBack c := by
  have mappingId := readsBack_id c.mappingId
  have step := readsBack_literal c.step
  have status := readsBack_literal c.status
  have actedBy := readsBack_id c.actedBy
  have comment := optionReadsBack_string c.revisionComment
  have recipients : ReadsBack c.recipients := readsBack_list fun r _ => readsBack_recipient r
  refine readsBack_of_slots rfl (fun _ => rfl) rfl (by decide) ?_ ?_
  · simp [ReadsBack.plain, OptionReadsBack.plain, *]
  · simp [required?_given, withDefault?_given, OptionReadsBack.read, *]

/-! ## Events -/

theorem readsBack_stepStatusChanged {d : StepStatusChanged} (proper : d.changedAt.Proper) :
    ReadsBack d := by
  have mappingId := readsBack_id d.mappingId
  have step := readsBack_literal d.step
  have before := readsBack_literal d.before
  have after := readsBack_literal d.after
  have changedBy := readsBack_id d.changedBy
  have changedAt := readsBack_instant proper
  refine readsBack_of_slots rfl (fun _ => rfl) rfl (by decide) ?_ ?_
  · simp [ReadsBack.plain, *]
  · simp [required?_given, *]

theorem readsBack_revisionRequested {d : RevisionRequested} (proper : d.requestedAt.Proper) :
    ReadsBack d := by
  have requestId := readsBack_id d.requestId
  have mappingId := readsBack_id d.mappingId
  have step := readsBack_literal d.step
  have requestedBy := readsBack_id d.requestedBy
  have recipients := readsBack_ids d.recipients
  have requestedAt := readsBack_instant proper
  refine readsBack_of_slots rfl (fun _ => rfl) rfl (by decide) ?_ ?_
  · simp [ReadsBack.plain, *]
  · simp [required?_given, *]

theorem readsBack_revisionRead {d : RevisionRead} (proper : d.at_.Proper) : ReadsBack d := by
  have requestId := readsBack_id d.requestId
  have recipientId := readsBack_id d.recipientId
  have at_ := readsBack_instant proper
  refine readsBack_of_slots rfl (fun _ => rfl) rfl (by decide) ?_ ?_
  · simp [ReadsBack.plain, *]
  · simp [required?_given, *]

theorem readsBack_revisionCompleted {d : RevisionCompleted} (proper : d.completedAt.Proper) :
    ReadsBack d := by
  have requestId := readsBack_id d.requestId
  have recipientId := readsBack_id d.recipientId
  have responseComment := readsBack_string d.responseComment
  have completedAt := readsBack_instant proper
  refine readsBack_of_slots rfl (fun _ => rfl) rfl (by decide) ?_ ?_
  · simp [ReadsBack.plain, *]
  · simp [required?_given, *]

/-- An event's object with the name of its kind and its data. -/
theorem eventOfMembers?_eq (kind : EventKind) (data : Json) :
    eventOfMembers? [(some "type", .ofString kind.text), (some "data", data)] =
      eventOf? kind data := by
  have read : readLiteral (.ofString kind.text) = some kind := readLiteral_text kind
  simp [eventOfMembers?, eventMembers, read]

/-- The form of an event names its kind as the log does. -/
theorem text_ofEvent (event : WorkflowEvent) : (EventKind.ofEvent event).text = event.name := by
  cases event <;> rfl

/-- An event reads back if its data do. -/
theorem readsBack_of_data {event : WorkflowEvent}
    (data : eventOf? (.ofEvent event) (eventData event) = some event)
    (plain : Plain (eventData event)) : ReadsBack event := by
  refine ⟨?_, plain_ofMembers ?_⟩
  · exact (eventOfMembers?_eq _ _).trans data
  · simp [plain, Plain.string]

theorem readsBack_workflowEvent {event : WorkflowEvent} (proper : ProperTimes event) :
    ReadsBack event := by
  cases event with
  | stepStatusChanged d =>
    have back := readsBack_stepStatusChanged (proper d.changedAt List.mem_cons_self)
    have data : eventOf? .stepStatusChanged (toJson d) = some (.stepStatusChanged d) := by
      rw [eventOf?, back.read, Option.map_some]
    exact readsBack_of_data data back.plain
  | revisionRequested d =>
    have back := readsBack_revisionRequested (proper d.requestedAt List.mem_cons_self)
    have data : eventOf? .revisionRequested (toJson d) = some (.revisionRequested d) := by
      rw [eventOf?, back.read, Option.map_some]
    exact readsBack_of_data data back.plain
  | revisionRead d =>
    have back := readsBack_revisionRead (proper d.at_ List.mem_cons_self)
    have data : eventOf? .revisionRead (toJson d) = some (.revisionRead d) := by
      rw [eventOf?, back.read, Option.map_some]
    exact readsBack_of_data data back.plain
  | revisionCompleted d =>
    have back := readsBack_revisionCompleted (proper d.completedAt List.mem_cons_self)
    have data : eventOf? .revisionCompleted (toJson d) = some (.revisionCompleted d) := by
      rw [eventOf?, back.read, Option.map_some]
    exact readsBack_of_data data back.plain

/-! ## All forms -/

/-- The values of a type whose times are proper read back from their forms and from the texts of
these, and no two of them share a form or a text. -/
structure RoundTrips (α : Type) [Form α] [Timed α] : Prop where
  read : ∀ a : α, ProperTimes a → Form.ofJson? (toJson a) = some a
  readText : ∀ a : α, ProperTimes a → (parse? (text (toJson a))).bind Form.ofJson? = some a
  inj : ∀ a b : α, ProperTimes a → ProperTimes b → toJson a = toJson b → a = b
  text_inj : ∀ a b : α, ProperTimes a → ProperTimes b → text (toJson a) = text (toJson b) → a = b

theorem roundTrips_of_readsBack {α : Type} [Form α] [Timed α]
    (back : ∀ a : α, ProperTimes a → ReadsBack a) : RoundTrips α := by
  have readText (a : α) (proper : ProperTimes a) :
      (parse? (text (toJson a))).bind Form.ofJson? = some a := by
    rw [parse?_text (back a proper).plain]
    exact (back a proper).read
  refine ⟨fun a proper => (back a proper).read, readText, ?_, ?_⟩
  · intro a b first second same
    have read := (back a first).read
    rw [same, (back b second).read] at read
    exact (Option.some.inj read).symm
  · intro a b first second same
    have read := readText a first
    rw [same, readText b second] at read
    exact (Option.some.inj read).symm

/-- Events, changes of steps, requests, records, recipients' rows and mappings read back from their
JSON and are told apart by it, as values and as texts, whatever their strings, lists, identifiers
and times are.  An event's object has the name of the event under `type`.  A client need not send an
empty list of recipients, and whatever may be `null` may be left out, wherever its member would
stand and whatever the other members are. -/
theorem forms_round_trip :
    (RoundTrips WorkflowEvent ∧ RoundTrips StepStatusChange ∧ RoundTrips NewRevisionRequest ∧
      RoundTrips ApprovalRecord ∧ RoundTrips RevisionRequest ∧ RoundTrips RecipientRow ∧
      RoundTrips RequestView ∧ RoundTrips RequestDetail ∧ RoundTrips EvaluationMapping) ∧
    (∀ event : WorkflowEvent, ∃ data,
      toJson event = .ofMembers [("type", .ofString event.name), ("data", data)]) ∧
    (Omits StepStatusChange "recipients" (.array []) ∧
      Omits NewRevisionRequest "recipients" (.array [])) ∧
    Omits StepState "updated_at" .null ∧ Omits StepState "updated_by" .null ∧
      Omits RecipientRow "read_at" .null ∧ Omits RecipientRow "completed_at" .null ∧
      Omits RecipientRow "response_comment" .null ∧
      Omits EvaluationMapping "primary_evaluator_id" .null ∧
      Omits StepStatusChange "revision_comment" .null := by
  refine ⟨⟨?_, ?_, ?_, ?_, ?_, ?_, ?_, ?_, ?_⟩, fun event => ⟨eventData event, ?_⟩, ⟨?_, ?_⟩,
    ?_, ?_, ?_, ?_, ?_, ?_, ?_⟩
  · exact roundTrips_of_readsBack fun _ => readsBack_workflowEvent
  · exact roundTrips_of_readsBack fun change _ => readsBack_stepStatusChange change
  · exact roundTrips_of_readsBack fun request _ => readsBack_newRevisionRequest request
  · exact roundTrips_of_readsBack fun _ => readsBack_approvalRecord
  · exact roundTrips_of_readsBack fun _ => readsBack_revisionRequest
  · exact roundTrips_of_readsBack fun _ => readsBack_recipientRow
  · exact roundTrips_of_readsBack fun _ => readsBack_requestView
  · exact roundTrips_of_readsBack fun _ => readsBack_requestDetail
  · exact roundTrips_of_readsBack fun mapping _ => readsBack_evaluationMapping mapping
  · rw [← text_ofEvent]
    rfl
  · exact omits_of_slots ["mapping_id", "step", "status", "acted_by", "revision_comment"] []
      (fun _ => rfl) (by decide) fun _ => rfl
  · exact omits_of_slots ["mapping_id", "step", "comment", "requested_by"] []
      (fun _ => rfl) (by decide) fun _ => rfl
  · exact omits_of_slots ["status"] ["updated_by"] (fun _ => rfl) (by decide) fun _ => rfl
  · exact omits_of_slots ["status", "updated_at"] [] (fun _ => rfl) (by decide) fun _ => rfl
  · exact omits_of_slots ["revision_request_id", "recipient_id", "recipient_type", "is_read"]
      ["is_completed", "completed_at", "response_comment"] (fun _ => rfl) (by decide) fun _ => rfl
  · exact omits_of_slots ["revision_request_id", "recipient_id", "recipient_type", "is_read",
      "read_at", "is_completed"] ["response_comment"] (fun _ => rfl) (by decide) fun _ => rfl
  · exact omits_of_slots ["revision_request_id", "recipient_id", "recipient_type", "is_read",
      "read_at", "is_completed", "completed_at"] [] (fun _ => rfl) (by decide) fun _ => rfl
  · exact omits_of_slots ["id", "evaluation_period_id", "employee_id"]
      ["secondary_evaluator_ids"] (fun _ => rfl) (by decide) fun _ => rfl
  · exact omits_of_slots ["mapping_id", "step", "status", "acted_by"] ["recipients"]
      (fun _ => rfl) (by decide) fun _ => rfl

/-- The middle of the last leap second of 2016. -/
def leapSecond : Instant := ⟨1483228799, 1500000000, by decide⟩

/-- A revision that was completed then, with a comment that needs escapes. -/
theorem forms_round_trip_leapSecond :
    (parse? (text (toJson (WorkflowEvent.revisionCompleted
      ⟨default, default, "\"\n\u200d", leapSecond⟩)))).bind Form.ofJson? =
      some (WorkflowEvent.revisionCompleted ⟨default, default, "\"\n\u200d", leapSecond⟩) := by
  refine forms_round_trip.1.1.readText _ fun t mem => ?_
  rw [List.mem_singleton.1 mem]
  exact ⟨by decide, fun _ => by decide⟩

end Json

end Appraisal
