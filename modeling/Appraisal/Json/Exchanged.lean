import Appraisal.Json.Held
import Appraisal.Json.Stored
import Appraisal.Workflow.StepChange

/-!
# JSON forms of what clients and handlers exchange

Requests of clients and events.  An event is an object with its name under `type` and its data
under `data`, in either order, or an array of the two.  If the data come first they are held until
the name is known.
-/

namespace Appraisal.Json

instance : Form NewRevisionRequest where
  toJson r := .ofMembers [
    ("mapping_id", toJson r.mappingId),
    ("step", toJson r.step),
    ("comment", toJson r.comment),
    ("requested_by", toJson r.requestedBy),
    ("recipients", toJson r.recipients)]
  ofJson? j := do
    let [mappingId, step, comment, requestedBy, recipients] ←
      slots ["mapping_id", "step", "comment", "requested_by", "recipients"] j | none
    some ⟨← mappingId.required?, ← step.required?, ← comment.required?,
      ← requestedBy.required?, ← recipients.withDefault? []⟩

instance : Form StepStatusChange where
  toJson c := .ofMembers [
    ("mapping_id", toJson c.mappingId),
    ("step", toJson c.step),
    ("status", toJson c.status),
    ("acted_by", toJson c.actedBy),
    ("revision_comment", ofOption c.revisionComment),
    ("recipients", toJson c.recipients)]
  ofJson? j := do
    let [mappingId, step, status, actedBy, revisionComment, recipients] ←
      slots ["mapping_id", "step", "status", "acted_by", "revision_comment", "recipients"] j
        | none
    some ⟨← mappingId.required?, ← step.required?, ← status.required?, ← actedBy.required?,
      ← revisionComment.optional?, ← recipients.withDefault? []⟩

/-! ## Events -/

instance : Form StepStatusChanged where
  toJson d := .ofMembers [
    ("mapping_id", toJson d.mappingId),
    ("step", toJson d.step),
    ("from", toJson d.before),
    ("to", toJson d.after),
    ("changed_by", toJson d.changedBy),
    ("changed_at", toJson d.changedAt)]
  ofJson? j := do
    let [mappingId, step, before, after, changedBy, changedAt] ←
      slots ["mapping_id", "step", "from", "to", "changed_by", "changed_at"] j | none
    some ⟨← mappingId.required?, ← step.required?, ← before.required?, ← after.required?,
      ← changedBy.required?, ← changedAt.required?⟩

instance : Form RevisionRequested where
  toJson d := .ofMembers [
    ("revision_request_id", toJson d.requestId),
    ("mapping_id", toJson d.mappingId),
    ("step", toJson d.step),
    ("requested_by", toJson d.requestedBy),
    ("recipients", toJson d.recipients),
    ("requested_at", toJson d.requestedAt)]
  ofJson? j := do
    let [requestId, mappingId, step, requestedBy, recipients, requestedAt] ←
      slots ["revision_request_id", "mapping_id", "step", "requested_by", "recipients",
        "requested_at"] j | none
    some ⟨← requestId.required?, ← mappingId.required?, ← step.required?,
      ← requestedBy.required?, ← recipients.required?, ← requestedAt.required?⟩

instance : Form RevisionRead where
  toJson d := .ofMembers [
    ("revision_request_id", toJson d.requestId),
    ("recipient_id", toJson d.recipientId),
    ("at", toJson d.at_)]
  ofJson? j := do
    let [requestId, recipientId, at_] ←
      slots ["revision_request_id", "recipient_id", "at"] j | none
    some ⟨← requestId.required?, ← recipientId.required?, ← at_.required?⟩

instance : Form RevisionCompleted where
  toJson d := .ofMembers [
    ("revision_request_id", toJson d.requestId),
    ("recipient_id", toJson d.recipientId),
    ("response_comment", toJson d.responseComment),
    ("completed_at", toJson d.completedAt)]
  ofJson? j := do
    let [requestId, recipientId, responseComment, completedAt] ←
      slots ["revision_request_id", "recipient_id", "response_comment", "completed_at"] j | none
    some ⟨← requestId.required?, ← recipientId.required?, ← responseComment.required?,
      ← completedAt.required?⟩

/-- The kind of an event, without its data. -/
inductive EventKind
  /-- A step moved to another status. -/
  | stepStatusChanged
  /-- Recipients were asked to revise a step. -/
  | revisionRequested
  /-- A recipient read a request for the first time. -/
  | revisionRead
  /-- A recipient completed a revision. -/
  | revisionCompleted
deriving DecidableEq, Repr

/-- The name of a kind. -/
def EventKind.text : EventKind → String
  | stepStatusChanged => "StepStatusChanged"
  | revisionRequested => "RevisionRequested"
  | revisionRead => "RevisionRead"
  | revisionCompleted => "RevisionCompleted"

instance : Literal EventKind where
  field := "event type"
  all := [.stepStatusChanged, .revisionRequested, .revisionRead, .revisionCompleted]
  text := EventKind.text
  mem_all a := by cases a <;> decide
  text_inj := by intro a b; cases a <;> cases b <;> decide

/-- The event of a kind with some data. -/
def eventOf? (kind : EventKind) (data : Json) : Option WorkflowEvent :=
  match kind with
  | .stepStatusChanged => (Form.ofJson? data).map .stepStatusChanged
  | .revisionRequested => (Form.ofJson? data).map .revisionRequested
  | .revisionRead => (Form.ofJson? data).map .revisionRead
  | .revisionCompleted => (Form.ofJson? data).map .revisionCompleted

/-- The members of an event's object that say something about it, in order. -/
def eventMembers (members : List (Option String × Json)) : List (Option String × Json) :=
  members.filter fun m => m.1 == some "type" || m.1 == some "data"

/-- The event of an object's members. -/
def eventOfMembers? (members : List (Option String × Json)) : Option WorkflowEvent :=
  if members.any (·.1.isNone) then none
  else match eventMembers members with
    | [(some first, a), (some second, b)] =>
      if first = "type" ∧ second = "data" then do eventOf? (← readLiteral a) b
      else if first = "data" ∧ second = "type" then do eventOf? (← readLiteral b) (← hold? a)
      else none
    | _ => none

/-- The kind of an event. -/
def EventKind.ofEvent : WorkflowEvent → EventKind
  | .stepStatusChanged _ => stepStatusChanged
  | .revisionRequested _ => revisionRequested
  | .revisionRead _ => revisionRead
  | .revisionCompleted _ => revisionCompleted

/-- The form of the data of an event. -/
def eventData : WorkflowEvent → Json
  | .stepStatusChanged d => toJson d
  | .revisionRequested d => toJson d
  | .revisionRead d => toJson d
  | .revisionCompleted d => toJson d

instance : Form WorkflowEvent where
  toJson event := .ofMembers [
    ("type", .ofString (EventKind.ofEvent event).text),
    ("data", eventData event)]
  ofJson?
    | .object members => eventOfMembers? members
    | .array [.string (some kind), data] => do eventOf? (← Literal.ofText? kind) data
    | _ => none

end Appraisal.Json
