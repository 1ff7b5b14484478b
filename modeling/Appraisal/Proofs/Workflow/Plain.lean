import Appraisal.Proofs.Concurrent.Twin
import Appraisal.Proofs.Workflow.Call

/-!
# What calls ask for

The work of a call is plain: besides store calls it makes only requests that nobody else can hear
of, and its preparation looks mappings up, too.  Events are handed on, and changes of status, new
requests and completions are counted, only after the transaction.  The lemmas follow the text of
each piece of work.
-/

namespace Appraisal.Memory

open Workflow

/-- The request neither hands an event on nor counts a change of status, a completion or a new
request. -/
def Silent : Request WorkflowEvent → Prop
  | .deliver _ _ => False
  | .signal (.count name _) =>
    name ≠ "step_status_changes_total" ∧ name ≠ "revision_completions_total" ∧
      name ≠ "revision_requests_created_total"
  | _ => True

theorem within_work_bind {α β : Type} {allowed : Request WorkflowEvent → Prop}
    {work : WorkflowWork α} {f : α → WorkflowWork β}
    (h : work.run.Within allowed fun _ => True)
    (hf : ∀ a, (f a).run.Within allowed fun _ => True) :
    (work >>= f).run.Within allowed fun _ => True :=
  Program.Within.bind h fun r _ => match r with
    | .ok a => hf a
    | .error _ => trivial

/-- The work makes only silent store calls and silent requests away from the store. -/
def Plain {α : Type} (work : WorkflowWork α) : Prop :=
  work.run.Within (fun request => Local request ∧ Silent request) fun _ => True

namespace Plain

variable {α β : Type}

theorem bind {work : WorkflowWork α} {f : α → WorkflowWork β} (h : Plain work)
    (hf : ∀ a, Plain (f a)) : Plain (work >>= f) :=
  within_work_bind h hf

theorem pure (a : α) : Plain (pure a) := trivial

theorem throw (e : WorkflowError) : Plain (throw e : WorkflowWork α) := trivial

theorem store (call : StoreCall) : Plain (Work.store call) := by
  refine ⟨⟨trivial, trivial⟩, fun r => ?_⟩
  cases r <;> trivial

theorem now : Plain (Work.perform Action.now) := ⟨⟨trivial, trivial⟩, fun _ => trivial⟩

theorem log (level : LogLevel) (message : String) (fields : List (String × LogValue)) :
    Plain (Work.perform (Action.log level message fields)) :=
  ⟨⟨trivial, trivial⟩, fun _ => trivial⟩

theorem insertRows (requestId : RevisionRequestId) (recipients : List Recipient) :
    Plain (insertRows requestId recipients) := by
  induction recipients with
  | nil => exact pure []
  | cons r recipients ih => exact (store _).bind fun _ => ih.bind fun _ => pure _

theorem createIn (request : RevisionRequest) (recipients : List Recipient) :
    Plain (createIn request recipients) :=
  (store _).bind fun _ => (insertRows _ _).bind fun _ => (log _ _ _).bind fun _ => pure _

theorem loadRow (requestId : RevisionRequestId) (recipientId : EmployeeId) :
    Plain (loadRow requestId recipientId) := by
  refine (store _).bind fun request => ?_
  cases request with
  | none => exact throw _
  | some request =>
    refine (store _).bind fun row => ?_
    cases row with
    | none => exact throw _
    | some row => exact pure row

theorem markReadIn (requestId : RevisionRequestId) (recipientId : EmployeeId) :
    Plain (markReadIn requestId recipientId) := by
  refine (loadRow _ _).bind fun row => now.bind fun at_ => ?_
  split
  · exact pure _
  · refine (store _).bind fun taken => ?_
    cases taken with
    | true => exact pure _
    | false => exact (loadRow _ _).bind fun _ => pure _

theorem completeIn (requestId : RevisionRequestId) (recipientId : EmployeeId) (comment : String) :
    Plain (completeIn requestId recipientId comment) := by
  refine (loadRow _ _).bind fun row => ?_
  split
  · exact throw _
  · refine now.bind fun at_ => (store _).bind fun taken => ?_
    cases taken with
    | true => exact pure _
    | false => exact throw _

theorem loadDetail (requestId : RevisionRequestId) : Plain (loadDetail requestId) := by
  refine (store _).bind fun request => ?_
  cases request with
  | none => exact throw _
  | some request => exact (store _).bind fun _ => pure _

theorem applyChange (change : StepStatusChange) (revision : Option PreparedRevision) :
    Plain (applyChange change revision) := by
  refine now.bind fun at_ => (store _).bind fun stored => ?_
  dsimp only
  split
  · exact (log _ _ _).bind fun _ => pure _
  · refine (store _).bind fun _ => bind ?_ fun _ => pure _
    cases revision with
    | none => exact pure _
    | some p => exact (createIn _ _).bind fun _ => pure _

/-- The work of a call. -/
theorem work (s : Service) (c : Call) (plan : c.Plan) : Plain (c.job s plan).work := by
  cases c with
  | setStepStatus change => exact applyChange change plan
  | createRequest new => exact (createIn _ _).bind fun _ => pure _
  | markRead requestId recipientId => exact markReadIn requestId recipientId
  | submitCompletion requestId recipientId comment =>
    exact completeIn requestId recipientId comment
  | listForRecipient recipientId filter => exact store _
  | countUnread recipientId => exact store _
  | getRequest requestId => exact loadDetail requestId
  | getRecord id => exact store _

end Plain

/-! ## The preparation -/

/-- The request reads the clock, draws bits or looks a mapping up. -/
def Preliminary : Request WorkflowEvent → Prop
  | .now | .draw | .findMapping _ => True
  | _ => False

theorem preliminary_requireMapping (id : MappingId) :
    (requireMapping id).run.Within Preliminary fun _ => True := by
  have looked : (Work.ofAnswer (Action.findMapping id) :
      WorkflowWork (Option EvaluationMapping)).run.Within Preliminary fun _ => True :=
    ⟨trivial, fun r => by cases r <;> trivial⟩
  refine within_work_bind looked fun found => ?_
  cases found <;> trivial

/-- The preparation of a call. -/
theorem preliminary_prepare (c : Call) : c.prepare.run.Within Preliminary fun _ => True := by
  have checked : ∀ {α : Type} (result : Except WorkflowError α),
      (Work.ofCheck result : WorkflowWork α).run.Within Preliminary fun _ => True :=
    fun _ => trivial
  have built : ∀ mapping step comment by_, (Work.perform (buildRequest mapping step comment by_) :
      WorkflowWork RevisionRequest).run.Within Preliminary fun _ => True :=
    fun _ _ _ _ => ⟨trivial, fun _ => ⟨trivial, fun _ => trivial⟩⟩
  cases c with
  | setStepStatus change =>
    refine within_work_bind (checked _) fun comment =>
      within_work_bind (preliminary_requireMapping _) fun mapping => ?_
    cases comment with
    | none => trivial
    | some comment =>
      exact within_work_bind (checked _) fun _ => within_work_bind (built _ _ _ _) fun _ => trivial
  | createRequest new =>
    exact within_work_bind (checked _) fun _ =>
      within_work_bind (preliminary_requireMapping _) fun _ =>
        within_work_bind (checked _) fun _ => within_work_bind (built _ _ _ _) fun _ => trivial
  | _ => trivial

/-- The request neither opens a session nor begins or commits a transaction, and nobody hears of
it. -/
def Still (request : Request WorkflowEvent) : Prop := Calm request ∧ Silent request

theorem Plain.still {α : Type} {work : WorkflowWork α} (h : Plain work) :
    work.run.Within Still fun _ => True :=
  h.mono (fun _ h => ⟨h.1.calm, h.2⟩) fun _ h => h

theorem still_prepare (c : Call) : c.prepare.run.Within Still fun _ => True := by
  refine (preliminary_prepare c).mono (fun request asked => ?_) fun _ h => h
  cases request with
  | now | draw | findMapping => exact ⟨trivial, trivial⟩
  | _ => exact asked.elim

end Appraisal.Memory
