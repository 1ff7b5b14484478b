import Appraisal.Workflow.StepChange

/-!
# Calls of the workflow

The calls that a client may make, as data, and the shape that they share.  A call first prepares a
*plan*, without opening a session.  Then it runs its *job*: some work in a transaction, attempted as
often as the settings allow, and what follows once the transaction has committed.

`action_eq` says that every call is its preparation and then its job.  The jobs themselves are
`Job.action`, one definition for all calls.
-/

namespace Appraisal.Workflow

/-- A call of the workflow. -/
inductive Call
  /-- Gives a step a status. -/
  | setStepStatus (change : StepStatusChange)
  /-- Creates a revision request. -/
  | createRequest (new : NewRevisionRequest)
  /-- Marks a request read for a recipient. -/
  | markRead (requestId : RevisionRequestId) (recipientId : EmployeeId)
  /-- Completes a request for a recipient. -/
  | submitCompletion (requestId : RevisionRequestId) (recipientId : EmployeeId) (comment : String)
  /-- Lists a recipient's requests. -/
  | listForRecipient (recipientId : EmployeeId) (filter : RecipientFilter)
  /-- Counts the requests that a recipient has not read. -/
  | countUnread (recipientId : EmployeeId)
  /-- Loads a request with all its rows. -/
  | getRequest (requestId : RevisionRequestId)
  /-- Loads the approval record of a mapping. -/
  | getRecord (id : MappingId)

/-! ## Jobs -/

/-- Work in a transaction and what follows it. -/
structure Job (β V : Type) where
  /-- What the transaction is run with. -/
  coordinator : Coordinator
  /-- What is being run. -/
  context : String
  /-- What is asked of the transaction. -/
  options : TransactionOptions
  /-- The work. -/
  work : WorkflowWork β
  /-- What follows when the transaction has committed. -/
  finish : β → Action WorkflowEvent V

namespace Job

variable {β V : Type}

/-- What follows the attempts, whatever came out of them. -/
def conclude (j : Job β V) (outcome : Except WorkflowError β) :
    Action WorkflowEvent (Except WorkflowError V) := do
  Action.signal (.sample "transaction_duration_seconds")
  match outcome with
  | .error e => return .error e
  | .ok b =>
    let v ← j.finish b
    return .ok v

/-- Attempts in a row. -/
def attempts (j : Job β V) (left number : Nat) :
    Action WorkflowEvent (Except WorkflowError β) :=
  (j.coordinator.attempts j.context j.options j.work left number).run

/-- The number of attempts that the settings allow. -/
def maxRetries (j : Job β V) : Nat := (j.coordinator.settings.policyFor j.options).maxRetries

/-- The job from its first count to its end. -/
def action (j : Job β V) : Action WorkflowEvent (Except WorkflowError V) := do
  Action.signal (.count "transactions_total" [])
  let outcome ← j.attempts j.maxRetries 1
  j.conclude outcome

/-! ### An attempt, stage by stage -/

/-- Rolls the transaction back. -/
def rollBack (j : Job β V) : Action WorkflowEvent Unit := j.coordinator.rollBack j.context

/-- Gives the session back. -/
def release (j : Job β V) : Action WorkflowEvent Unit :=
  j.coordinator.cleanUp j.context .release (Action.session .release)

/-- What is done between the begin of a transaction and its end. -/
def body (j : Job β V) : Action WorkflowEvent (Except WorkflowError β) :=
  (j.coordinator.body j.context j.options j.work).run

/-- The policy of the attempts. -/
def policy (j : Job β V) : RetryPolicy := j.coordinator.settings.policyFor j.options

/-- What follows an attempt: nothing, another one, or the end of all attempts. -/
def afterAttempt (j : Job β V) (left number : Nat) :
    Except WorkflowError β → Action WorkflowEvent (Except WorkflowError β)
  | .ok b => return .ok b
  | .error e =>
    match WorkError.failure? e with
    | none => return .error e
    | some f =>
      match left with
      | 0 => do
        let e ← Coordinator.giveUp j.context number f
        return .error e
      | left + 1 =>
        if j.policy.shouldRetry f.kind number then do
          Coordinator.backOff j.policy number f
          j.attempts left (number + 1)
        else do
          let e ← Coordinator.giveUp j.context number f
          return .error e

/-- What follows the end of a transaction. -/
def afterTransaction (j : Job β V) (left number : Nat) (outcome : Except WorkflowError β) :
    Action WorkflowEvent (Except WorkflowError V) := do
  j.release
  let outcome ← j.afterAttempt left number outcome
  j.conclude outcome

/-- What follows a commit of a value. -/
def afterCommit (j : Job β V) (left number : Nat) (b : β) :
    Except Failure Unit → Action WorkflowEvent (Except WorkflowError V)
  | .ok () => j.afterTransaction left number (.ok b)
  | .error f => do
    j.rollBack
    j.afterTransaction left number (.error (.storage f))

/-- What follows the work of a transaction. -/
def afterBody (j : Job β V) (left number : Nat) :
    Except WorkflowError β → Action WorkflowEvent (Except WorkflowError V)
  | .error e => do
    j.rollBack
    j.afterTransaction left number (.error e)
  | .ok b => Action.session .commit >>= j.afterCommit left number b

/-- What follows the begin of a transaction. -/
def afterBegin (j : Job β V) (left number : Nat) :
    Except Failure Unit → Action WorkflowEvent (Except WorkflowError V)
  | .ok () => j.body >>= j.afterBody left number
  | .error f => j.afterTransaction left number (.error (.storage f))

/-- What follows the opening of a session. -/
def afterOpening (j : Job β V) (left number : Nat) :
    Except Failure Unit → Action WorkflowEvent (Except WorkflowError V)
  | .ok () =>
    Action.session (.begin j.options.isolationLevel) >>= j.afterBegin left number
  | .error f => j.afterAttempt left number (.error (.storage f)) >>= j.conclude

theorem attempts_eq (j : Job β V) (left number : Nat) :
    j.attempts left number =
      (j.coordinator.attempt j.context j.options j.work).run >>= j.afterAttempt left number := by
  rw [attempts, Coordinator.attempts, ExceptT.run_mk]
  refine congrArg (Program.bind _) (funext fun outcome => ?_)
  cases outcome with
  | ok b => rfl
  | error e =>
    dsimp only [afterAttempt, policy]
    cases WorkError.failure? e with
    | none => rfl
    | some f => cases left <;> rfl

theorem transaction_bind (j : Job β V) (left number : Nat) :
    ((j.coordinator.transaction j.context j.options j.work).run >>=
      j.afterTransaction left number) = j.afterOpening left number (.ok ()) := by
  rw [Coordinator.transaction, ExceptT.run_mk, Program.bind_assoc]
  refine congrArg (Program.bind _) (funext fun begun => ?_)
  cases begun with
  | error f => rfl
  | ok u =>
    show (Program.bind (j.body >>= _) _) = j.body >>= j.afterBody left number
    refine (Program.bind_assoc _ _ _).trans (congrArg (Program.bind _) (funext fun outcome => ?_))
    cases outcome with
    | error e => exact Program.bind_assoc _ _ _
    | ok b =>
      refine (Program.bind_assoc _ _ _).trans (congrArg (Program.bind _) (funext fun ended => ?_))
      cases ended with
      | ok u => rfl
      | error f => exact Program.bind_assoc _ _ _

/-- Attempts in a row and what follows them. -/
theorem attempts_bind (j : Job β V) (left number : Nat) :
    (j.attempts left number >>= j.conclude) =
      Action.openSession >>= j.afterOpening left number := by
  rw [attempts_eq, Coordinator.attempt, ExceptT.run_mk, Program.bind_assoc, Program.bind_assoc]
  refine congrArg (Program.bind _) (funext fun opened => ?_)
  cases opened with
  | error f => rfl
  | ok u =>
    rw [← transaction_bind]
    simp only [Program.bind_assoc]
    rfl

/-- A job is its work, run by the coordinator, and what follows it. -/
theorem action_eq (j : Job β V) :
    j.action = do
      match ← (j.coordinator.runWith j.context j.options j.work).run with
      | .error e => return .error e
      | .ok b =>
        let v ← j.finish b
        return .ok v := by
  rw [action, Coordinator.runWith, ExceptT.run_mk, Program.bind_assoc]
  refine congrArg (Program.bind _) (funext fun _ => ?_)
  rw [Program.bind_assoc]
  refine congrArg (Program.bind _) (funext fun outcome => ?_)
  cases outcome with
  | error e => rfl
  | ok b => rfl

end Job

/-- Hands on the events of a value. -/
def announce {α : Type} (s : Service) (context : String) (r : WithEvents α) :
    Action WorkflowEvent Unit := do
  unless r.pending.isEmpty do
    let _ ← s.dispatcher.dispatch s.coordinator.sink context r.pending

/-! ## What is checked beforehand -/

theorem checkComment_eq (comment : Option String) :
    checkComment comment =
      if comment.all Text.allBlank then .error (.validation "a revision comment is required")
      else .ok (comment.getD "") := by
  cases comment <;> rfl

theorem changeComment_eq (change : StepStatusChange) :
    changeComment change =
      if change.status = .revisionRequested ∧ change.revisionComment.all Text.allBlank then
        .error (.validation "a revision comment is required")
      else if change.status = .revisionRequested then .ok (some (change.revisionComment.getD ""))
      else .ok none := by
  rw [changeComment, checkComment_eq]
  by_cases asks : change.status = .revisionRequested
  · simp only [asks, if_true, true_and]
    split <;> rfl
  · simp only [asks, if_false, false_and]

/-- A change has a comment to be stored just if it asks for a revision. -/
theorem isSome_of_changeComment {change : StepStatusChange} {comment : Option String}
    (h : changeComment change = .ok comment) :
    comment.isSome = true ↔ change.status = .revisionRequested := by
  rw [changeComment_eq] at h
  split at h
  · cases h
  · split at h
    · rename_i asks
      cases h
      exact iff_of_true rfl asks
    · rename_i other
      cases h
      exact iff_of_false Bool.false_ne_true other

theorem checkRecipients_eq (mapping : EvaluationMapping) (step : Step) (named : List Recipient) :
    checkRecipients mapping step named =
      if mapping.recipientsFor step named = [] then
        .error (.validation s!"no recipients for a revision of the {step.text} step")
      else .ok (mapping.recipientsFor step named) := by
  rw [checkRecipients]
  cases mapping.recipientsFor step named <;> rfl

namespace Call

/-- What a call returns. -/
def Value : Call → Type
  | setStepStatus _ => ApprovalRecord
  | createRequest _ => RevisionRequest
  | markRead .. | submitCompletion .. => RecipientRow
  | listForRecipient .. => List RequestView
  | countUnread _ => Nat
  | getRequest _ => RequestDetail
  | getRecord _ => Option ApprovalRecord

/-- What the work of a call returns. -/
def Result : Call → Type
  | setStepStatus _ => WithEvents StepOutcome
  | createRequest _ => WithEvents RevisionRequest
  | markRead .. | submitCompletion .. => WithEvents RecipientRow
  | listForRecipient .. => List RequestView
  | countUnread _ => Nat
  | getRequest _ => RequestDetail
  | getRecord _ => Option ApprovalRecord

/-- What a call prepares before it opens a session. -/
def Plan : Call → Type
  | setStepStatus _ => Option PreparedRevision
  | createRequest _ => PreparedRevision
  | _ => Unit

/-- The call itself. -/
def action (s : Service) : (c : Call) → WorkflowWork c.Value
  | .setStepStatus change => Workflow.setStepStatus s change
  | .createRequest new => Workflow.createRequest s new
  | .markRead requestId recipientId => Workflow.markRead s requestId recipientId
  | .submitCompletion requestId recipientId comment =>
    Workflow.submitCompletion s requestId recipientId comment
  | .listForRecipient recipientId filter => Workflow.listForRecipient s recipientId filter
  | .countUnread recipientId => Workflow.countUnread s recipientId
  | .getRequest requestId => Workflow.getRequest s requestId
  | .getRecord id => Workflow.getRecord s id

/-- What is prepared of a change. -/
def prepareChange (change : StepStatusChange) : WorkflowWork (Option PreparedRevision) := do
  let comment ← Work.ofCheck (changeComment change)
  let mapping ← requireMapping change.mappingId
  prepareRevision mapping change comment

/-- What is prepared of a new request. -/
def prepareRequest (new : NewRevisionRequest) : WorkflowWork PreparedRevision := do
  let comment ← Work.ofCheck (checkComment (some new.comment))
  let mapping ← requireMapping new.mappingId
  let recipients ← Work.ofCheck (checkRecipients mapping new.step new.recipients)
  let request ← Work.perform (buildRequest mapping new.step comment new.requestedBy)
  return ⟨request, recipients⟩

/-- The preparation of a call. -/
def prepare : (c : Call) → WorkflowWork c.Plan
  | .setStepStatus change => prepareChange change
  | .createRequest new => prepareRequest new
  | .markRead .. | .submitCompletion .. | .listForRecipient .. | .countUnread _ | .getRequest _
  | .getRecord _ => pure ()

/-- The job of a call that only reads. -/
def reading {V : Type} (s : Service) (context : String) (work : WorkflowWork V) : Job V V :=
  ⟨s.coordinator, context, .reading, work, pure⟩

/-- The job of a call with a plan. -/
def job (s : Service) : (c : Call) → c.Plan → Job c.Result c.Value
  | .setStepStatus change, revision =>
    { coordinator := s.coordinator
      context := "set_step_status"
      options := .atIsolation .serializable
      work := applyChange change revision
      finish := fun r => do
        announce s "set_step_status" r
        if r.value.changed then
          Action.signal (.count "step_status_changes_total"
            [("step", change.step.text), ("status", change.status.text)])
          Action.log .info "step status changed" []
        return r.value.record }
  | .createRequest new, plan =>
    { coordinator := s.coordinator
      context := "create_revision_request"
      options := default
      work := createRecorded plan.request plan.recipients
      finish := fun r => do
        announce s "create_revision_request" r
        Action.signal (.count "revision_requests_created_total" [("step", new.step.text)])
        return r.value }
  | .markRead requestId recipientId, _ =>
    { coordinator := s.coordinator
      context := "mark_revision_read"
      options := default
      work := markReadIn requestId recipientId
      finish := fun r => do
        announce s "mark_revision_read" r
        return r.value }
  | .submitCompletion requestId recipientId comment, _ =>
    { coordinator := s.coordinator
      context := "submit_revision_completion"
      options := default
      work := completeIn requestId recipientId comment
      finish := fun r => do
        announce s "submit_revision_completion" r
        Action.signal (.count "revision_completions_total" [])
        return r.value }
  | .listForRecipient recipientId filter, _ =>
    reading s "list_revision_requests" (Work.listFor recipientId filter)
  | .countUnread recipientId, _ =>
    reading s "count_unread_revision_requests" (Work.countUnread recipientId)
  | .getRequest requestId, _ => reading s "get_revision_request" (loadDetail requestId)
  | .getRecord id, _ => reading s "get_step_approval" (Work.findApproval id)

/-- What follows the preparation. -/
def proceed (s : Service) (c : Call) :
    Except WorkflowError c.Plan → Action WorkflowEvent (Except WorkflowError c.Value)
  | .error e => pure (.error e)
  | .ok plan => (c.job s plan).action

theorem reading_action {V : Type} (s : Service) (context : String) (work : WorkflowWork V) :
    (reading s context work).action = (s.coordinator.runReadOnly context work).run := by
  rw [Job.action_eq]
  simp only [reading, Coordinator.runReadOnly]
  conv => rhs; rw [← Program.bind_pure (ExceptT.run _)]
  congr 1
  funext r
  cases r <;> rfl

/-- Work with events that is run by the coordinator is a job, and so is what follows it. -/
theorem recording_action {β V : Type} (s : Service) (context : String)
    (options : TransactionOptions) (work : WorkflowWork (WithEvents β))
    (after : β → Action WorkflowEvent V) (then_ : WithEvents β → WorkflowWork V)
    (same : ∀ r, (then_ r).run = do
      let v ← after r.value
      return .ok v) :
    (s.coordinator.runWithEventsUsing context options s.dispatcher work >>= then_).run =
      Job.action
        { coordinator := s.coordinator
          context
          options
          work
          finish := fun r => do
            announce s context r
            after r.value } := by
  rw [Job.action_eq, ExceptT.run_bind, Coordinator.runWithEventsUsing, ExceptT.run_mk,
    Program.bind_assoc]
  refine congrArg (Program.bind _) (funext fun outcome => ?_)
  cases outcome with
  | error e => rfl
  | ok r =>
    obtain ⟨value, pending⟩ := r
    have next : (then_ (.ofValue value)).run = (after value >>= fun v => pure (.ok v)) := same _
    cases pending with
    | nil =>
      show (then_ (.ofValue value)).run = after value >>= fun v => pure (.ok v)
      exact next
    | cons event events =>
      let dispatched := s.dispatcher.dispatch s.coordinator.sink context (event :: events)
      show (dispatched >>= fun _ => pure (Except.ok (Recorded.ofValue value))) >>= _ =
        ((dispatched >>= fun _ => pure ()) >>= fun _ => after value) >>= fun v => pure (Except.ok v)
      simp only [Program.bind_assoc]
      exact congrArg (Program.bind _) (funext fun _ => next)

theorem run_eq_of_bind {s : Service} {c : Call} {work : WorkflowWork c.Value}
    {then_ : c.Plan → WorkflowWork c.Value} (split : work = c.prepare >>= then_)
    (same : ∀ plan, (then_ plan).run = (c.job s plan).action) :
    work.run = c.prepare.run >>= c.proceed s := by
  rw [split, ExceptT.run_bind]
  refine congrArg (Program.bind _) (funext fun r => ?_)
  cases r with
  | error e => rfl
  | ok plan => exact same plan

/-- A call is its preparation and then its job. -/
theorem action_eq (s : Service) (c : Call) :
    (c.action s).run = c.prepare.run >>= c.proceed s := by
  cases c with
  | listForRecipient recipientId filter => exact (reading_action s _ _).symm
  | countUnread recipientId => exact (reading_action s _ _).symm
  | getRequest requestId => exact (reading_action s _ _).symm
  | getRecord id => exact (reading_action s _ _).symm
  | setStepStatus change =>
    have split : Workflow.setStepStatus s change = (prepareChange change >>= fun revision => do
        let recorded ← s.coordinator.runWithEventsUsing "set_step_status"
          (.atIsolation .serializable) s.dispatcher (applyChange change revision)
        if recorded.value.changed then
          Work.perform do
            Action.signal (.count "step_status_changes_total"
              [("step", change.step.text), ("status", change.status.text)])
            Action.log .info "step status changed" []
        return recorded.value.record) := by
      simp only [Workflow.setStepStatus, prepareChange, bind_assoc]
    refine run_eq_of_bind split fun revision => ?_
    refine recording_action s "set_step_status" (.atIsolation .serializable)
      (applyChange change revision)
      (fun outcome => do
        if outcome.changed then
          Action.signal (.count "step_status_changes_total"
            [("step", change.step.text), ("status", change.status.text)])
          Action.log .info "step status changed" []
        return outcome.record) _ fun r => ?_
    cases r.value.changed <;> rfl
  | createRequest new =>
    have split : Workflow.createRequest s new = (prepareRequest new >>= fun plan => do
        let recorded ← s.coordinator.runWithEvents "create_revision_request" s.dispatcher
          (createRecorded plan.request plan.recipients)
        Work.perform <|
          Action.signal (.count "revision_requests_created_total" [("step", new.step.text)])
        return recorded.value) := by
      simp only [Workflow.createRequest, prepareRequest, bind_assoc, pure_bind]
    refine run_eq_of_bind split fun plan => ?_
    exact recording_action s _ _ _
      (fun request => do
        Action.signal (.count "revision_requests_created_total" [("step", new.step.text)])
        return request)
      (fun r => do
        Work.perform <|
          Action.signal (.count "revision_requests_created_total" [("step", new.step.text)])
        return r.value)
      fun r => rfl
  | markRead requestId recipientId =>
    exact recording_action s _ _ _ _ _ fun r => rfl
  | submitCompletion requestId recipientId comment =>
    exact recording_action s _ _ _
      (fun row => do
        Action.signal (.count "revision_completions_total" [])
        return row)
      (fun r => do
        Work.perform <| Action.signal (.count "revision_completions_total" [])
        return r.value)
      fun r => rfl

end Call

end Appraisal.Workflow
