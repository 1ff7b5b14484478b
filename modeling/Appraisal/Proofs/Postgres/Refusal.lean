import Appraisal.Proofs.Postgres.Account
import Appraisal.Proofs.Workflow.Rule

/-!
# Calls about a completed row

Once the row is completed, a client that loads it finds it completed, and an update is refused
(`Sealed`).  This is what becomes of a call then, wherever it is (`decisive_action`).

* A call that is about to write that the row was read tells no handler of anything, and returns the
  completed row if it returns one.  If nothing fails, it does so after five requests.
* A call that finds the row completed, or whose update is refused, when it is to complete the row,
  ends with an error after at most five requests, whatever else fails.
-/

namespace Appraisal.Postgres

open Workflow Program Memory

/-- The answers that a client may get once the row is completed.  It reads the row as given. -/
def Sealed (row : RecipientRow) :
    (request : Appraisal.Request WorkflowEvent) → request.Answer → Prop
  | .session (.store (.findRecipient _ _)), .ok found => found = some row
  | .session (.store (.updateRecipient _)), .ok taken => taken = false
  | _, _ => True

/-- The answers that a client gets if besides nothing fails. -/
def Smooth (row : RecipientRow) :
    (request : Appraisal.Request WorkflowEvent) → request.Answer → Prop
  | .session (.store (.findRequest _)), answer => ∃ request, answer = .ok (some request)
  | .session (.store (.findRecipient _ _)), answer => answer = .ok (some row)
  | .session .commit, answer => answer = .ok ()
  | .session .release, answer => answer = .ok ()
  | _, _ => True

/-- The request tells no handler of an event. -/
def Quiet : Appraisal.Request WorkflowEvent → Prop
  | .deliver _ _ => False
  | _ => True

/-- If there is a value in the end, it is this one. -/
def Shows {α : Type} (value : α) (outcome : Except WorkflowError α) : Prop :=
  ∀ a, outcome = .ok a → a = value

theorem Shows.failed {α : Type} {value : α} (e : WorkflowError) : Shows value (.error e) := nofun

section

variable {requestId : RevisionRequestId} {recipientId : EmployeeId} {row : RecipientRow}

/-! ## Reading a completed row -/

theorem under_loadRow :
    (loadRow requestId recipientId).run.Under (Sealed row) Quiet (Shows row) := by
  refine ⟨trivial, fun answer _ => ?_⟩
  cases answer with
  | error f => exact Shows.failed _
  | ok found =>
    cases found with
    | none => exact Shows.failed _
    | some request =>
      refine ⟨trivial, fun answer known => ?_⟩
      cases answer with
      | error f => exact Shows.failed _
      | ok found =>
        obtain rfl : found = some row := known
        rintro _ ⟨⟩
        rfl

/-- A row that is read is returned without an event. -/
theorem under_markReadIn (isRead : row.isRead = true) :
    (markReadIn requestId recipientId).run.Under (Sealed row) Quiet (Shows (.ofValue row)) := by
  refine under_loadRow.bind fun outcome came => ?_
  cases outcome with
  | error e => exact Shows.failed _
  | ok r =>
    obtain rfl := came r rfl
    refine ⟨trivial, fun now _ => ?_⟩
    show Program.Under _ _ _ (ExceptT.run (if r.isRead then _ else _))
    rw [isRead]
    rintro _ ⟨⟩
    rfl

theorem quiet_of_frames {request : Appraisal.Request WorkflowEvent} (frames : Frames request) :
    Quiet request := by
  cases request with
  | deliver => exact frames.elim
  | _ => trivial

theorem carries_sealed :
    Carries fun p : Action WorkflowEvent (Except WorkflowError RecipientRow) =>
      p.Under (Sealed row) Quiet (Shows row) :=
  fun _ _ frames later => ⟨quiet_of_frames frames, fun answer _ => later answer⟩

theorem under_conclude (s : Service) {outcome : Except WorkflowError (WithEvents RecipientRow)}
    (came : Shows (.ofValue row) outcome) (b : WithEvents RecipientRow)
    (ended : outcome = .ok b) :
    (((Call.markRead requestId recipientId).job s ()).conclude (.ok b)).Under (Sealed row) Quiet
      (Shows row) := by
  rw [came b ended]
  refine ⟨trivial, fun _ _ => ?_⟩
  rintro _ ⟨⟩
  rfl

/-- All attempts to read a completed row are silent and return the row. -/
theorem rule_sealed (s : Service) (isRead : row.isRead = true) :
    ((Call.markRead requestId recipientId).job s ()).Rule
      (·.Under (Sealed row) Quiet (Shows row)) where
  carries := carries_sealed
  failed := Shows.failed
  body _ _ fails := (under_markReadIn isRead).bind fun _ came =>
    carries_sealed.afterBody fails (under_conclude s came)

/-- What follows a refused update: the row is loaded again. -/
theorem ends_loadRow : (loadRow requestId recipientId).run.Ends (Smooth row) (· = .ok row) 2 := by
  intro answer found
  obtain ⟨request, rfl⟩ := found
  intro answer found
  obtain rfl : answer = .ok (some row) := found
  rfl

theorem ends_afterBody (s : Service) (left number : Nat) :
    (((Call.markRead requestId recipientId).job s ()).afterBody left number
      (.ok (.ofValue row))).Ends (Smooth row) (· = .ok row) 3 := by
  intro answer done
  obtain rfl : answer = .ok () := done
  intro answer done
  obtain rfl : answer = .ok () := done
  intro answer _
  rfl

/-! ## Errors that end a call -/

/-- An error that is no raw failure ends a call, whatever fails on the way. -/
theorem ends_error {β V : Type} (j : Job β V) (left number : Nat) {e : WorkflowError}
    (refused : WorkError.failure? e = none) :
    (j.afterBody left number (.error e)).Ends (fun _ _ => True) (· = .error e) 5 := by
  have rolledBack : j.rollBack.Ends (fun _ _ => True) (fun _ => True) 2 := by
    intro answer _
    cases answer with
    | ok u => trivial
    | error f => exact fun _ _ => trivial
  have released : j.release.Ends (fun _ _ => True) (fun _ => True) 2 := by
    intro answer _
    cases answer with
    | ok u => trivial
    | error f => exact fun _ _ => trivial
  have concluded : (j.afterAttempt left number (.error e) >>= j.conclude).Ends (fun _ _ => True)
      (· = .error e) 1 := by
    rw [Job.afterAttempt, refused]
    exact fun _ _ => rfl
  exact rolledBack.bind fun _ _ => released.bind fun _ _ => concluded

/-! ## Decisions -/

/-- What becomes of a call that makes the request, if the row is completed.  Only the requests
matter on whose answers the call decides. -/
def Decisive (requestId : RevisionRequestId) (recipientId : EmployeeId) :
    Touch → (request : Appraisal.Request WorkflowEvent) →
      (request.Answer → Action WorkflowEvent (Except WorkflowError RecipientRow)) → Prop
  | .read, .session (.store (.updateRecipient new)), next =>
    ∀ row : RecipientRow, row.isRead = true →
      (Program.call (.session (.store (.updateRecipient new))) next).Under (Sealed row) Quiet
        (Shows row) ∧ (next (.ok false)).Ends (Smooth row) (· = .ok row) 5
  | .complete _, .session (.store (.findRecipient _ _)), next =>
    ∀ row : RecipientRow, row.isCompleted = true →
      (next (.ok (some row))).Ends (fun _ _ => True)
        (· = .error (.alreadyCompleted requestId recipientId)) 5
  | .complete _, .session (.store (.updateRecipient _)), next =>
    (next (.ok false)).Ends (fun _ _ => True)
      (· = .error (.alreadyCompleted requestId recipientId)) 5
  | _, .session (.store (.findRequest id)), _ => id = requestId
  | _, _, _ => True

section

variable {V : Type} {holds : (request : Appraisal.Request WorkflowEvent) →
  (request.Answer → Action WorkflowEvent V) → Prop}

/-- Loading the row takes two requests, the first of which decides nothing. -/
theorem throughout_loadRow {β : Type} {load : RecipientRow → WorkflowWork β}
    {k : Except WorkflowError β → Action WorkflowEvent V}
    (request : ∀ next, holds (.session (.store (.findRequest requestId))) next)
    (recipient : ∀ next, (∀ row, next (.ok (some row)) = (load row).run >>= k) →
      holds (.session (.store (.findRecipient requestId recipientId))) next)
    (failed : ∀ e, (k (.error e)).Throughout holds)
    (rest : ∀ row, ((load row).run >>= k).Throughout holds) :
    ((loadRow requestId recipientId >>= load).run >>= k).Throughout holds := by
  refine ⟨request _, fun answer => ?_⟩
  cases answer with
  | error f => exact failed _
  | ok found =>
    cases found with
    | none => exact failed _
    | some request =>
      refine ⟨recipient _ fun _ => rfl, fun answer => ?_⟩
      cases answer with
      | error f => exact failed _
      | ok found =>
        cases found with
        | none => exact failed _
        | some row => exact rest row

end

section

variable {k : Except WorkflowError (WithEvents RecipientRow) →
  Action WorkflowEvent (Except WorkflowError RecipientRow)}

theorem decisive_markReadIn
    (rest : ∀ outcome, (k outcome).Throughout (Decisive requestId recipientId .read))
    (under : ∀ row : RecipientRow, row.isRead = true → ∀ outcome, Shows (.ofValue row) outcome →
      (k outcome).Under (Sealed row) Quiet (Shows row))
    (ends : ∀ row, (k (.ok (.ofValue row))).Ends (Smooth row) (· = .ok row) 3) :
    ((markReadIn requestId recipientId).run >>= k).Throughout
      (Decisive requestId recipientId .read) := by
  refine throughout_loadRow (fun _ => rfl) (fun _ _ => trivial) (fun _ => rest _) fun row => ?_
  refine ⟨trivial, fun now => ?_⟩
  show Program.Throughout _ (ExceptT.run (if row.isRead then _ else _) >>= k)
  cases row.isRead with
  | true => exact rest _
  | false =>
    let reload : WorkflowWork (WithEvents RecipientRow) := do
      return .ofValue (← loadRow requestId recipientId)
    -- the update is the only request that decides anything
    refine ⟨fun row isRead => ⟨⟨trivial, fun answer known => ?_⟩, ?_⟩, fun answer => ?_⟩
    · cases answer with
      | error f => exact under row isRead _ (Shows.failed _)
      | ok taken =>
        obtain rfl : taken = false := known
        show (reload.run >>= k).Under _ _ _
        rw [ExceptT.run_bind, Program.bind_assoc]
        refine under_loadRow.bind fun outcome came => ?_
        cases outcome with
        | error e => exact under row isRead _ (Shows.failed _)
        | ok r =>
          refine under row isRead _ ?_
          rintro _ ⟨⟩
          rw [came r rfl]
    · show (reload.run >>= k).Ends _ _ (2 + 3)
      rw [ExceptT.run_bind, Program.bind_assoc]
      refine ends_loadRow.bind fun outcome came => ?_
      rw [came]
      exact ends row
    · cases answer with
      | error f => exact rest _
      | ok taken =>
        cases taken with
        | true => exact rest _
        | false =>
          show (reload.run >>= k).Throughout _
          exact throughout_loadRow (fun _ => rfl) (fun _ _ => trivial) (fun _ => rest _)
            fun _ => rest _

theorem decisive_completeIn {comment : String}
    (rest : ∀ outcome, (k outcome).Throughout (Decisive requestId recipientId (.complete comment)))
    (ends : ∀ e, WorkError.failure? e = none →
      (k (.error e)).Ends (fun _ _ => True) (· = .error e) 5) :
    ((completeIn requestId recipientId comment).run >>= k).Throughout
      (Decisive requestId recipientId (.complete comment)) := by
  refine throughout_loadRow (fun _ => rfl) (fun next found row completed => ?_)
    (fun _ => rest _) fun row => ?_
  · rw [found row, if_pos completed]
    exact ends _ rfl
  · cases row.isCompleted with
    | true => exact rest _
    | false =>
      refine ⟨trivial, fun now => ⟨ends _ rfl, fun answer => ?_⟩⟩
      cases answer with
      | error f => exact rest _
      | ok taken => cases taken <;> exact rest _

end

theorem decisive_of_frames {touch : Touch} {request : Appraisal.Request WorkflowEvent}
    (next : request.Answer → Action WorkflowEvent (Except WorkflowError RecipientRow))
    (frames : Frames request ∨ Outward request) :
    Decisive requestId recipientId touch request next := by
  cases touch <;> cases request with
  | session call => cases call with
    | store => exact frames.elim False.elim False.elim
    | _ => trivial
  | _ => trivial

theorem decisive_job (touch : Touch) (j : Job (WithEvents RecipientRow) RecipientRow)
    (outward : ∀ b, (j.conclude (.ok b)).Within Outward fun _ => True)
    (body : ∀ left number,
      (∀ outcome, (j.afterBody left number outcome).Throughout
        (Decisive requestId recipientId touch)) →
      (j.body >>= j.afterBody left number).Throughout (Decisive requestId recipientId touch)) :
    j.action.Throughout (Decisive requestId recipientId touch) := by
  have carries : Carries fun p : Action WorkflowEvent (Except WorkflowError RecipientRow) =>
      p.Throughout (Decisive requestId recipientId touch) :=
    fun _ next frames later => ⟨decisive_of_frames next (.inl frames), later⟩
  have concluded : ∀ b, (j.conclude (.ok b)).Throughout (Decisive requestId recipientId touch) :=
    fun b => ((outward b).mono (fun _ outward next => decisive_of_frames next (.inr outward))
      fun _ h => h).throughout
  have rule : j.Rule (·.Throughout (Decisive requestId recipientId touch)) :=
    { carries
      failed := fun _ => trivial
      body := fun left number fails => body left number fun _ =>
        carries.afterBody fails fun b _ => concluded b }
  exact rule.action

/-- Both calls decide as described, wherever they are. -/
theorem decisive_action (s : Service) (touch : Touch) :
    (touch.action s requestId recipientId).run.Throughout
      (Decisive requestId recipientId touch) := by
  cases touch with
  | read =>
    rw [show (Touch.read.action s requestId recipientId).run = _ from
      Call.action_eq s (.markRead requestId recipientId)]
    exact decisive_job .read _
      (fun b => outward_conclude s (.markRead requestId recipientId) () (.ok b))
      fun left number rest => decisive_markReadIn rest
        (fun row isRead _ came =>
          carries_sealed.afterBody ((rule_sealed s isRead).fails left number)
            (under_conclude s came))
        fun _ => ends_afterBody s left number
  | complete comment =>
    rw [show ((Touch.complete comment).action s requestId recipientId).run = _ from
      Call.action_eq s (.submitCompletion requestId recipientId comment)]
    exact decisive_job (.complete comment) _
      (fun b => outward_conclude s (.submitCompletion requestId recipientId comment) () (.ok b))
      fun left number rest => decisive_completeIn rest
        fun _ refused => ends_error _ left number refused

end

end Appraisal.Postgres
