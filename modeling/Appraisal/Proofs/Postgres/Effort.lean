import Appraisal.Proofs.Postgres.Account
import Appraisal.Proofs.Workflow.Rule

/-!
# What a completion takes

A client that completes a row writes completed rows only, and it returns a row only after a
transaction that wrote one was committed (`effort_obeys`).
-/

namespace Appraisal.Postgres

open Workflow Memory

/-- What a client knows, with whether a transaction that changed the row was committed. -/
structure Effort where
  standing : Standing
  done : Bool

/-- A commit succeeded. -/
def commits : (request : Appraisal.Request WorkflowEvent) → request.Answer → Bool
  | .session .commit, .ok () => true
  | _, _ => false

/-- The request writes no row that is not completed. -/
def Completes : Appraisal.Request WorkflowEvent → Prop
  | .session (.store (.updateRecipient row)) => row.isCompleted = true
  | _ => True

namespace Effort

/-- The effort after a request was answered. -/
def next (a : Effort) (request : Appraisal.Request WorkflowEvent) (answer : request.Answer) :
    Effort where
  standing := a.standing.next request answer
  done := a.done || commits request answer && a.standing.written

/-- The rules of a client that completes the row. -/
def rules : Program.Rules (@Appraisal.Request.Answer WorkflowEvent) Effort where
  allows _ := Completes
  next := next

end Effort

/-- A client returns a row only after it was committed. -/
def Earned (outcome : Except WorkflowError RecipientRow) (a : Effort) : Prop :=
  ∀ r, outcome = .ok r → a.done = true

/-- The client keeps to the rules, whatever it knows.  If `granted`, it knows of a commit. -/
def Honest (granted : Bool) (p : Action WorkflowEvent (Except WorkflowError RecipientRow)) : Prop :=
  ∀ a : Effort, (granted = true → a.done = true) → p.Obeys Effort.rules Earned a

variable {requestId : RevisionRequestId} {recipientId : EmployeeId} {granted : Bool}

/-- A commit stays known. -/
theorem Effort.done_next {a : Effort} {request : Appraisal.Request WorkflowEvent}
    (answer : request.Answer) (done : a.done = true) : (a.next request answer).done = true := by
  rw [next, done, Bool.true_or]

theorem carries_honest : Carries (Honest granted) := by
  intro request next frames later a done
  refine ⟨?_, fun answer => later answer _ fun h => Effort.done_next answer (done h)⟩
  cases request with
  | session call => cases call with
    | store => exact frames.elim
    | _ => trivial
  | _ => trivial

theorem honest_of_outward {p : Action WorkflowEvent (Except WorkflowError RecipientRow)}
    (outward : p.Within Outward fun _ => True) : Honest true p := by
  induction p with
  | pure outcome => exact fun a done r _ => done rfl
  | call request next ih =>
    refine fun a done => ⟨?_, fun answer =>
      ih answer (outward.2 answer) _ fun h => Effort.done_next answer (done h)⟩
    cases request with
    | session => exact outward.1.elim
    | _ => trivial

/-- Work that came to a value has written the row. -/
def Wrote (outcome : Except WorkflowError (WithEvents RecipientRow)) (a : Effort) : Prop :=
  ∀ b, outcome = .ok b → a.standing.written = true

theorem wrote_failed {a : Effort} (e : WorkflowError) : Wrote (.error e) a := nofun

theorem obeys_completion (comment : String) (a : Effort) :
    (completeIn requestId recipientId comment).run.Obeys Effort.rules Wrote a := by
  refine ⟨trivial, fun answer => ?_⟩
  cases answer with
  | error f => exact wrote_failed _
  | ok found =>
    cases found with
    | none => exact wrote_failed _
    | some request =>
      refine ⟨trivial, fun answer => ?_⟩
      cases answer with
      | error f => exact wrote_failed _
      | ok found =>
        cases found with
        | none => exact wrote_failed _
        | some row =>
          show Program.Obeys _ _ (ExceptT.run (if row.isCompleted then _ else _)) _
          cases row.isCompleted with
          | true => exact wrote_failed _
          | false =>
            refine ⟨trivial, fun now => ⟨rfl, fun answer => ?_⟩⟩
            cases answer with
            | error f => exact wrote_failed _
            | ok taken =>
              cases taken with
              | true => exact fun _ _ => rfl
              | false => exact wrote_failed _

/-- The commit of a row that was written is what a client needs to return it. -/
theorem obeys_afterBody {j : Job (WithEvents RecipientRow) RecipientRow} {left number : Nat}
    {outcome : Except WorkflowError (WithEvents RecipientRow)} {a : Effort}
    (outward : ∀ b, (j.conclude (.ok b)).Within Outward fun _ => True)
    (fails : ∀ e, Honest false (j.afterTransaction left number (.error e)))
    (wrote : Wrote outcome a) :
    (j.afterBody left number outcome).Obeys Effort.rules Earned a := by
  cases outcome with
  | error e => exact carries_honest.rollBack (fails e) a nofun
  | ok b =>
    refine ⟨trivial, fun answer => ?_⟩
    cases answer with
    | error f => exact carries_honest.rollBack (fails _) _ nofun
    | ok u =>
      have committed : (a.next (.session .commit) (.ok ())).done = true := by
        show (a.done || true && a.standing.written) = true
        rw [wrote b rfl, Bool.and_true, Bool.or_true]
      exact carries_honest.release (honest_of_outward (outward b)) _ fun _ => committed

/-- A client that completes the row returns it only after a transaction that wrote a completed one
was committed. -/
theorem effort_obeys (s : Service) (comment : String) :
    ((Touch.complete comment).action s requestId recipientId).run.Obeys Effort.rules Earned
      ⟨default, false⟩ := by
  rw [show ((Touch.complete comment).action s requestId recipientId).run = _ from
    Call.action_eq s (.submitCompletion requestId recipientId comment)]
  have rule : ((Call.submitCompletion requestId recipientId comment).job s ()).Rule
      (Honest false) :=
    { carries := carries_honest
      failed := fun _ _ _ => nofun
      body := fun left number fails a _ => (obeys_completion comment a).bind fun _ _ wrote =>
        obeys_afterBody
          (fun b => outward_conclude s (.submitCompletion requestId recipientId comment) () (.ok b))
          fails wrote }
  exact rule.action ⟨default, false⟩ nofun

end Appraisal.Postgres
