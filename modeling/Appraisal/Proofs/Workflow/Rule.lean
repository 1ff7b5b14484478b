import Appraisal.Proofs.Concurrent.Settling
import Appraisal.Proofs.Prospect

/-!
# A rule for jobs

The attempts of a job wrap its work in the same requests every time: they open a session, begin and
end a transaction, roll back, release, tell and wait.  Many properties of programs pass from all
answers of such a request to the request itself (`Carries`).

A property of this kind holds of a job if it holds of one attempt, provided that it holds of what
follows a failed one (`Job.Rule.action`).  So the attempts are counted here, and nowhere else.
-/

namespace Appraisal.Workflow

/-- The request sets up or takes down a transaction, tells something, or waits. -/
def Frames : Request WorkflowEvent → Prop
  | .openSession | .sleep _ | .signal _ => True
  | .session (.begin _) | .session .commit | .session .rollback | .session .release => True
  | _ => False

/-- The property passes over the requests that attempts are made of. -/
def Carries {α : Type} (P : Action WorkflowEvent α → Prop) : Prop :=
  ∀ (request : Request WorkflowEvent) (next : request.Answer → Action WorkflowEvent α),
    Frames request → (∀ answer, P (next answer)) → P (.call request next)

variable {β V : Type} {j : Job β V} {left number : Nat}

namespace Carries

theorem release {α : Type} {P : Action WorkflowEvent α → Prop} (carries : Carries P)
    {k : Unit → Action WorkflowEvent α} (rest : P (k ())) : P (j.release >>= k) := by
  refine carries (.session .release) _ trivial fun answer => ?_
  cases answer with
  | ok u => exact rest
  | error f => exact carries (.signal _) _ trivial fun _ => rest

theorem rollBack {α : Type} {P : Action WorkflowEvent α → Prop} (carries : Carries P)
    {k : Unit → Action WorkflowEvent α} (rest : P (k ())) : P (j.rollBack >>= k) := by
  refine carries (.session .rollback) _ trivial fun answer => ?_
  cases answer with
  | ok u => exact rest
  | error f => exact carries (.signal _) _ trivial fun _ => rest

/-- What follows the work: the end of the call, or of a failed attempt. -/
theorem afterBody {P : Action WorkflowEvent (Except WorkflowError V) → Prop} (carries : Carries P)
    (fails : ∀ e, P (j.afterTransaction left number (.error e)))
    {outcome : Except WorkflowError β} (concluded : ∀ b, outcome = .ok b → P (j.conclude (.ok b))) :
    P (j.afterBody left number outcome) := by
  cases outcome with
  | error e => exact carries.rollBack (fails e)
  | ok b =>
    refine carries (.session .commit) _ trivial fun answer => ?_
    cases answer with
    | ok u => exact carries.release (concluded b rfl)
    | error f => exact carries.rollBack (fails _)

end Carries

namespace Job

/-- What makes a property hold of a job: it holds of the work and of what follows it, as soon as it
holds of what follows a failed attempt. -/
structure Rule (j : Job β V) (P : Action WorkflowEvent (Except WorkflowError V) → Prop) :
    Prop where
  carries : Carries P
  failed : ∀ e, P (pure (.error e))
  body : ∀ left number, (∀ e, P (j.afterTransaction left number (.error e))) →
    P (j.body >>= j.afterBody left number)

namespace Rule

variable {P : Action WorkflowEvent (Except WorkflowError V) → Prop}

/-- The property holds of what is left if a raw failure ends an attempt. -/
def Resumes (j : Job β V) (P : Action WorkflowEvent (Except WorkflowError V) → Prop)
    (left number : Nat) : Prop :=
  ∀ f, P (j.afterAttempt left number (.error (.storage f)) >>= j.conclude)

theorem fails_of_resumes (rule : j.Rule P) (resumes : Resumes j P left number)
    (e : WorkflowError) : P (j.afterTransaction left number (.error e)) := by
  refine rule.carries.release ?_
  cases raw : WorkError.failure? e with
  | none =>
    rw [afterAttempt, raw]
    exact rule.carries (.signal _) _ trivial fun _ => rule.failed e
  | some f =>
    obtain rfl := Memory.eq_storage_of_failure? raw
    exact resumes f

theorem attempt (rule : j.Rule P) (resumes : Resumes j P left number) :
    P (j.attempts left number >>= j.conclude) := by
  rw [attempts_bind]
  refine rule.carries .openSession _ trivial fun opening => ?_
  cases opening with
  | error f => exact resumes f
  | ok u =>
    refine rule.carries (.session (.begin _)) _ trivial fun begun => ?_
    cases begun with
    | error f => exact rule.fails_of_resumes resumes _
    | ok u => exact rule.body left number (rule.fails_of_resumes resumes)

theorem resumes (rule : j.Rule P) (left number : Nat) : Resumes j P left number := by
  have givesUp : ∀ number f, P ((do
      let e ← (Coordinator.giveUp j.context number f : Action WorkflowEvent WorkflowError)
      return .error e) >>= j.conclude) := fun number f =>
    rule.carries (.signal _) _ trivial fun _ => rule.carries (.signal _) _ trivial fun _ =>
      rule.carries (.signal _) _ trivial fun _ => rule.failed _
  -- on the attempts left: a failed attempt is followed by the next one, or by the end
  induction left generalizing number with
  | zero => exact fun f => givesUp number f
  | succ left ih =>
    intro f
    show P ((if j.policy.shouldRetry f.kind number then _ else _) >>= _)
    split
    · exact rule.carries (.signal _) _ trivial fun _ => rule.carries (.signal _) _ trivial fun _ =>
        rule.carries (.sleep _) _ trivial fun _ => rule.attempt (ih (number + 1))
    · exact givesUp number f

/-- The property holds of what follows a failed transaction. -/
theorem fails (rule : j.Rule P) (left number : Nat) (e : WorkflowError) :
    P (j.afterTransaction left number (.error e)) :=
  rule.fails_of_resumes (rule.resumes left number) e

/-- The property holds of the job from its first count to its end. -/
theorem action (rule : j.Rule P) : P j.action :=
  rule.carries (.signal _) _ trivial fun _ => rule.attempt (rule.resumes _ _)

end Rule

end Job

end Appraisal.Workflow
