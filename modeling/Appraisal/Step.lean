import Appraisal.Literal

/-!
# Steps, statuses and roles

An evaluation has four steps.  Each step has a status of its own, and recipients of a revision
request receive it in a role.
-/

namespace Appraisal

/-- An evaluation step that carries its own approval status. -/
inductive Step
  /-- Agreeing on the criteria. -/
  | criteria
  /-- The evaluation by the evaluatee. -/
  | selfEvaluation
  /-- The evaluation by the primary evaluator. -/
  | primary
  /-- The evaluation by the secondary evaluators. -/
  | secondary
deriving DecidableEq, Repr

/-- The approval status of a step. -/
inductive Status
  /-- Nobody has decided yet. -/
  | pending
  /-- The step is approved. -/
  | approved
  /-- Somebody was asked to revise the step. -/
  | revisionRequested
deriving DecidableEq, Repr, Inhabited

/-- The role in which a recipient receives a revision request. -/
inductive Role
  /-- The employee under evaluation. -/
  | evaluatee
  /-- The primary evaluator. -/
  | primaryEvaluator
  /-- A secondary evaluator. -/
  | secondaryEvaluator
deriving DecidableEq, Repr

/-- The steps in their order. -/
def Step.all : List Step := [.criteria, .selfEvaluation, .primary, .secondary]

/-- The name of a step. -/
def Step.text : Step → String
  | .criteria => "criteria"
  | .selfEvaluation => "self"
  | .primary => "primary"
  | .secondary => "secondary"

/-- The name of a status. -/
def Status.text : Status → String
  | .pending => "pending"
  | .approved => "approved"
  | .revisionRequested => "revision_requested"

/-- The name of a role. -/
def Role.text : Role → String
  | .evaluatee => "evaluatee"
  | .primaryEvaluator => "primary_evaluator"
  | .secondaryEvaluator => "secondary_evaluator"

instance : Literal Step where
  field := "step"
  all := Step.all
  text := Step.text
  mem_all a := by cases a <;> decide
  text_inj := by intro a b; cases a <;> cases b <;> decide

instance : Literal Status where
  field := "status"
  all := [.pending, .approved, .revisionRequested]
  text := Status.text
  mem_all a := by cases a <;> decide
  text_inj := by intro a b; cases a <;> cases b <;> decide

instance : Literal Role where
  field := "recipient type"
  all := [.evaluatee, .primaryEvaluator, .secondaryEvaluator]
  text := Role.text
  mem_all a := by cases a <;> decide
  text_inj := by intro a b; cases a <;> cases b <;> decide

end Appraisal
