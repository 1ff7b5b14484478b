import Appraisal.Revision

/-!
# Evaluation mappings

A mapping pairs an employee with an evaluation period and names the evaluators.  The criteria of a
mapping are agreed between the evaluatee and the primary evaluator; every other step goes back to
whoever wrote it.
-/

namespace Appraisal

/-- The pairing of an employee with an evaluation period. -/
structure EvaluationMapping where
  /-- The mapping. -/
  id : MappingId
  /-- The evaluation period. -/
  periodId : PeriodId
  /-- The employee under evaluation. -/
  employeeId : EmployeeId
  /-- The primary evaluator, if there is one. -/
  primaryEvaluator : Option EmployeeId
  /-- The secondary evaluators. -/
  secondaryEvaluators : List EmployeeId
deriving DecidableEq

namespace EvaluationMapping

/-- A mapping without evaluators. -/
def fresh (id : MappingId) (periodId : PeriodId) (employeeId : EmployeeId) : EvaluationMapping :=
  ⟨id, periodId, employeeId, none, []⟩

/-- The mapping with another primary evaluator. -/
def withPrimary (m : EvaluationMapping) (evaluator : EmployeeId) : EvaluationMapping :=
  { m with primaryEvaluator := some evaluator }

/-- The mapping with one more secondary evaluator, last. -/
def addSecondary (m : EvaluationMapping) (evaluator : EmployeeId) : EvaluationMapping :=
  { m with secondaryEvaluators := m.secondaryEvaluators ++ [evaluator] }

/-- The evaluatee as a recipient. -/
def evaluatee (m : EvaluationMapping) : Recipient := ⟨m.employeeId, .evaluatee⟩

/-- The primary evaluator as a recipient, if there is one. -/
def primary (m : EvaluationMapping) : List Recipient :=
  m.primaryEvaluator.toList.map (⟨·, .primaryEvaluator⟩)

/-- Who is asked to revise a step when nobody is named. -/
def defaultRecipients (m : EvaluationMapping) : Step → List Recipient
  | .criteria => m.evaluatee :: m.primary
  | .selfEvaluation => [m.evaluatee]
  | .primary => m.primary
  | .secondary => m.secondaryEvaluators.map (⟨·, .secondaryEvaluator⟩)

/-- The recipients named, each employee once, or else the step's defaults. -/
def recipientsFor (m : EvaluationMapping) (step : Step) (named : List Recipient) :
    List Recipient :=
  if named.isEmpty then m.defaultRecipients step else Recipient.distinct named

end EvaluationMapping

end Appraisal
