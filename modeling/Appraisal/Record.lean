import Appraisal.Identifier
import Appraisal.Step
import Appraisal.Time.Instant

/-!
# Approval records

The approval record of a mapping holds the state of each step: its status, and when and by whom it
was last changed.  `state_withState_self` and `state_withState_of_ne` say that changing one step
changes that step alone.
-/

namespace Appraisal

/-- The state of one step. -/
structure StepState where
  /-- The status. -/
  status : Status
  /-- When it last changed, if it ever did. -/
  updatedAt : Option Instant
  /-- Who last changed it. -/
  updatedBy : Option EmployeeId
deriving DecidableEq

/-- A step that nobody has touched is pending. -/
instance : Inhabited StepState := ⟨⟨.pending, none, none⟩⟩

/-- The states of all steps of a mapping. -/
structure ApprovalRecord where
  /-- The mapping. -/
  mappingId : MappingId
  /-- The state of the criteria. -/
  criteria : StepState
  /-- The state of the evaluatee's own evaluation. -/
  selfEvaluation : StepState
  /-- The state of the primary evaluator's evaluation. -/
  primary : StepState
  /-- The state of the secondary evaluators' evaluation. -/
  secondary : StepState
  /-- When the record was made. -/
  createdAt : Instant
  /-- When it last changed. -/
  updatedAt : Instant
deriving DecidableEq

namespace ApprovalRecord

/-- A record with every step pending. -/
def fresh (mappingId : MappingId) (now : Instant) : ApprovalRecord :=
  ⟨mappingId, default, default, default, default, now, now⟩

/-- The state of a step. -/
def state (r : ApprovalRecord) : Step → StepState
  | .criteria => r.criteria
  | .selfEvaluation => r.selfEvaluation
  | .primary => r.primary
  | .secondary => r.secondary

/-- The record with another state for one step. -/
def withState (r : ApprovalRecord) (step : Step) (s : StepState) : ApprovalRecord :=
  match step with
  | .criteria => { r with criteria := s }
  | .selfEvaluation => { r with selfEvaluation := s }
  | .primary => { r with primary := s }
  | .secondary => { r with secondary := s }

/-- The status of a step. -/
def status (r : ApprovalRecord) (step : Step) : Status := (r.state step).status

/-- The record after somebody gave a step a status. -/
def change (r : ApprovalRecord) (step : Step) (status : Status) (by_ : EmployeeId)
    (now : Instant) : ApprovalRecord :=
  { r.withState step ⟨status, some now, some by_⟩ with updatedAt := now }

@[simp] theorem state_withState_self (r : ApprovalRecord) (step : Step) (s : StepState) :
    (r.withState step s).state step = s := by
  cases step <;> rfl

theorem state_withState_of_ne (r : ApprovalRecord) {step other : Step} (s : StepState)
    (h : step ≠ other) : (r.withState step s).state other = r.state other := by
  cases step <;> cases other <;> first | rfl | exact absurd rfl h

@[simp] theorem state_fresh (id : MappingId) (now : Instant) (step : Step) :
    (fresh id now).state step = default := by
  cases step <;> rfl

@[simp] theorem mappingId_withState (r : ApprovalRecord) (step : Step) (s : StepState) :
    (r.withState step s).mappingId = r.mappingId := by
  cases step <;> rfl

@[simp] theorem createdAt_withState (r : ApprovalRecord) (step : Step) (s : StepState) :
    (r.withState step s).createdAt = r.createdAt := by
  cases step <;> rfl

end ApprovalRecord

end Appraisal
