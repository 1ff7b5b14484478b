import Appraisal.Postgres.Queries

/-!
# Mappings on the server

A mapping is a row of its own and a line for each evaluator, which says whether they are the
primary evaluator or a secondary one.  Lines are read in the order in which they were made.  The
first primary line counts, a secondary evaluator counts once, and lines of any other type do not
count.
-/

namespace Appraisal.Postgres

/-- The table of mappings. -/
def mappingTable : String := "evaluation_period_employee_mapping"

/-- The table of evaluators' lines. -/
def lineTable : String := "evaluation_line_mapping"

/-! ## Lines -/

/-- A line: an evaluator, and in which way they evaluate. -/
structure Line where
  /-- The evaluator. -/
  evaluator : EmployeeId
  /-- The way, as it is stored. -/
  type : String
deriving DecidableEq

/-- The type of the primary evaluator's line. -/
def primaryType : String := "primary"

/-- The type of a secondary evaluator's line. -/
def secondaryType : String := "secondary"

/-- The mapping after one more line. -/
def addLine (m : EvaluationMapping) (line : Line) : EvaluationMapping :=
  if line.type = primaryType then
    if m.primaryEvaluator.isNone then m.withPrimary line.evaluator else m
  else if line.type = secondaryType then
    if line.evaluator ∈ m.secondaryEvaluators then m else m.addSecondary line.evaluator
  else m

/-- The mapping after its lines. -/
def addLines (m : EvaluationMapping) (lines : List Line) : EvaluationMapping :=
  lines.foldl addLine m

/-- The lines of a mapping. -/
def linesOf (m : EvaluationMapping) : List Line :=
  (m.primaryEvaluator.toList.map (⟨·, primaryType⟩)) ++
    m.secondaryEvaluators.map (⟨·, secondaryType⟩)

/-! ## Reading -/

/-- The query for the row of a mapping. -/
def selectMapping (id : MappingId) : Bound :=
  ⟨.select (selectWhere (.columns (["id", "evaluation_period_id", "employee_id"].map own))
      ⟨mappingTable, none⟩ [.equals (own "id") 1, .isNull (own "deleted_at")] []),
    [toCell id]⟩

/-- The query for the lines of a mapping. -/
def selectLines (m : EvaluationMapping) : Bound :=
  ⟨.select (selectWhere (.columns (["evaluator_id", "evaluator_type"].map own))
      ⟨lineTable, none⟩
      [.equals (own "evaluation_period_id") 1, .equals (own "employee_id") 2,
        .isNull (own "deleted_at")]
      [(own "created_at", .ascending), (own "id", .ascending)]),
    [toCell m.periodId, toCell m.employeeId]⟩

/-- Reads the row of a mapping. -/
def readMapping (row : Row) : Except Failure EvaluationMapping := do
  let id ← row.read "id"
  let periodId ← row.read "evaluation_period_id"
  let employeeId ← row.read "employee_id"
  return .fresh id periodId employeeId

/-- Reads a line. -/
def readLine (row : Row) : Except Failure Line := do
  let evaluator ← row.read "evaluator_id"
  let type ← row.read "evaluator_type"
  return ⟨evaluator, type⟩

/-- Sends a statement over a connection of the pool. -/
def sendPooled (bound : Bound) : FallibleExchange Reply := do
  Exchange.acquire
  Exchange.send bound.statement bound.parameters

/-- Looks a mapping up. -/
def findMapping (id : MappingId) : FallibleExchange (Option EvaluationMapping) := do
  let reply ← sendPooled (selectMapping id)
  match ← Exchange.decoded (readFirstRow? readMapping reply.rows) with
  | none => return none
  | some mapping =>
    let reply ← sendPooled (selectLines mapping)
    let lines ← Exchange.decoded (readRows readLine reply.rows)
    return some (addLines mapping lines)

/-! ## Registering -/

/-- The insertion of the row of a mapping. -/
def insertMapping (m : EvaluationMapping) : Bound :=
  insertNew mappingTable [
    ("id", toCell m.id),
    ("evaluation_period_id", toCell m.periodId),
    ("employee_id", toCell m.employeeId)]

/-- The insertion of a line of a mapping, under an identifier of its own. -/
def insertLine (m : EvaluationMapping) (id : Uuid) (line : Line) : Bound :=
  insertNew lineTable [
    ("id", toCell id),
    ("evaluation_period_id", toCell m.periodId),
    ("employee_id", toCell m.employeeId),
    ("evaluator_id", toCell line.evaluator),
    ("evaluator_type", toCell line.type)]

/-- Sends a statement and forgets its answer. -/
def sendOnly (bound : Bound) : FallibleExchange Unit := do
  let _ ← Exchange.send bound.statement bound.parameters

/-- Inserts lines of a mapping. -/
def insertLines (m : EvaluationMapping) : List Line → FallibleExchange Unit
  | [] => return ()
  | line :: lines => do
    let id ← ExceptT.lift Exchange.freshUuid
    sendOnly (insertLine m id line)
    insertLines m lines

/-- Inserts a mapping and its lines and commits. -/
def insertAndCommit (m : EvaluationMapping) : FallibleExchange Unit := do
  sendOnly (insertMapping m)
  insertLines m (linesOf m)
  sendOnly ⟨.commit, []⟩

/-- Stores a mapping and its lines in one transaction.  A transaction that began and did not commit
is rolled back. -/
def registerMapping (m : EvaluationMapping) : FallibleExchange Unit := do
  Exchange.acquire
  sendOnly ⟨.begin none, []⟩
  ExceptT.mk do
    match ← (insertAndCommit m).run with
    | .ok () => return .ok ()
    | .error f =>
      let _ ← (sendOnly ⟨.rollback, []⟩).run
      return .error f

end Appraisal.Postgres
