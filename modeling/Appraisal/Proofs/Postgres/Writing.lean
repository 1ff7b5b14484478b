import Appraisal.Proofs.Postgres.Database
import Appraisal.Proofs.Postgres.Statements

/-!
# What is written and read back

What is stored is read back.  The columns of an insertion and of an update, the names of the columns
that are read, and the literals line up for every record, request and recipient's row, in every
optional field.  The server keeps times in microseconds, so a time comes back cut off
(`keptRecord`, `keptRequest`, `kept`); a time of whole microseconds comes back as it was
(`keptTime_of_micros`).

Each call that writes is described by what it does to the rows of its table.  Saving a record adds a
row or writes over the one that has its key, which keeps the time at which it was made
(`performs_saveApproval_iff`).  An insertion adds a row unless its key is taken
(`performs_insertRequest_iff`, `performs_insertRecipient_iff`).  An update writes over a recipient's
row that is not completed, which keeps its keys and its role (`performs_updateRecipient_iff`).

Records and requests meet all constraints.  The row of a recipient meets them if its request is
there, and it is read if it is completed (`admits_recipientRow`).  So the calls that write it may be
rejected.
-/

namespace Appraisal

/-- A record saved over another one, which keeps the time at which it was made. -/
def ApprovalRecord.over (r old : ApprovalRecord) : ApprovalRecord :=
  { r with createdAt := old.createdAt }

namespace Postgres

/-! ## Times -/

/-- A time of whole microseconds outside every leap second is kept. -/
theorem keptTime_of_micros {t : Instant} (regular : t.nanos < 1000000000)
    (micros : t.nanos % 1000 = 0) : keptTime t = t := by
  obtain ⟨seconds, nanos, bound⟩ := t
  simp only at regular micros
  have whole : (Instant.mk seconds nanos bound).toNanos - Timestamp.startNanos =
      (seconds * 1000000 + nanos / 1000 - 946684800000000) * 1000 := by
    simp only [Instant.toNanos, Timestamp.startNanos]
    omega
  have nanoseconds : Timestamp.startNanos +
      (seconds * 1000000 + nanos / 1000 - 946684800000000) * 1000 =
        seconds * 1000000000 + nanos := by
    simp only [Timestamp.startNanos]
    omega
  rw [keptTime, Timestamp.ofInstant, Timestamp.instant, whole,
    Int.mul_tdiv_cancel _ (by decide), nanoseconds, Instant.ofNanos]
  congr
  · omega
  · omega

/-! ## Reading what was written -/

/-- The state of a step as it is read back. -/
def keptState (s : StepState) : StepState := { s with updatedAt := s.updatedAt.map keptTime }

/-- A record as it is read back. -/
def keptRecord (r : ApprovalRecord) : ApprovalRecord :=
  { r with
    criteria := keptState r.criteria
    selfEvaluation := keptState r.selfEvaluation
    primary := keptState r.primary
    secondary := keptState r.secondary
    createdAt := keptTime r.createdAt
    updatedAt := keptTime r.updatedAt }

/-- A view as it is read back. -/
def keptView (v : RequestView) : RequestView := ⟨keptRequest v.request, kept v.recipient⟩

theorem readOptional_id {row : Row} {name : String} {entity : Entity} {id : Option (Id entity)}
    (found : row.cell? name = some (optionCell id)) : row.readOptional name = .ok id := by
  cases id with
  | none => exact readOptional_of_null found
  | some id => exact readOptional_of_cell found nofun rfl

theorem readLiteral_of_text {α : Type} [Literal α] (a : α) :
    readLiteral (Literal.text a) = .ok a := by
  unfold readLiteral
  rw [Literal.read_text]

theorem readStep_recordRow (r : ApprovalRecord) (step : Step) :
    readStep (recordRow r) step = .ok (keptState (r.state step)) := by
  have cell : (recordRow r).cell? (step.text ++ "_status") =
      some (toCell (r.state step).status.text) := by
    cases step <;> rfl
  have status : (recordRow r).read (step.text ++ "_status") = .ok (r.state step).status.text :=
    read_of_cell cell nofun rfl
  have updatedBy : (recordRow r).readOptional (step.text ++ "_updated_by") =
      .ok (r.state step).updatedBy := readOptional_id (by cases step <;> rfl)
  have updatedAt : (recordRow r).readOptional (step.text ++ "_updated_at") =
      .ok ((r.state step).updatedAt.map keptTime) := readOptional_time (by cases step <;> rfl)
  have named : readLiteral (r.state step).status.text = .ok (r.state step).status :=
    readLiteral_of_text _
  simp only [readStep, status, updatedBy, updatedAt, named, bind, Except.bind, pure, Except.pure]
  rfl

theorem readRecord_recordRow (r : ApprovalRecord) :
    readRecord (recordRow r) = .ok (keptRecord r) := by
  have mappingId : (recordRow r).read "mapping_id" = .ok r.mappingId := read_of_cell rfl nofun rfl
  have createdAt : (recordRow r).read "created_at" = .ok (keptTime r.createdAt) :=
    read_of_cell rfl nofun rfl
  have updatedAt : (recordRow r).read "updated_at" = .ok (keptTime r.updatedAt) :=
    read_of_cell rfl nofun rfl
  simp only [readRecord, mappingId, createdAt, updatedAt, readStep_recordRow, bind, Except.bind,
    pure, Except.pure]
  rfl

/-! ## Rows of statements -/

/-- The insertion of a row that leaves nothing to the defaults. -/
theorem row_of_columns {i : Insert} {row : Row} {now : Timestamp}
    (columns : i.columns = row.map Prod.fst) (filled : defaults i.table now = []) :
    i.row (row.map Prod.snd) now = row := by
  rw [Insert.row, columns, filled, List.filter_nil, List.append_nil]
  exact (List.zip_of_prod rfl rfl).symm

theorem over_recordRow {old r : ApprovalRecord} (same : old.mappingId = r.mappingId) :
    OnConflict.over ⟨"mapping_id", stateColumns ++ ["updated_at"]⟩ (recordRow old) (recordRow r) =
      recordRow (r.over old) := by
  show recordRow { r with mappingId := old.mappingId, createdAt := old.createdAt } = _
  rw [same]
  rfl

/-- The update that `updateRow` sends. -/
def rowUpdate : Update :=
  ⟨recipientTable,
    [("is_read", 3), ("read_at", 4), ("is_completed", 5), ("completed_at", 6),
      ("response_comment", 7)],
    [.equals (own "revision_request_id") 1, .equals (own "recipient_id") 2,
      .isFalse (own "is_completed")]⟩

theorem of_updateRow (r old : RecipientRow) :
    rowUpdate.of (updateRow r).parameters (recipientRow old) = recipientRow (r.over old) := rfl

/-- A column of a row whose cells change under their names. -/
theorem cell?_map {row : Row} {name : String} {change : String × Cell → String × Cell}
    (names : ∀ cell, (change cell).1 = cell.1) :
    Row.cell? (row.map change) name =
      (row.reverse.find? fun cell => cell.1 == name).map fun cell => (change cell).2 := by
  have named : ((fun cell : String × Cell => cell.1 == name) ∘ change) =
      fun cell => cell.1 == name := funext fun cell => by simp only [Function.comp_apply, names]
  rw [Row.cell?, ← List.map_reverse, List.find?_map, named, Option.map_map]
  rfl

/-- A column that a change of a row leaves as it is. -/
theorem cell?_map_of_same {row : Row} {name : String} {change : String × Cell → String × Cell}
    (names : ∀ cell, (change cell).1 = cell.1) (same : ∀ cell, cell.1 = name → change cell = cell) :
    Row.cell? (row.map change) name = row.cell? name := by
  rw [cell?_map names, Row.cell?]
  refine Option.map_congr fun cell found => ?_
  rw [same cell (by simpa using List.find?_some found)]

theorem cell?_over {c : OnConflict} {old new : Row} {name : String} (h : name ∉ c.updated) :
    (c.over old new).cell? name = old.cell? name := by
  refine cell?_map_of_same (fun cell => ?_) fun cell named => ?_
  · split <;> rfl
  · rw [if_neg (by rwa [named])]

theorem cell?_over_of_mem {c : OnConflict} {old new : Row} {name : String} (h : name ∈ c.updated) :
    (c.over old new).cell? name = (old.cell? name).map fun _ => (new.cell? name).getD .null := by
  have names : ∀ cell : String × Cell, (if cell.1 ∈ c.updated then
      (cell.1, (new.cell? cell.1).getD .null) else cell).1 = cell.1 := fun cell => by
    split <;> rfl
  have shown : old.cell? name = (old.reverse.find? fun cell => cell.1 == name).map Prod.snd := rfl
  rw [OnConflict.over, cell?_map names, shown, Option.map_map]
  refine Option.map_congr fun cell found => ?_
  obtain rfl : cell.1 = name := by simpa using List.find?_some found
  simp only [if_pos h, Function.comp_apply]

theorem cell?_of_update {u : Update} {parameters : List Cell} {old : Row} {name : String}
    (h : u.assignments.lookup name = none) :
    (u.of parameters old).cell? name = old.cell? name := by
  refine cell?_map_of_same (fun cell => ?_) fun cell named => ?_
  · split <;> rfl
  · rw [named, h]

/-- A column equals a parameter that is not empty. -/
theorem holds_equals {column : Column} {n : Nat} {parameters : List Cell} {cell : Cell}
    (given : parameters[n - 1]? = some cell) (filled : cell ≠ .null) (row : Row) :
    (Condition.equals column n).holds parameters row =
      (row.cell? column.name == some cell) := by
  rw [Condition.holds, given]
  cases row.cell? column.name with
  | none => rfl
  | some other =>
    by_cases same : other = cell
    · simp [same, filled]
    · simp [same]

/-- The row has the values of another one. -/
def Row.has (row key : Row) : Bool := key.all fun c => row.cell? c.1 == some c.2

/-- The key of an approval record in its table. -/
def approvalKey (id : MappingId) : Row := [("mapping_id", toCell id)]

/-- The key of a revision request in its table. -/
def requestKey (id : RevisionRequestId) : Row := [("id", toCell id)]

/-- The key of a recipient's row in its table. -/
def recipientKey (requestId : RevisionRequestId) (recipientId : EmployeeId) : Row :=
  [("revision_request_id", toCell requestId), ("recipient_id", toCell recipientId)]

theorem toCell_inj {entity : Entity} {a b : Id entity} : toCell a = toCell b ↔ a = b := by
  obtain ⟨a⟩ := a
  obtain ⟨b⟩ := b
  simp [toCell]

theorem some_toCell_beq {entity : Entity} (a b : Id entity) :
    (some (toCell a) == some (toCell b)) = decide (a = b) := by
  rw [Bool.eq_iff_iff, beq_iff_eq, decide_eq_true_iff, Option.some_inj, toCell_inj]

@[simp] theorem has_approvalKey (r : ApprovalRecord) (id : MappingId) :
    (recordRow r).has (approvalKey id) = decide (r.mappingId = id) := by
  show (some (toCell r.mappingId) == some (toCell id) && true) = _
  rw [Bool.and_true, some_toCell_beq]

@[simp] theorem has_requestKey (q : RevisionRequest) (id : RevisionRequestId) :
    (requestRow q).has (requestKey id) = decide (q.id = id) := by
  show (some (toCell q.id) == some (toCell id) && true) = _
  rw [Bool.and_true, some_toCell_beq]

@[simp] theorem has_recipientKey (r : RecipientRow) (requestId : RevisionRequestId)
    (recipientId : EmployeeId) :
    (recipientRow r).has (recipientKey requestId recipientId) =
      (decide (r.requestId = requestId) && decide (r.recipientId = recipientId)) := by
  show (some (toCell r.requestId) == some (toCell requestId) &&
    (some (toCell r.recipientId) == some (toCell recipientId) && true)) = _
  rw [Bool.and_true, some_toCell_beq, some_toCell_beq]

theorem agrees_recordRow (r : ApprovalRecord) :
    (recordRow r).agrees ["mapping_id"] = (·.has (approvalKey r.mappingId)) := by
  funext row
  show (some (toCell r.mappingId) == row.cell? "mapping_id" && true) = _
  rw [Bool.beq_comm]
  rfl

theorem agrees_requestRow (q : RevisionRequest) :
    (requestRow q).agrees ["id"] = (·.has (requestKey q.id)) := by
  funext row
  show (some (toCell q.id) == row.cell? "id" && true) = _
  rw [Bool.beq_comm]
  rfl

theorem agrees_recipientRow (r : RecipientRow) :
    (recipientRow r).agrees ["revision_request_id", "recipient_id"] =
      (·.has (recipientKey r.requestId r.recipientId)) := by
  funext row
  show (some (toCell r.requestId) == row.cell? "revision_request_id" &&
    (some (toCell r.recipientId) == row.cell? "recipient_id" && true)) = _
  rw [Bool.beq_comm, @Bool.beq_comm _ _ _ (some (toCell r.recipientId))]
  rfl

/-- Rows that keep a key while they change are found as before. -/
theorem filter_map_has {key : Row} {change : Row → Row}
    (kept : ∀ row, (change row).has key = row.has key) (rows : List Row) :
    (rows.map change).filter (·.has key) = (rows.filter (·.has key)).map change := by
  rw [List.filter_map]
  congr 1
  exact List.filter_congr fun row _ => kept row

theorem has_over {c : OnConflict} {key : Row} (h : ∀ cell ∈ key, cell.1 ∉ c.updated)
    (old new : Row) : (c.over old new).has key = old.has key := by
  rw [Row.has, Row.has, Bool.eq_iff_iff, List.all_eq_true, List.all_eq_true]
  exact forall₂_congr fun cell listed => by rw [cell?_over (h cell listed)]

theorem has_of_update {u : Update} {key : Row}
    (h : ∀ cell ∈ key, u.assignments.lookup cell.1 = none) (parameters : List Cell) (old : Row) :
    (u.of parameters old).has key = old.has key := by
  rw [Row.has, Row.has, Bool.eq_iff_iff, List.all_eq_true, List.all_eq_true]
  exact forall₂_congr fun cell listed => by rw [cell?_of_update (h cell listed)]

namespace Database

/-- The rows of a table that have given values. -/
def under (db : Database) (table : String) (key : Row) : List Row :=
  (db.rows table).filter (·.has key)

variable {db after : Database} {drawn : List Uuid} {session : Session} {u : Unit}

section

variable {table : String} {key : Row}

theorem any_eq_false_of_under (free : db.under table key = []) :
    (db.rows table).any (·.has key) = false :=
  List.any_eq_false.2 (List.filter_eq_nil_iff.1 free)

theorem any_has_iff : (db.rows table).any (·.has key) = true ↔ db.under table key ≠ [] := by
  rw [under, List.any_eq_true, Ne, List.filter_eq_nil_iff]
  simp

theorem under_set_cons (free : db.under table key = []) {row : Row} (has : row.has key = true) :
    (db.set table (row :: db.rows table)).under table key = [row] := by
  rw [under] at free ⊢
  rw [rows_set_self, List.filter_cons, if_pos has, free]

end

/-! ## Constraints -/

/-- A row of a record meets all constraints if its statuses are some. -/
theorem admits_of_statuses {row : Row}
    (statuses : ∀ (step : Step) (text : String),
      (row.cell? (step.text ++ "_status")).bind CellType.ofCell? = some text →
        ∃ status : Status, text = status.text) :
    db.admits approvalTable row = true := by
  refine Bool.and_eq_true_iff.2 ⟨List.all_eq_true.2 fun check mem => ?_, rfl⟩
  obtain ⟨column, listed, rfl⟩ := List.mem_map.1 mem
  obtain ⟨step, rfl⟩ : ∃ step : Step, column = step.text ++ "_status" := by
    simp only [List.mem_cons, List.not_mem_nil, or_false] at listed
    rcases listed with rfl | rfl | rfl | rfl
    · exact ⟨.criteria, rfl⟩
    · exact ⟨.selfEvaluation, rfl⟩
    · exact ⟨.primary, rfl⟩
    · exact ⟨.secondary, rfl⟩
  refine (Option.all_eq_true _ _).2 fun text held => ?_
  obtain ⟨status, rfl⟩ := statuses step text held
  cases status <;> rfl

theorem cell?_status (r : ApprovalRecord) (step : Step) :
    (recordRow r).cell? (step.text ++ "_status") = some (toCell (r.state step).status.text) := by
  cases step <;> rfl

theorem admits_recordRow (r : ApprovalRecord) : db.admits approvalTable (recordRow r) = true := by
  refine admits_of_statuses fun step text held => ?_
  rw [cell?_status] at held
  exact ⟨_, (Option.some.inj held).symm⟩

/-- A row keeps the constraints when a record is saved over it. -/
theorem admits_over (r : ApprovalRecord) (old : Row) :
    db.admits approvalTable (OnConflict.over ⟨"mapping_id", stateColumns ++ ["updated_at"]⟩ old
      (recordRow r)) = true := by
  refine admits_of_statuses fun step text held => ?_
  rw [cell?_over_of_mem (by cases step <;> decide), cell?_status] at held
  obtain ⟨cell, shown, read⟩ := Option.bind_eq_some_iff.1 held
  obtain ⟨_, -, rfl⟩ := Option.map_eq_some_iff.1 shown
  exact ⟨_, (Option.some.inj read).symm⟩

theorem admits_requestRow (q : RevisionRequest) :
    db.admits requestTable (requestRow q) = true := by
  obtain ⟨id, mapping, period, employee, step, comment, by_, at_⟩ := q
  cases step <;> rfl

/-- The row of a recipient meets its constraints if it is read when it is completed, and its request
is there. -/
theorem admits_recipientRow {r : RecipientRow} :
    db.admits recipientTable (recipientRow r) = true ↔
      (r.isCompleted = true → r.isRead = true) ∧
        (db.rows requestTable).any (·.has (requestKey r.requestId)) = true := by
  have role : (Check.oneOf "recipient_type" ["evaluatee", "primary_evaluator",
      "secondary_evaluator"]).holds (recipientRow r) = true := by
    obtain ⟨requestId, recipientId, role, isRead, readAt, isCompleted, completedAt, comment⟩ := r
    cases role <;> rfl
  have read : (Check.implies "is_completed" "is_read").holds (recipientRow r) = true ↔
      (r.isCompleted = true → r.isRead = true) := by
    show (!(some (Cell.bool r.isCompleted) == some (.bool true) &&
      some (Cell.bool r.isRead) == some (.bool false))) = true ↔ _
    cases r.isCompleted <;> cases r.isRead <;> decide
  have requested : db.finds (recipientRow r) ⟨"revision_request_id", requestTable, "id"⟩ =
      (db.rows requestTable).any (·.has (requestKey r.requestId)) := by
    refine congrArg ((db.rows requestTable).any ·) (funext fun row => ?_)
    exact (Bool.and_true _).symm
  have split : db.admits recipientTable (recipientRow r) =
      ((Check.oneOf "recipient_type" ["evaluatee", "primary_evaluator",
        "secondary_evaluator"]).holds (recipientRow r) &&
        ((Check.implies "is_completed" "is_read").holds (recipientRow r) && true) &&
        (db.finds (recipientRow r) ⟨"revision_request_id", requestTable, "id"⟩ && true)) := rfl
  rw [split, role, requested, Bool.true_and, Bool.and_true, Bool.and_true, Bool.and_eq_true, read]

/-- A call that sends one statement and forgets the reply to it. -/
theorem performs_change_iff (connected : session.connected = true) {bound : Bound} :
    db.Performs (session.change bound) drawn u after ↔
      drawn = [] ∧ ∃ reply, db.Replies bound reply after := by
  have read : session.change bound =
      (do let reply ← session.send bound; Exchange.decoded ((fun _ => .ok ()) reply)) := rfl
  rw [read, performs_call_iff connected]
  exact and_congr_right fun _ => exists_congr fun _ => and_iff_left rfl

/-- A call that inserts a row and leaves nothing to the defaults. -/
theorem performs_insertion_iff (connected : session.connected = true) {table : String} {row : Row}
    {onConflict : Option OnConflict} (filled : defaults table db.now = []) :
    db.Performs (session.change ⟨.insert ⟨table, row.map Prod.fst, onConflict⟩,
        row.map Prod.snd⟩) drawn u after ↔
      drawn = [] ∧ ∃ rows, Insert.into? ⟨table, row.map Prod.fst, onConflict⟩ row
        (db.rows table) = some rows ∧ (db.Conforms → (db.set table rows).Conforms) ∧
        after = db.set table rows := by
  rw [performs_change_iff connected]
  refine and_congr_right fun _ => ?_
  simp only [replies_insert_iff, exists_eq_left]
  rw [row_of_columns rfl filled]

/-! ## Saving a record -/

/-- A row after a record is saved. -/
def saveOver (r : ApprovalRecord) (row : Row) : Row :=
  if row.has (approvalKey r.mappingId) then
    OnConflict.over ⟨"mapping_id", stateColumns ++ ["updated_at"]⟩ row (recordRow r)
  else row

/-- The rows of records after one is saved. -/
def savedRows (r : ApprovalRecord) (rows : List Row) : List Row :=
  if rows.any (·.has (approvalKey r.mappingId)) then rows.map (saveOver r) else recordRow r :: rows

theorem conforms_savedRows {r : ApprovalRecord} (conforms : db.Conforms) :
    (db.set approvalTable (savedRows r (db.rows approvalTable))).Conforms := by
  rw [savedRows]
  split
  · refine (conforms.set_iff (by decide) (by decide)).2 fun row stands => ?_
    obtain ⟨old, stood, rfl⟩ := List.mem_map.1 stands
    rw [saveOver]
    split
    · exact admits_over r old
    · exact conforms approvalTable (by decide) old stood
  · exact conforms.cons (admits_recordRow r)

/-- A record is always saved. -/
theorem performs_saveApproval_iff (connected : session.connected = true) {r : ApprovalRecord} :
    db.Performs (session.store (.saveApproval r)) drawn u after ↔
      drawn = [] ∧ after = db.set approvalTable (savedRows r (db.rows approvalTable)) := by
  have inserted : Insert.into? ⟨approvalTable, (recordRow r).map Prod.fst,
        some ⟨"mapping_id", stateColumns ++ ["updated_at"]⟩⟩ (recordRow r)
        (db.rows approvalTable) = some (savedRows r (db.rows approvalTable)) := by
    simp only [Insert.into?, Insert.added?, savedRows, keys, if_pos, List.any_cons, List.any_nil,
      Bool.or_false, agrees_recordRow]
    split
    · rfl
    · rfl
  refine (performs_insertion_iff connected rfl).trans ?_
  rw [inserted]
  simp only [Option.some.injEq, exists_eq_left', and_iff_right conforms_savedRows]

theorem saveOver_recordRow (r old : ApprovalRecord) :
    saveOver r (recordRow old) =
      recordRow (if old.mappingId = r.mappingId then r.over old else old) := by
  rw [saveOver, has_approvalKey]
  by_cases same : old.mappingId = r.mappingId
  · rw [if_pos (decide_eq_true same), if_pos same, over_recordRow same]
  · rw [if_neg (by simpa using same), if_neg same]

theorem has_saveOver (r : ApprovalRecord) (id : MappingId) (row : Row) :
    (saveOver r row).has (approvalKey id) = row.has (approvalKey id) := by
  rw [saveOver]
  split
  · refine has_over (fun cell listed => ?_) row _
    rw [List.mem_singleton.1 listed]
    show "mapping_id" ∉ stateColumns ++ ["updated_at"]
    decide
  · rfl

/-- The row of a record after it is saved: new if there was none, and otherwise the old one with new
states. -/
theorem under_savedRows {r : ApprovalRecord} {stored : Option ApprovalRecord}
    (held : db.under approvalTable (approvalKey r.mappingId) = (stored.map recordRow).toList) :
    (db.set approvalTable (savedRows r (db.rows approvalTable))).under approvalTable
        (approvalKey r.mappingId) = [recordRow (stored.elim r r.over)] := by
  rw [savedRows]
  cases stored with
  | none =>
    have unused : (db.rows approvalTable).any (·.has (approvalKey r.mappingId)) = false :=
      any_eq_false_of_under held
    rw [unused]
    exact under_set_cons held (by simp)
  | some old =>
    have stands : recordRow old ∈ db.under approvalTable (approvalKey r.mappingId) := by
      rw [held]
      exact List.mem_singleton.2 rfl
    obtain ⟨stored, keyed⟩ := List.mem_filter.1 stands
    have same : old.mappingId = r.mappingId := by simpa using keyed
    rw [under] at held ⊢
    rw [if_pos (List.any_eq_true.2 ⟨_, stored, keyed⟩), rows_set_self,
      filter_map_has (has_saveOver r _), held]
    show [saveOver r (recordRow old)] = _
    rw [saveOver_recordRow, if_pos same]
    rfl

/-! ## Insertions -/

/-- A call that inserts a row into a table with a single key. -/
theorem performs_newRow_iff (connected : session.connected = true) {table : String}
    {row keyRow : Row} {key : List String} (filled : defaults table db.now = [])
    (single : keys table = [key]) (agrees : row.agrees key = (·.has keyRow)) :
    db.Performs (session.change ⟨.insert ⟨table, row.map Prod.fst, none⟩, row.map Prod.snd⟩)
        drawn u after ↔
      drawn = [] ∧ (db.rows table).any (·.has keyRow) = false ∧
        (db.Conforms → (db.set table (row :: db.rows table)).Conforms) ∧
        after = db.set table (row :: db.rows table) := by
  have inserted : Insert.into? ⟨table, row.map Prod.fst, none⟩ row (db.rows table) =
      if (db.rows table).any (·.has keyRow) then none else some (row :: db.rows table) := by
    show (if (keys table).any _ = true then none else some _) = _
    simp only [single, List.any_cons, List.any_nil, Bool.or_false, agrees]
  refine (performs_insertion_iff connected filled).trans ?_
  rw [inserted]
  cases (db.rows table).any (·.has keyRow) with
  | true => simp
  | false => simp only [Bool.false_eq_true, if_false, Option.some.injEq, exists_eq_left', true_and]

theorem performs_insertRequest_iff (connected : session.connected = true) {q : RevisionRequest} :
    db.Performs (session.store (.insertRequest q)) drawn u after ↔
      drawn = [] ∧ (db.rows requestTable).any (·.has (requestKey q.id)) = false ∧
        after = db.set requestTable (requestRow q :: db.rows requestTable) := by
  have keeps (conforms : db.Conforms) :
      (db.set requestTable (requestRow q :: db.rows requestTable)).Conforms :=
    conforms.cons (admits_requestRow q)
  refine (performs_newRow_iff connected rfl rfl (agrees_requestRow q)).trans ?_
  rw [and_iff_right keeps]

theorem performs_insertRecipient_iff (connected : session.connected = true) {r : RecipientRow} :
    db.Performs (session.store (.insertRecipient r)) drawn u after ↔
      drawn = [] ∧
        (db.rows recipientTable).any (·.has (recipientKey r.requestId r.recipientId)) = false ∧
        (db.Conforms → (r.isCompleted = true → r.isRead = true) ∧
          (db.rows requestTable).any (·.has (requestKey r.requestId)) = true) ∧
        after = db.set recipientTable (recipientRow r :: db.rows recipientTable) := by
  have keeps : (db.Conforms →
      (db.set recipientTable (recipientRow r :: db.rows recipientTable)).Conforms) ↔
        (db.Conforms → (r.isCompleted = true → r.isRead = true) ∧
          (db.rows requestTable).any (·.has (requestKey r.requestId)) = true) :=
    forall_congr' fun conforms =>
      (conforms.cons_iff (by decide) (by decide)).trans admits_recipientRow
  rw [← keeps]
  exact performs_newRow_iff connected rfl rfl (agrees_recipientRow r)

/-! ## Updating a recipient's row -/

theorem meets_rowUpdate (r : RecipientRow) (row : Row) :
    meets rowUpdate (updateRow r).parameters row =
      (row.has (recipientKey r.requestId r.recipientId) &&
        row.cell? "is_completed" == some (.bool false)) := by
  have request : (updateRow r).parameters[1 - 1]? = some (toCell r.requestId) := rfl
  have recipient : (updateRow r).parameters[2 - 1]? = some (toCell r.recipientId) := rfl
  rw [meets, rowUpdate, List.all_cons, List.all_cons, holds_equals request nofun,
    holds_equals recipient nofun, ← Bool.and_assoc]
  simp [Row.has, recipientKey, Condition.holds, own]

/-- A row after the update of a recipient's row. -/
def writeOver (r : RecipientRow) (row : Row) : Row :=
  if meets rowUpdate (updateRow r).parameters row then rowUpdate.of (updateRow r).parameters row
  else row

theorem performs_updateRecipient_iff (connected : session.connected = true) {r : RecipientRow}
    {b : Bool} :
    db.Performs (session.store (.updateRecipient r)) drawn b after ↔
      drawn = [] ∧
        b = ((db.rows recipientTable).countP (meets rowUpdate (updateRow r).parameters) == 1) ∧
        (db.Conforms → after.Conforms) ∧
        after = db.set recipientTable ((db.rows recipientTable).map (writeOver r)) := by
  have called : db.Performs (session.store (.updateRecipient r)) drawn b after ↔
      drawn = [] ∧ ∃ reply, db.Replies (updateRow r) reply after ∧
        (Except.ok (reply.affected == 1) : Except Failure Bool) = .ok b :=
    @performs_call_iff _ _ _ _ _ _ connected _ fun reply => .ok (reply.affected == 1)
  rw [called]
  refine and_congr_right fun _ => ?_
  constructor
  · rintro ⟨reply, replied, counted⟩
    obtain ⟨rfl, keeps, rfl⟩ := replies_update_iff.1 replied
    cases counted
    exact ⟨rfl, keeps, rfl⟩
  · rintro ⟨rfl, keeps, rfl⟩
    exact ⟨_, replies_update_iff.2 ⟨rfl, keeps, rfl⟩, rfl⟩

theorem meets_recipientRow (r old : RecipientRow) :
    meets rowUpdate (updateRow r).parameters (recipientRow old) =
      (decide (old.requestId = r.requestId) && decide (old.recipientId = r.recipientId) &&
        !old.isCompleted) := by
  rw [meets_rowUpdate, has_recipientKey]
  congr 1
  show (some (Cell.bool old.isCompleted) == some (.bool false)) = _
  cases old.isCompleted <;> rfl

theorem has_writeOver (r : RecipientRow) (requestId : RevisionRequestId)
    (recipientId : EmployeeId) (row : Row) :
    (writeOver r row).has (recipientKey requestId recipientId) =
      row.has (recipientKey requestId recipientId) := by
  rw [writeOver]
  split
  · refine has_of_update (fun cell listed => ?_) _ row
    simp only [recipientKey, List.mem_cons, List.not_mem_nil, or_false] at listed
    obtain rfl | rfl := listed <;> rfl
  · rfl

/-- A recipient's row that is not completed is the only one that an update changes. -/
theorem countP_rowUpdate {r old : RecipientRow}
    (held : db.under recipientTable (recipientKey r.requestId r.recipientId) = [recipientRow old])
    (unfinished : old.isCompleted = false) :
    (db.rows recipientTable).countP (meets rowUpdate (updateRow r).parameters) = 1 := by
  rw [under] at held
  have split : meets rowUpdate (updateRow r).parameters = fun row =>
      row.cell? "is_completed" == some (.bool false) &&
        row.has (recipientKey r.requestId r.recipientId) :=
    funext fun row => by rw [meets_rowUpdate, Bool.and_comm]
  rw [split, List.countP_eq_length_filter, ← List.filter_filter, held]
  have shown : (recipientRow old).cell? "is_completed" = some (.bool false) := by
    rw [← unfinished]
    rfl
  simp [shown]

theorem under_writeOver {r old : RecipientRow}
    (held : db.under recipientTable (recipientKey r.requestId r.recipientId) = [recipientRow old])
    (unfinished : old.isCompleted = false) :
    (db.set recipientTable ((db.rows recipientTable).map (writeOver r))).under recipientTable
        (recipientKey r.requestId r.recipientId) = [recipientRow (r.over old)] := by
  have stands : recipientRow old ∈ db.under recipientTable
      (recipientKey r.requestId r.recipientId) := by
    rw [held]
    exact List.mem_singleton.2 rfl
  have keyed := (List.mem_filter.1 stands).2
  rw [under] at held ⊢
  rw [rows_set_self, filter_map_has (has_writeOver r _ _), held, List.map_singleton, writeOver,
    if_pos, of_updateRow]
  rw [has_recipientKey] at keyed
  rw [meets_recipientRow, keyed, unfinished]
  rfl

/-- The constraints hold after an update if a row that is completed by it is read. -/
theorem conforms_writeOver_iff (conforms : db.Conforms) {r old : RecipientRow}
    (held : db.under recipientTable (recipientKey r.requestId r.recipientId) = [recipientRow old])
    (unfinished : old.isCompleted = false) :
    (db.set recipientTable ((db.rows recipientTable).map (writeOver r))).Conforms ↔
      (r.isCompleted = true → r.isRead = true) := by
  have known : recipientTable ∈ tables := by decide
  have here : ∀ {row}, row ∈ db.rows recipientTable →
      meets rowUpdate (updateRow r).parameters row = true → row = recipientRow old := by
    intro row stands met
    rw [meets_rowUpdate, Bool.and_eq_true] at met
    have under : row ∈ db.under recipientTable (recipientKey r.requestId r.recipientId) :=
      List.mem_filter.2 ⟨stands, met.1⟩
    rwa [held, List.mem_singleton] at under
  have held' : recipientRow old ∈
      db.under recipientTable (recipientKey r.requestId r.recipientId) := by
    rw [held]
    exact List.mem_singleton.2 rfl
  have stands := (List.mem_filter.1 held').1
  have met : meets rowUpdate (updateRow r).parameters (recipientRow old) = true := by
    rw [meets_rowUpdate, (List.mem_filter.1 held').2]
    show (true && some (Cell.bool old.isCompleted) == some (.bool false)) = true
    rw [unfinished]
    rfl
  have requested := (admits_recipientRow.1 (conforms recipientTable known _ stands)).2
  have admitted : db.admits recipientTable (rowUpdate.of (updateRow r).parameters
      (recipientRow old)) = true ↔ (r.isCompleted = true → r.isRead = true) := by
    rw [of_updateRow]
    exact admits_recipientRow.trans (and_iff_left requested)
  rw [conforms.set_iff known (by decide), ← admitted, List.forall_mem_map]
  constructor
  · intro kept
    have own := kept _ stands
    rwa [writeOver, if_pos met] at own
  · intro kept row there
    rw [writeOver]
    split
    · rename_i changes
      rwa [here there changes]
    · exact conforms recipientTable known row there

end Database

end Postgres

end Appraisal
