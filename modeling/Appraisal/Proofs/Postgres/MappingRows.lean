import Appraisal.Proofs.Postgres.Writing

/-!
# Rows of mappings

A mapping is registered in one transaction, and its row and those of its lines are made at one time.
Each line has an identifier of its own, which is drawn at random (`rows_registerMapping`).

A registration succeeds on every database in which the mapping is new and no identifier that it
draws is taken (`registerMapping_succeeds`).
-/

namespace Appraisal.Postgres

/-! ## Rows -/

/-- The row of a mapping. -/
def mappingRow (m : EvaluationMapping) (now : Timestamp) : Row := [
  ("id", toCell m.id),
  ("evaluation_period_id", toCell m.periodId),
  ("employee_id", toCell m.employeeId),
  ("created_at", .timestamp now),
  ("deleted_at", .null)]

/-- The row of a line of a mapping. -/
def lineRow (m : EvaluationMapping) (now : Timestamp) (entry : Uuid × Line) : Row := [
  ("id", toCell entry.1),
  ("evaluation_period_id", toCell m.periodId),
  ("employee_id", toCell m.employeeId),
  ("evaluator_id", toCell entry.2.evaluator),
  ("evaluator_type", toCell entry.2.type),
  ("created_at", .timestamp now),
  ("deleted_at", .null)]

/-- What the lines of a mapping have in common. -/
def lineKey (m : EvaluationMapping) : Row :=
  [("evaluation_period_id", toCell m.periodId), ("employee_id", toCell m.employeeId)]

theorem has_lineRow (m : EvaluationMapping) (now : Timestamp) (entry : Uuid × Line) :
    (lineRow m now entry).has (lineKey m) = true := by
  show (some (toCell m.periodId) == some (toCell m.periodId) &&
    (some (toCell m.employeeId) == some (toCell m.employeeId) && true)) = true
  simp

@[simp] theorem has_lineRow_id (m : EvaluationMapping) (now : Timestamp) (entry : Uuid × Line)
    (id : Uuid) : (lineRow m now entry).has [("id", toCell id)] = decide (entry.1 = id) := by
  show (some (Cell.uuid entry.1) == some (Cell.uuid id) && true) = _
  rw [Bool.and_true, Bool.eq_iff_iff, beq_iff_eq, decide_eq_true_iff, Option.some_inj,
    Cell.uuid.injEq]

namespace Database

variable {db mid after : Database} {drawn : List Uuid} {m : EvaluationMapping} {u : Unit}

theorem set_set (db : Database) (table : String) (rows rows' : List Row) :
    (db.set table rows).set table rows' = db.set table rows' := by
  show Database.mk (Function.update (Function.update db.rows table rows) table rows') db.now = _
  rw [Function.update_idem]
  rfl

/-! ## Writing -/

theorem performs_sendOnly_iff {bound : Bound} :
    db.Performs (sendOnly bound) drawn u after ↔
      drawn = [] ∧ ∃ reply, db.Replies bound reply after := by
  rw [sendOnly, performs_bind_iff]
  constructor
  · rintro ⟨drawn₁, drawn₂, reply, mid, rfl, sent, ended⟩
    obtain ⟨rfl, replied⟩ := performs_send_iff.1 sent
    obtain ⟨rfl, -, rfl⟩ := performs_pure_iff.1 ended
    exact ⟨rfl, reply, replied⟩
  · rintro ⟨rfl, reply, replied⟩
    exact ⟨[], [], reply, after, rfl, performs_send_iff.2 ⟨rfl, replied⟩,
      performs_pure_iff.2 ⟨rfl, rfl, rfl⟩⟩

/-- A mapping that is registered is inserted in one transaction. -/
theorem performs_registerMapping_iff :
    db.Performs (registerMapping m) drawn u after ↔
      ∃ now, Performs { db with now } (insertAndCommit m) drawn () after := by
  constructor
  · intro performed
    obtain ⟨_, later, _, _, rfl, acquired, opened⟩ := performs_bind_iff.1 performed
    obtain ⟨rfl, rfl⟩ := performs_acquire_iff.1 acquired
    obtain ⟨_, later, _, _, rfl, begun, guarded⟩ := performs_bind_iff.1 opened
    obtain ⟨rfl, reply, replied⟩ := performs_sendOnly_iff.1 begun
    obtain ⟨trace, ran, given⟩ := guarded
    cases replied with
    | begin _ now =>
      refine ⟨now, ?_⟩
      obtain ⟨first, outcome, second, rfl, inserted, ended⟩ := Program.runs_bind_iff.1 ran
      cases outcome with
      | ok _ =>
        obtain ⟨rfl, -⟩ := Program.runs_pure_iff.1 ended
        rw [List.append_nil] at given
        exact ⟨first, inserted, given⟩
      | error f =>
        obtain ⟨_, _, _, rfl, -, ended⟩ := Program.runs_bind_iff.1 ended
        cases (Program.runs_pure_iff.1 ended).2
  · rintro ⟨now, trace, inserted, given⟩
    refine performs_bind_iff.2 ⟨[], drawn, (), db, rfl, performs_acquire_iff.2 ⟨rfl, rfl⟩, ?_⟩
    refine performs_bind_iff.2 ⟨[], drawn, (), { db with now }, rfl,
      performs_sendOnly_iff.2 ⟨rfl, _, .begin db none now⟩, ?_⟩
    refine ⟨trace ++ [], Program.runs_bind_iff.2
      ⟨trace, .ok (), [], rfl, inserted, Program.runs_pure_iff.2 ⟨rfl, rfl⟩⟩, ?_⟩
    rwa [List.append_nil]

theorem agrees_id {row : Row} {id : Cell} (named : row.cell? "id" = some id) (other : Row) :
    row.agrees ["id"] other = other.has [("id", id)] := by
  show (row.cell? "id" == other.cell? "id" && true) = (other.cell? "id" == some id && true)
  rw [named, Bool.beq_comm]

/-- A row that is inserted as a new one has an identifier of its own. -/
theorem into_new {i : Insert} (new : i.onConflict = none) (named : ["id"] ∈ keys i.table)
    {row : Row} {id : Cell} (names : row.cell? "id" = some id) {rows rows' : List Row}
    (inserted : i.into? row rows = some rows') :
    (∀ other ∈ rows, other.has [("id", id)] = false) ∧ rows' = row :: rows := by
  rw [Insert.into?, new] at inserted
  simp only [Insert.added?] at inserted
  split at inserted
  · cases inserted
  · rename_i free
    cases inserted
    refine ⟨fun other stands => ?_, rfl⟩
    rw [← agrees_id names]
    by_contra taken
    exact free (List.any_eq_true.2 ⟨_, named, List.any_eq_true.2
      ⟨other, stands, Bool.not_eq_false _ ▸ taken⟩⟩)

/-- The row of a mapping is new. -/
theorem performs_insertMapping
    (performed : db.Performs (sendOnly (insertMapping m)) drawn u after) :
    drawn = [] ∧ (∀ row ∈ db.rows mappingTable, row.has [("id", toCell m.id)] = false) ∧
      after = db.set mappingTable (mappingRow m db.now :: db.rows mappingTable) := by
  obtain ⟨rfl, reply, replied⟩ := performs_sendOnly_iff.1 performed
  obtain ⟨-, rows, inserted, -, rfl⟩ := replies_insert_iff.1 replied
  have key : ["id"] ∈ keys mappingTable := by decide
  have names : (mappingRow m db.now).cell? "id" = some (toCell m.id) := rfl
  obtain ⟨free, rfl⟩ := into_new rfl key names inserted
  exact ⟨rfl, free, rfl⟩

/-- Each line gets an identifier that was drawn, and that no other line has. -/
theorem performs_insertLines {lines : List Line}
    (performed : db.Performs (insertLines m lines) drawn u after) :
    ∃ entries : List (Uuid × Line), entries.map Prod.fst = drawn.map Uuid.random ∧
      entries.map Prod.snd = lines ∧ (entries.map Prod.fst).Nodup ∧
      (∀ e ∈ entries, ∀ row ∈ db.rows lineTable, row.has [("id", toCell e.1)] = false) ∧
      after = db.set lineTable
        ((entries.map (lineRow m db.now)).reverse ++ db.rows lineTable) := by
  induction lines generalizing db drawn with
  | nil =>
    obtain ⟨rfl, -, rfl⟩ := performs_pure_iff.1 performed
    exact ⟨[], rfl, rfl, .nil, nofun, (set_rows _ _).symm⟩
  | cons line lines ih =>
    obtain ⟨_, later, id, _, rfl, fresh, opened⟩ := performs_bind_iff.1 performed
    obtain ⟨bits, rfl, rfl, rfl⟩ := performs_freshUuid_iff.1 fresh
    obtain ⟨_, later, _, _, rfl, sent, others⟩ := performs_bind_iff.1 opened
    obtain ⟨rfl, reply, replied⟩ := performs_sendOnly_iff.1 sent
    obtain ⟨-, rows, inserted, -, rfl⟩ := replies_insert_iff.1 replied
    have key : ["id"] ∈ keys lineTable := by decide
    have names {now : Timestamp} : (lineRow m now (bits.random, line)).cell? "id" =
      some (toCell bits.random) := rfl
    obtain ⟨free, rfl⟩ := into_new rfl key names inserted
    obtain ⟨entries, ids, same, nodup, unused, left⟩ := ih others
    simp only [rows_set_self, set_set, now_set, List.forall_mem_cons] at unused left
    refine ⟨(bits.random, line) :: entries, congrArg (List.cons _) ids, congrArg _ same, ?_, ?_, ?_⟩
    · refine List.nodup_cons.2 ⟨fun taken => ?_, nodup⟩
      obtain ⟨e, listed, equal⟩ := List.mem_map.1 taken
      have other := (unused e listed).1
      rw [has_lineRow_id, equal] at other
      simp at other
    · exact List.forall_mem_cons.2 ⟨free, fun e listed => (unused e listed).2⟩
    · rw [left]
      simp

/-- The rows after a mapping is registered. -/
theorem rows_registerMapping (performed : db.Performs (registerMapping m) drawn u after) :
    ∃ (now : Timestamp) (entries : List (Uuid × Line)),
      entries.map Prod.fst = drawn.map Uuid.random ∧ entries.map Prod.snd = linesOf m ∧
      (entries.map Prod.fst).Nodup ∧
      (∀ row ∈ db.rows mappingTable, row.has [("id", toCell m.id)] = false) ∧
      after.rows mappingTable = mappingRow m now :: db.rows mappingTable ∧
      after.rows lineTable = (entries.map (lineRow m now)).reverse ++ db.rows lineTable := by
  obtain ⟨now, inserted⟩ := performs_registerMapping_iff.1 performed
  obtain ⟨_, _, _, _, rfl, mapping, opened⟩ := performs_bind_iff.1 inserted
  obtain ⟨rfl, free, rfl⟩ := performs_insertMapping mapping
  obtain ⟨_, _, _, _, rfl, lines, committed⟩ := performs_bind_iff.1 opened
  obtain ⟨entries, ids, same, nodup, -, rfl⟩ := performs_insertLines lines
  obtain ⟨rfl, reply, replied⟩ := performs_sendOnly_iff.1 committed
  cases replied with
  | commit =>
    refine ⟨now, entries, by simpa using ids, same, nodup, free, ?_, ?_⟩
    · rw [rows_set_of_ne _ _ (by decide), rows_set_self]
    · rw [rows_set_self, rows_set_of_ne _ _ (by decide)]
      rfl

/-! ### Success -/

theorem into_free {i : Insert} (new : i.onConflict = none) {row : Row} {rows : List Row}
    (free : ∀ key ∈ keys i.table, ∀ other ∈ rows, row.agrees key other = false) :
    i.into? row rows = some (row :: rows) := by
  rw [Insert.into?, new]
  refine if_neg fun taken => ?_
  obtain ⟨key, listed, held⟩ := List.any_eq_true.1 taken
  obtain ⟨other, stands, agrees⟩ := List.any_eq_true.1 held
  exact Bool.false_ne_true ((free key listed other stands).symm.trans agrees)

theorem agrees_lineKey (m : EvaluationMapping) (now : Timestamp) (other : Row) :
    (mappingRow m now).agrees ["evaluation_period_id", "employee_id"] other =
      other.has (lineKey m) := by
  show (some (toCell m.periodId) == other.cell? "evaluation_period_id" &&
      (some (toCell m.employeeId) == other.cell? "employee_id" && true)) =
    (other.cell? "evaluation_period_id" == some (toCell m.periodId) &&
      (other.cell? "employee_id" == some (toCell m.employeeId) && true))
  rw [Bool.beq_comm, Bool.beq_comm (a := some (toCell m.employeeId))]

theorem admits_mappingRow (m : EvaluationMapping) (now : Timestamp) :
    db.admits mappingTable (mappingRow m now) = true := rfl

/-- The row of a line meets its constraints if it has one of the two types. -/
theorem admits_lineRow {now : Timestamp} {entry : Uuid × Line}
    (typed : entry.2.type = primaryType ∨ entry.2.type = secondaryType) :
    db.admits lineTable (lineRow m now entry) = true := by
  obtain ⟨id, evaluator, type⟩ := entry
  rcases typed with rfl | rfl <;> rfl

theorem type_of_mem_linesOf {line : Line} (mem : line ∈ linesOf m) :
    line.type = primaryType ∨ line.type = secondaryType := by
  rcases List.mem_append.1 mem with mem | mem
  · obtain ⟨_, -, rfl⟩ := List.mem_map.1 mem
    exact .inl rfl
  · obtain ⟨_, -, rfl⟩ := List.mem_map.1 mem
    exact .inr rfl

/-- Lines of the two types are inserted if no two get the same identifier, and none gets one that is
taken. -/
theorem insertLines_succeeds {lines : List Line}
    (typed : ∀ line ∈ lines, line.type = primaryType ∨ line.type = secondaryType)
    (counted : drawn.length = lines.length)
    (nodup : (drawn.map Uuid.random).Nodup)
    (unused : ∀ id ∈ drawn.map Uuid.random, ∀ row ∈ db.rows lineTable,
      row.has [("id", toCell id)] = false) :
    ∃ after, db.Performs (insertLines m lines) drawn () after := by
  induction lines generalizing db drawn with
  | nil =>
    obtain rfl := List.length_eq_zero_iff.1 counted
    exact ⟨db, performs_pure_iff.2 ⟨rfl, rfl, rfl⟩⟩
  | cons line lines ih =>
    obtain ⟨bits, drawn, rfl⟩ := List.exists_cons_of_length_eq_add_one counted
    obtain ⟨unlike, nodup⟩ := List.nodup_cons.1 nodup
    obtain ⟨free, unused⟩ := List.forall_mem_cons.1 unused
    have names {now : Timestamp} : (lineRow m now (bits.random, line)).cell? "id" =
      some (toCell bits.random) := rfl
    have inserted : Insert.into? ⟨lineTable, ["id", "evaluation_period_id", "employee_id",
        "evaluator_id", "evaluator_type"], none⟩ (lineRow m db.now (bits.random, line))
        (db.rows lineTable) = some (lineRow m db.now (bits.random, line) :: db.rows lineTable) :=
      into_free rfl fun key listed other stands => by
        obtain rfl := List.mem_singleton.1 (show key ∈ [["id"]] from listed)
        rw [agrees_id names]
        exact free other stands
    have others : ∀ id ∈ drawn.map Uuid.random,
        ∀ row ∈ (db.set lineTable (lineRow m db.now (bits.random, line) ::
          db.rows lineTable)).rows lineTable, row.has [("id", toCell id)] = false := by
      intro id listed row stands
      rw [rows_set_self] at stands
      rcases List.mem_cons.1 stands with rfl | stands
      · rw [has_lineRow_id, decide_eq_false_iff_not]
        rintro rfl
        exact unlike listed
      · exact unused id listed row stands
    obtain ⟨own, typed⟩ := List.forall_mem_cons.1 typed
    have admitted : db.admits lineTable (lineRow m db.now (bits.random, line)) = true :=
      admits_lineRow own
    obtain ⟨after, performed⟩ := ih typed (Nat.succ.inj counted) nodup others
    exact ⟨after, performs_bind_iff.2 ⟨[bits], drawn, bits.random, db, rfl,
      performs_freshUuid_iff.2 ⟨bits, rfl, rfl, rfl⟩,
      performs_bind_iff.2 ⟨[], drawn, (), _, rfl,
        performs_sendOnly_iff.2 ⟨rfl, _, .insert inserted (·.cons admitted)⟩, performed⟩⟩⟩

/-- A mapping is registered unless its identifier, its employee in its period, or an identifier of
one of its lines is taken. -/
theorem registerMapping_succeeds (counted : drawn.length = (linesOf m).length)
    (nodup : (drawn.map Uuid.random).Nodup)
    (unused : ∀ id ∈ drawn.map Uuid.random, ∀ row ∈ db.rows lineTable,
      row.has [("id", toCell id)] = false)
    (new : ∀ row ∈ db.rows mappingTable,
      row.has [("id", toCell m.id)] = false ∧ row.has (lineKey m) = false) :
    ∃ after, db.Performs (registerMapping m) drawn () after := by
  have names : (mappingRow m db.now).cell? "id" = some (toCell m.id) := rfl
  have inserted : Insert.into? ⟨mappingTable, ["id", "evaluation_period_id", "employee_id"], none⟩
      (mappingRow m db.now) (db.rows mappingTable) =
        some (mappingRow m db.now :: db.rows mappingTable) :=
    into_free rfl fun key listed other stands => by
      rcases List.mem_cons.1 (show key ∈ [["id"], ["evaluation_period_id", "employee_id"]]
        from listed) with rfl | listed
      · rw [agrees_id names]
        exact (new other stands).1
      · obtain rfl := List.mem_singleton.1 listed
        rw [agrees_lineKey]
        exact (new other stands).2
  have others : ∀ id ∈ drawn.map Uuid.random,
      ∀ row ∈ (db.set mappingTable (mappingRow m db.now :: db.rows mappingTable)).rows lineTable,
        row.has [("id", toCell id)] = false := by
    rw [rows_set_of_ne _ _ (by decide)]
    exact unused
  obtain ⟨after, lines⟩ := insertLines_succeeds (m := m) (fun _ => type_of_mem_linesOf) counted
    nodup others
  exact ⟨after, performs_registerMapping_iff.2 ⟨db.now, performs_bind_iff.2
    ⟨[], drawn, (), _, rfl, performs_sendOnly_iff.2
      ⟨rfl, _, .insert inserted (·.cons (admits_mappingRow m db.now))⟩,
      performs_bind_iff.2 ⟨drawn, [], (), after, (List.append_nil _).symm, lines,
        performs_sendOnly_iff.2 ⟨rfl, _, .commit after⟩⟩⟩⟩⟩

end Database

end Appraisal.Postgres
