import Mathlib.Data.List.Sort
import Appraisal.Proofs.Postgres.Lines
import Appraisal.Proofs.Postgres.MappingRows
import Appraisal.Proofs.Postgres.Mirror

/-!
# Registered mappings

A mapping is looked up by two queries: one for its row, and one for its lines.  Lines are read in
the order in which they were made, and by their identifiers where two are equally old.

All lines of a registered mapping are equally old, so they are folded in the order of their
identifiers (`performs_findMapping_iff`).  The lines in any order make the same mapping, except for
the order of its secondary evaluators (`addLines_of_perm`).  A mapping is therefore found as it was
registered exactly if the identifiers of its secondary evaluators' lines happen to increase
(`found_as_registered_iff`).
-/

namespace Appraisal.Postgres

/-! ## Order -/

/-- Lines in the order of their identifiers. -/
def byId {α : Type} (entries : List (Uuid × α)) : List (Uuid × α) :=
  entries.insertionSort fun a b => rank a.1 ≤ rank b.1

theorem perm_byId {α : Type} (entries : List (Uuid × α)) : (byId entries).Perm entries :=
  List.perm_insertionSort _ entries

theorem sorted_byId {α : Type} (entries : List (Uuid × α)) :
    (byId entries).Pairwise fun a b => rank a.1 ≤ rank b.1 := by
  have total : Std.Total fun a b : Uuid × α => rank a.1 ≤ rank b.1 := ⟨fun a b => Nat.le_total _ _⟩
  have trans : IsTrans (Uuid × α) fun a b => rank a.1 ≤ rank b.1 :=
    ⟨fun a b c => Nat.le_trans⟩
  exact List.pairwise_insertionSort _ entries

/-- Lines that do not share identifiers have one order only. -/
theorem eq_byId {α : Type} {entries listed : List (Uuid × α)}
    (nodup : (entries.map Prod.fst).Nodup) (perm : listed.Perm entries)
    (sorted : listed.Pairwise fun a b => rank a.1 ≤ rank b.1) : listed = byId entries := by
  refine List.Perm.eq_of_pairwise (fun a b first second le ge => ?_) sorted (sorted_byId entries)
    (perm.trans (perm_byId entries).symm)
  exact List.inj_on_of_nodup_map nodup (perm.subset first) ((perm_byId entries).subset second)
    (rank_inj (Nat.le_antisymm le ge))

/-- Lines stay as they are listed exactly if their identifiers increase. -/
theorem byId_eq_self_iff {α : Type} {entries : List (Uuid × α)}
    (nodup : (entries.map Prod.fst).Nodup) :
    byId entries = entries ↔ (entries.map Prod.fst).Pairwise (rank · < rank ·) := by
  rw [List.pairwise_map]
  constructor
  · intro stays
    have sorted := sorted_byId entries
    rw [stays] at sorted
    have apart := List.pairwise_map.1 nodup
    refine (sorted.and apart).imp fun both => ?_
    exact Nat.lt_of_le_of_ne both.1 fun equal => both.2 (rank_inj equal)
  · intro increasing
    exact (eq_byId nodup (.refl _) (increasing.imp Nat.le_of_lt)).symm

/-! ## Folding -/

/-- Every evaluator is added if none of them repeats. -/
theorem foldl_withNew_of_nodup {others added : List EmployeeId}
    (distinct : (others ++ added).Nodup) : added.foldl withNew others = others ++ added := by
  induction added generalizing others with
  | nil => exact (List.append_nil _).symm
  | cons evaluator added ih =>
    have new : evaluator ∉ others := fun listed =>
      (List.nodup_append.1 distinct).2.2 _ listed _ List.mem_cons_self rfl
    rw [List.append_cons] at distinct
    rw [List.foldl_cons, withNew_of_not_mem new, ih distinct, ← List.append_cons]

theorem evaluatorsOf_primary (m : EvaluationMapping) :
    evaluatorsOf primaryType (linesOf m) = m.primaryEvaluator.toList := by
  simp [evaluatorsOf, linesOf, List.filter_map, Function.comp_def, secondaryType_ne]

theorem evaluatorsOf_secondary (m : EvaluationMapping) :
    evaluatorsOf secondaryType (linesOf m) = m.secondaryEvaluators := by
  simp [evaluatorsOf, linesOf, List.filter_map, Function.comp_def, secondaryType_ne.symm]

namespace Database

variable {db after : Database} {drawn : List Uuid} {m : EvaluationMapping}

/-! ## Reading -/

theorem performs_sendPooled_iff {q : Select} {parameters : List Cell} {reply : Reply} :
    db.Performs (sendPooled ⟨.select q, parameters⟩) drawn reply after ↔
      drawn = [] ∧ after = db ∧ q.Returns parameters db.rows reply.rows ∧
        reply.affected = reply.rows.length := by
  rw [sendPooled, performs_bind_iff]
  constructor
  · rintro ⟨_, _, _, _, rfl, acquired, sent⟩
    obtain ⟨rfl, rfl⟩ := performs_acquire_iff.1 acquired
    obtain ⟨rfl, replied⟩ := performs_send_iff.1 sent
    obtain ⟨returned, counted, rfl⟩ := replies_select_iff.1 replied
    exact ⟨rfl, rfl, returned, counted⟩
  · rintro ⟨rfl, rfl, returned, counted⟩
    exact ⟨[], [], (), after, rfl, performs_acquire_iff.2 ⟨rfl, rfl⟩,
      performs_send_iff.2 ⟨rfl, replies_select_iff.2 ⟨returned, counted, rfl⟩⟩⟩

/-! ### The row -/

/-- The query for the row of a mapping. -/
def mappingQuery : Select :=
  selectWhere (.columns (["id", "evaluation_period_id", "employee_id"].map own))
    ⟨mappingTable, none⟩ [.equals (own "id") 1, .isNull (own "deleted_at")] []

/-- What the query shows of the row. -/
def mappingShown (m : EvaluationMapping) : Row :=
  [("id", toCell m.id), ("evaluation_period_id", toCell m.periodId),
    ("employee_id", toCell m.employeeId)]

theorem holds_mappingQuery (id : MappingId) (row : Row) :
    mappingQuery.conditions.all (·.holds [toCell id] row) =
      (row.has [("id", toCell id)] && row.cell? "deleted_at" == some .null) := by
  have given : [toCell id][1 - 1]? = some (toCell id) := rfl
  show [Condition.equals (own "id") 1, .isNull (own "deleted_at")].all _ = _
  rw [List.all_cons, holds_key given]
  simp [Condition.holds, own]

section

variable {now : Timestamp} {entries : List (Uuid × Line)} {mappings lines rows : List Row}

theorem filter_mappings (free : ∀ row ∈ mappings, row.has [("id", toCell m.id)] = false) :
    (mappingRow m now :: mappings).filter (fun row =>
        mappingQuery.conditions.all (·.holds [toCell m.id] row)) = [mappingRow m now] := by
  have named : (mappingRow m now).has [("id", toCell m.id)] = true := by
    show (some (toCell m.id) == some (toCell m.id) && true) = true
    simp
  have standing : (mappingRow m now).cell? "deleted_at" = some .null := rfl
  simp only [holds_mappingQuery, List.filter_cons, named, standing]
  rw [List.filter_eq_nil_iff.2 fun row listed => by simp [free row listed]]
  rfl

theorem returns_mappingQuery_iff (mapped : db.rows mappingTable = mappingRow m now :: mappings)
    (free : ∀ row ∈ mappings, row.has [("id", toCell m.id)] = false) :
    mappingQuery.Returns [toCell m.id] db.rows rows ↔ rows = [mappingShown m] := by
  have stands : (db.rows mappingTable).filter (fun row =>
      mappingQuery.conditions.all (·.holds [toCell m.id] row)) = [mappingRow m now] := by
    rw [mapped, filter_mappings free]
  refine (returns_where_iff (by nofun) (by simp [own, Condition.column])).trans ?_
  constructor
  · rintro ⟨listed, perm, -, rfl⟩
    rw [List.perm_singleton.1 (perm.trans (.of_eq stands))]
    rfl
  · rintro rfl
    exact ⟨[mappingRow m now], .of_eq stands.symm, List.pairwise_singleton _ _, rfl⟩

/-! ### The lines -/

/-- The query for the lines of a mapping. -/
def lineQuery : Select :=
  selectWhere (.columns (["evaluator_id", "evaluator_type"].map own)) ⟨lineTable, none⟩
    [.equals (own "evaluation_period_id") 1, .equals (own "employee_id") 2,
      .isNull (own "deleted_at")]
    [(own "created_at", .ascending), (own "id", .ascending)]

/-- What the query shows of a line. -/
def lineShown (entry : Uuid × Line) : Row :=
  [("evaluator_id", toCell entry.2.evaluator), ("evaluator_type", toCell entry.2.type)]

theorem holds_lineQuery (m : EvaluationMapping) (row : Row) :
    lineQuery.conditions.all (·.holds [toCell m.periodId, toCell m.employeeId] row) =
      (row.has (lineKey m) && row.cell? "deleted_at" == some .null) := by
  have first : [toCell m.periodId, toCell m.employeeId][1 - 1]? = some (toCell m.periodId) := rfl
  have second : [toCell m.periodId, toCell m.employeeId][2 - 1]? = some (toCell m.employeeId) := rfl
  show [Condition.equals (own "evaluation_period_id") 1, .equals (own "employee_id") 2,
    .isNull (own "deleted_at")].all _ = _
  rw [List.all_cons, List.all_cons, holds_equals first nofun, holds_equals second nofun,
    ← Bool.and_assoc]
  simp [Condition.holds, own, Row.has, lineKey]

theorem filter_lines (unlined : ∀ row ∈ lines, row.has (lineKey m) = false) :
    ((entries.map (lineRow m now)).reverse ++ lines).filter (fun row =>
        lineQuery.conditions.all (·.holds [toCell m.periodId, toCell m.employeeId] row)) =
      (entries.map (lineRow m now)).reverse := by
  simp only [holds_lineQuery, List.filter_append]
  rw [List.filter_eq_self.2, List.filter_eq_nil_iff.2, List.append_nil]
  · intro row listed
    simp [unlined row listed]
  · intro row listed
    obtain ⟨entry, -, rfl⟩ := List.mem_map.1 (List.mem_reverse.1 listed)
    have standing : (lineRow m now entry).cell? "deleted_at" = some .null := rfl
    simp [has_lineRow, standing]

/-- Lines that were made together are listed by their identifiers. -/
theorem ordered_lineRows_iff (m : EvaluationMapping) (now : Timestamp)
    (entries : List (Uuid × Line)) :
    (entries.map (lineRow m now)).Pairwise (fun a b =>
        Scope.before lineQuery.order [(none, b)] [(none, a)] = false) ↔
      entries.Pairwise fun a b => rank a.1 ≤ rank b.1 := by
  have before (a b : Uuid × Line) : Scope.before lineQuery.order [(none, lineRow m now a)]
      [(none, lineRow m now b)] = decide (rank a.1 < rank b.1) := by
    show (decide (now.micros < now.micros) || ((Cell.timestamp now == .timestamp now) &&
      (decide (rank a.1 < rank b.1) || (_ && false)))) = _
    simp
  rw [List.pairwise_map]
  simp only [before, decide_eq_false_iff_not, Nat.not_lt]

theorem returns_lineQuery_iff
    (lined : db.rows lineTable = (entries.map (lineRow m now)).reverse ++ lines)
    (unlined : ∀ row ∈ lines, row.has (lineKey m) = false)
    (nodup : (entries.map Prod.fst).Nodup) :
    lineQuery.Returns [toCell m.periodId, toCell m.employeeId] db.rows rows ↔
      rows = (byId entries).map lineShown := by
  have stands : ((db.rows lineTable).filter fun row =>
      lineQuery.conditions.all (·.holds [toCell m.periodId, toCell m.employeeId] row)).Perm
        (entries.map (lineRow m now)) := by
    rw [lined, filter_lines unlined]
    exact List.reverse_perm _
  refine (returns_where_iff (by nofun) (by simp [own, Condition.column])).trans ?_
  constructor
  · rintro ⟨listed, perm, ordered, rfl⟩
    obtain ⟨zs, same, rfl⟩ := perm_map_iff.1 (perm.trans stands)
    rw [eq_byId nodup same ((ordered_lineRows_iff m now zs).1 ordered), List.map_map]
    rfl
  · rintro rfl
    refine ⟨_, ((perm_byId entries).map _).trans stands.symm,
      (ordered_lineRows_iff m now _).2 (sorted_byId entries), ?_⟩
    rw [List.map_map]
    rfl

/-! ### Both queries -/

/-- A query whose answer is read in one way only. -/
theorem performs_known_iff {α β : Type} {q : Select} {parameters : List Cell}
    {read : List Row → Except Failure α} {k : α} {later : α → FallibleExchange β} {b : β}
    (answers : ∃ rows, q.Returns parameters db.rows rows)
    (reads : ∀ rows, q.Returns parameters db.rows rows → read rows = .ok k) :
    db.Performs (do
        let reply ← sendPooled ⟨.select q, parameters⟩
        let a ← Exchange.decoded (read reply.rows)
        later a) drawn b after ↔ db.Performs (later k) drawn b after := by
  rw [performs_bind_iff]
  constructor
  · rintro ⟨_, _, reply, _, rfl, sent, opened⟩
    obtain ⟨rfl, rfl, returned, -⟩ := performs_sendPooled_iff.1 sent
    obtain ⟨_, _, a, _, rfl, decoded, performed⟩ := performs_bind_iff.1 opened
    obtain ⟨rfl, same, rfl⟩ := performs_decoded_iff.1 decoded
    cases (reads _ returned).symm.trans same
    exact performed
  · intro performed
    obtain ⟨rows, returned⟩ := answers
    exact ⟨[], drawn, ⟨rows, rows.length⟩, db, rfl,
      performs_sendPooled_iff.2 ⟨rfl, rfl, returned, rfl⟩,
      performs_bind_iff.2 ⟨[], drawn, k, db, rfl,
        performs_decoded_iff.2 ⟨rfl, reads rows returned, rfl⟩, performed⟩⟩

/-- The lines of a mapping that were made together are folded in the order of their identifiers. -/
theorem performs_findMapping_iff
    (mapped : db.rows mappingTable = mappingRow m now :: mappings)
    (free : ∀ row ∈ mappings, row.has [("id", toCell m.id)] = false)
    (lined : db.rows lineTable = (entries.map (lineRow m now)).reverse ++ lines)
    (unlined : ∀ row ∈ lines, row.has (lineKey m) = false)
    (nodup : (entries.map Prod.fst).Nodup) {found : Option EvaluationMapping} :
    db.Performs (findMapping m.id) drawn found after ↔
      drawn = [] ∧ found = some (addLines (.fresh m.id m.periodId m.employeeId)
        ((byId entries).map Prod.snd)) ∧ after = db := by
  have returnsRow {rows} : mappingQuery.Returns [toCell m.id] db.rows rows ↔ _ :=
    returns_mappingQuery_iff mapped free
  have returnsLines {rows} : lineQuery.Returns [toCell m.periodId, toCell m.employeeId] db.rows
      rows ↔ _ := returns_lineQuery_iff lined unlined nodup
  have reads (entry : Uuid × Line) : readLine (lineShown entry) = .ok entry.2 := rfl
  calc
    _ ↔ Performs db (do
        let reply ← sendPooled ⟨.select lineQuery, [toCell m.periodId, toCell m.employeeId]⟩
        let lines ← Exchange.decoded (readRows readLine reply.rows)
        return some (addLines (.fresh m.id m.periodId m.employeeId) lines)) drawn found after :=
      performs_known_iff (k := some (EvaluationMapping.fresh m.id m.periodId m.employeeId))
        ⟨_, returnsRow.2 rfl⟩ fun rows returned => by
          rw [returnsRow.1 returned]
          rfl
    _ ↔ _ :=
      (performs_known_iff ⟨_, returnsLines.2 rfl⟩ fun rows returned => by
        rw [returnsLines.1 returned]
        exact readRows_map reads _).trans performs_pure_iff

end

end Database

/-! ## Finding what was registered -/

/-- The identifiers of the secondary evaluators' lines, if these are the random bits drawn. -/
def secondaryIds (m : EvaluationMapping) (drawn : List Uuid) : List Uuid :=
  (drawn.map Uuid.random).drop m.primaryEvaluator.toList.length

/-- The secondary evaluators in the order in which their lines are read. -/
def secondariesRead (m : EvaluationMapping) (drawn : List Uuid) : List EmployeeId :=
  (byId ((secondaryIds m drawn).zip m.secondaryEvaluators)).map Prod.snd

section

variable {m : EvaluationMapping} {drawn : List Uuid} {entries : List (Uuid × Line)}

theorem length_drawn (ids : entries.map Prod.fst = drawn.map Uuid.random)
    (same : entries.map Prod.snd = linesOf m) :
    drawn.length = m.primaryEvaluator.toList.length + m.secondaryEvaluators.length := by
  have drew := congrArg List.length ids
  have listed := congrArg List.length same
  simp only [linesOf, List.length_append, List.length_map] at drew listed
  omega

/-- The secondary lines, in the order in which they are inserted. -/
theorem filter_secondary (ids : entries.map Prod.fst = drawn.map Uuid.random)
    (same : entries.map Prod.snd = linesOf m) :
    entries.filter (·.2.type = secondaryType) =
      ((secondaryIds m drawn).zip m.secondaryEvaluators).map
        fun e => (e.1, ⟨e.2, secondaryType⟩) := by
  have first : ((drawn.map Uuid.random).take m.primaryEvaluator.toList.length).length =
      (m.primaryEvaluator.toList.map fun e => Line.mk e primaryType).length := by
    rw [List.length_take, List.length_map, List.length_map, length_drawn ids same]
    exact Nat.min_eq_left (Nat.le_add_right _ _)
  have split := List.take_append_drop m.primaryEvaluator.toList.length (drawn.map Uuid.random)
  rw [List.zip_of_prod ids same, ← split, linesOf, List.zip_append first, List.filter_append,
    List.zip_map_right, List.zip_map_right, List.filter_map, List.filter_map]
  simp [Function.comp_def, secondaryType_ne.symm, secondaryIds, Prod.map]

/-- Every secondary evaluator has a line with an identifier. -/
theorem map_fst_secondaries (ids : entries.map Prod.fst = drawn.map Uuid.random)
    (same : entries.map Prod.snd = linesOf m) :
    ((secondaryIds m drawn).zip m.secondaryEvaluators).map Prod.fst = secondaryIds m drawn ∧
      ((secondaryIds m drawn).zip m.secondaryEvaluators).map Prod.snd =
        m.secondaryEvaluators := by
  have counted : (secondaryIds m drawn).length = m.secondaryEvaluators.length := by
    rw [secondaryIds, List.length_drop, List.length_map, length_drawn ids same]
    exact Nat.add_sub_cancel_left _ _
  exact ⟨List.map_fst_zip counted.le, List.map_snd_zip counted.ge⟩

theorem nodup_secondaryIds (nodup : (entries.map Prod.fst).Nodup)
    (ids : entries.map Prod.fst = drawn.map Uuid.random) : (secondaryIds m drawn).Nodup :=
  (ids ▸ nodup).sublist (List.drop_sublist _ _)

theorem evaluatorsOf_byId (nodup : (entries.map Prod.fst).Nodup)
    (ids : entries.map Prod.fst = drawn.map Uuid.random)
    (same : entries.map Prod.snd = linesOf m) :
    evaluatorsOf secondaryType ((byId entries).map Prod.snd) = secondariesRead m drawn := by
  have listed := (perm_byId entries).filter (·.2.type = secondaryType)
  rw [filter_secondary ids same] at listed
  obtain ⟨zs, perm, read⟩ := perm_map_iff.1 listed
  have sorted := (sorted_byId entries).filter (·.2.type = secondaryType)
  rw [read, List.pairwise_map] at sorted
  have distinct : (((secondaryIds m drawn).zip m.secondaryEvaluators).map Prod.fst).Nodup := by
    rw [(map_fst_secondaries ids same).1]
    exact nodup_secondaryIds nodup ids
  rw [secondariesRead, ← eq_byId distinct perm sorted, evaluatorsOf, List.filter_map, List.map_map]
  show ((byId entries).filter (·.2.type = secondaryType)).map _ = _
  rw [read, List.map_map]
  rfl

/-- The lines of a mapping in any order make the mapping again, except for the order of the
secondary evaluators. -/
theorem addLines_of_perm (distinct : m.secondaryEvaluators.Nodup) {lines : List Line}
    (perm : lines.Perm (linesOf m)) :
    addLines (.fresh m.id m.periodId m.employeeId) lines =
      { m with secondaryEvaluators := evaluatorsOf secondaryType lines } := by
  have secondaries := (perm.filter (·.type = secondaryType)).map (·.evaluator)
  have primaries := (perm.filter (·.type = primaryType)).map (·.evaluator)
  change (evaluatorsOf secondaryType lines).Perm (evaluatorsOf secondaryType (linesOf m))
    at secondaries
  change (evaluatorsOf primaryType lines).Perm (evaluatorsOf primaryType (linesOf m)) at primaries
  rw [evaluatorsOf_secondary] at secondaries
  rw [evaluatorsOf_primary] at primaries
  have alone : (evaluatorsOf primaryType lines).head? = m.primaryEvaluator := by
    cases held : m.primaryEvaluator with
    | none =>
      rw [held] at primaries
      rw [primaries.eq_nil]
      rfl
    | some evaluator =>
      rw [held] at primaries
      rw [List.perm_singleton.1 primaries]
      rfl
  rw [addLines_eq, alone, foldl_withNew_of_nodup (by exact secondaries.nodup_iff.2 distinct)]
  rfl

/-- The secondary evaluators are read in their own order exactly if their identifiers increase. -/
theorem secondariesRead_eq_iff (distinct : m.secondaryEvaluators.Nodup)
    (nodup : (entries.map Prod.fst).Nodup) (ids : entries.map Prod.fst = drawn.map Uuid.random)
    (same : entries.map Prod.snd = linesOf m) :
    secondariesRead m drawn = m.secondaryEvaluators ↔
      (secondaryIds m drawn).Pairwise (rank · < rank ·) := by
  obtain ⟨lineIds, evaluators⟩ := map_fst_secondaries ids same
  have unlike := nodup_secondaryIds (m := m) nodup ids
  rw [secondariesRead]
  generalize (secondaryIds m drawn).zip m.secondaryEvaluators = pairs at lineIds evaluators
  rw [← lineIds] at unlike ⊢
  rw [← evaluators] at distinct ⊢
  rw [← byId_eq_self_iff unlike]
  refine ⟨fun inserted => ?_, fun stays => by rw [stays]⟩
  -- No evaluator repeats, so the evaluators tell which line stands where.
  have counted := congrArg List.length inserted
  rw [List.length_map, List.length_map] at counted
  refine List.ext_getElem counted fun n first second => ?_
  refine List.inj_on_of_nodup_map distinct ((perm_byId pairs).subset (List.getElem_mem _))
    (List.getElem_mem _) ?_
  have position := congrArg (·[n]?) inserted
  simpa [first, second] using position

end

/-- A registered mapping is found with all its evaluators, the secondary ones in the order of their
lines' identifiers. -/
theorem performs_findRegistered_iff {db mid after : Database} {m : EvaluationMapping}
    {drawn : List Uuid} (distinct : m.secondaryEvaluators.Nodup)
    (unlined : ∀ row ∈ db.rows lineTable, row.has (lineKey m) = false)
    (registered : db.Performs (registerMapping m) drawn () mid) {found : Option EvaluationMapping} :
    mid.Performs (findMapping m.id) [] found after ↔
      found = some { m with secondaryEvaluators := secondariesRead m drawn } ∧ after = mid := by
  obtain ⟨now, entries, ids, same, nodup, free, mapped, lined⟩ :=
    Database.rows_registerMapping registered
  have folded : addLines (.fresh m.id m.periodId m.employeeId) ((byId entries).map Prod.snd) =
      { m with secondaryEvaluators := secondariesRead m drawn } := by
    rw [addLines_of_perm distinct (same ▸ (perm_byId entries).map Prod.snd),
      evaluatorsOf_byId nodup ids same]
  rw [Database.performs_findMapping_iff mapped free lined unlined nodup, folded]
  exact and_iff_right rfl

/-- A registered mapping is found with all its evaluators, the secondary ones in the order of their
lines' identifiers.  It is found as it was registered exactly if these identifiers increase. -/
theorem found_as_registered_iff {db mid : Database} {m : EvaluationMapping} {drawn : List Uuid}
    (distinct : m.secondaryEvaluators.Nodup)
    (unlined : ∀ row ∈ db.rows lineTable, row.has (lineKey m) = false)
    (registered : db.Performs (registerMapping m) drawn () mid) :
    (∀ found after, mid.Performs (findMapping m.id) [] found after ↔
      found = some { m with secondaryEvaluators := secondariesRead m drawn } ∧ after = mid) ∧
    (secondariesRead m drawn).Perm m.secondaryEvaluators ∧
    (mid.Performs (findMapping m.id) [] (some m) mid ↔
      (secondaryIds m drawn).Pairwise (rank · < rank ·)) := by
  obtain ⟨-, entries, ids, same, nodup, -⟩ := Database.rows_registerMapping registered
  refine ⟨fun _ _ => performs_findRegistered_iff distinct unlined registered, ?_, ?_⟩
  · rw [secondariesRead]
    exact ((perm_byId _).map _).trans (.of_eq (map_fst_secondaries ids same).2)
  · rw [performs_findRegistered_iff distinct unlined registered,
      ← secondariesRead_eq_iff distinct nodup ids same]
    constructor
    · rintro ⟨found, -⟩
      exact (congrArg EvaluationMapping.secondaryEvaluators (Option.some.inj found)).symm
    · intro inOrder
      rw [inOrder]
      exact ⟨rfl, rfl⟩

/-! ### Two secondary evaluators -/

/-- A mapping with two secondary evaluators. -/
def twoSecondaries : EvaluationMapping :=
  ⟨default, default, default, some ⟨⟨0⟩⟩, [⟨⟨1⟩⟩, ⟨⟨2⟩⟩]⟩

/-- A database without rows. -/
def noRows : Database := ⟨fun _ => [], ⟨0⟩⟩

/-- The mapping is found as it was registered if the line of its first secondary evaluator has the
smaller identifier. -/
theorem found_as_registered_iff_increasing :
    ∃ mid, noRows.Performs (registerMapping twoSecondaries) [⟨9⟩, ⟨1⟩, ⟨2⟩] () mid ∧
      mid.Performs (findMapping default) [] (some twoSecondaries) mid := by
  obtain ⟨mid, registered⟩ :
      ∃ mid, noRows.Performs (registerMapping twoSecondaries) [⟨9⟩, ⟨1⟩, ⟨2⟩] () mid :=
    Database.registerMapping_succeeds rfl (by decide) (by simp [noRows]) (by simp [noRows])
  exact ⟨mid, registered, (found_as_registered_iff (by decide) (by simp [noRows]) registered).2.2.2
    (by decide)⟩

/-- The secondary evaluators are found in the other order if the line of the first one has the
larger identifier. -/
theorem found_out_of_order :
    ∃ mid, noRows.Performs (registerMapping twoSecondaries) [⟨9⟩, ⟨2⟩, ⟨1⟩] () mid ∧
      mid.Performs (findMapping default) []
        (some { twoSecondaries with secondaryEvaluators := [⟨⟨2⟩⟩, ⟨⟨1⟩⟩] }) mid ∧
      ¬ mid.Performs (findMapping default) [] (some twoSecondaries) mid := by
  obtain ⟨mid, registered⟩ :
      ∃ mid, noRows.Performs (registerMapping twoSecondaries) [⟨9⟩, ⟨2⟩, ⟨1⟩] () mid :=
    Database.registerMapping_succeeds rfl (by decide) (by simp [noRows]) (by simp [noRows])
  have read : secondariesRead twoSecondaries [⟨9⟩, ⟨2⟩, ⟨1⟩] = [⟨⟨2⟩⟩, ⟨⟨1⟩⟩] := by decide
  have finds {found} : mid.Performs (findMapping default) [] found mid ↔ _ :=
    performs_findRegistered_iff (by decide) (by simp [noRows]) registered
  rw [read] at finds
  refine ⟨mid, registered, finds.2 ⟨rfl, rfl⟩, fun same => ?_⟩
  exact absurd (finds.1 same).1 (by decide)

end Appraisal.Postgres
