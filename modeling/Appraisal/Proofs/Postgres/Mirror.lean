import Appraisal.Proofs.Memory.Calls
import Appraisal.Proofs.Memory.Listing
import Appraisal.Proofs.Postgres.Writing

/-!
# A database that mirrors tables in memory

A database mirrors tables in memory if its tables have the same rows, in any order
(`Database.Mirrors`).  The times of the rows in memory are arbitrary, so they are the same only as
far as the server keeps times.

On such a database every call of a session answers what the tables in memory hold, as it is read
back.  A call that writes leaves a database that mirrors the tables with one more row, or with one
row in the place of another.
-/

namespace Appraisal

theorem perm_map_iff {α β : Type} {f : α → β} {xs : List β} {ys : List α} :
    xs.Perm (ys.map f) ↔ ∃ zs : List α, zs.Perm ys ∧ xs = zs.map f := by
  have split := iff_of_eq (congrFun (congrFun (List.eq_map_comp_perm f) xs) ys)
  rw [← split]
  exact ⟨fun ⟨zs, same, perm⟩ => ⟨zs, perm, same⟩, fun ⟨zs, perm, same⟩ => ⟨zs, same, perm⟩⟩

namespace Postgres

/-! ## One table -/

section

variable {K V : Type} [Ranked K] {key : V → K} {toRow : V → Row} {keyRow : K → Row}
  {t : Table K V} {rows : List Row} {v old : V} {k : K}

/-- A new row. -/
theorem perm_cons_row (same : rows.Perm (t.values.map toRow)) (free : t.get? k = none) (v : V) :
    (toRow v :: rows).Perm ((t.insert k v).values.map toRow) :=
  (same.cons _).trans ((Table.values_insert_of_free free v).map toRow).symm

variable [DecidableEq K]

/-- The rows of a table that have a key. -/
theorem filter_has (has : ∀ v k, (toRow v).has (keyRow k) = decide (key v = k))
    (keyed : t.Keyed key) (same : rows.Perm (t.values.map toRow)) (k : K) :
    rows.filter (·.has (keyRow k)) = ((t.get? k).map toRow).toList := by
  have found : (t.values.map toRow).filter (·.has (keyRow k)) =
      ((t.get? k).map toRow).toList := by
    rw [List.filter_map]
    have keys : (fun row : Row => row.has (keyRow k)) ∘ toRow = fun v => decide (key v = k) :=
      funext fun v => has v k
    rw [keys, keyed.filter_values]
    cases t.get? k <;> rfl
  have perm := same.filter (·.has (keyRow k))
  rw [found] at perm
  cases stored : t.get? k with
  | none =>
    rw [stored] at perm
    exact perm.eq_nil
  | some v =>
    rw [stored] at perm
    exact List.perm_singleton.1 perm

theorem any_has (has : ∀ v k, (toRow v).has (keyRow k) = decide (key v = k))
    (keyed : t.Keyed key) (same : rows.Perm (t.values.map toRow)) (k : K) :
    rows.any (·.has (keyRow k)) = (t.get? k).isSome := by
  have found := filter_has has keyed same k
  rw [Bool.eq_iff_iff, List.any_eq_true]
  constructor
  · rintro ⟨row, stands, at_⟩
    have listed : row ∈ rows.filter (·.has (keyRow k)) := List.mem_filter.2 ⟨stands, at_⟩
    rw [found] at listed
    cases stored : t.get? k with
    | none =>
      rw [stored] at listed
      cases listed
    | some v => rfl
  · intro stored
    obtain ⟨v, stored⟩ := Option.isSome_iff_exists.1 stored
    have listed : toRow v ∈ rows.filter (·.has (keyRow k)) := by
      rw [found, stored]
      exact List.mem_singleton.2 rfl
    exact ⟨toRow v, List.mem_filter.1 listed⟩

/-- A row in the place of another one. -/
theorem perm_map_row (keyed : t.Keyed key) (same : rows.Perm (t.values.map toRow))
    (held : t.get? k = some old) {change : Row → Row}
    (changed : change (toRow old) = toRow v)
    (others : ∀ w, key w ≠ k → change (toRow w) = toRow w) :
    (rows.map change).Perm ((t.insert k v).values.map toRow) := by
  refine (same.map change).trans (.of_eq ?_)
  rw [keyed.values_insert_of_held held, List.map_map, List.map_map]
  refine List.map_congr_left fun w listed => ?_
  rw [Function.comp_apply, Function.comp_apply]
  by_cases at_ : key w = k
  · obtain ⟨k', found⟩ := (Table.mem_values t).1 listed
    obtain rfl : k' = k := (keyed k' w found).symm.trans at_
    cases held.symm.trans found
    rw [if_pos at_, changed]
  · rw [if_neg at_, others w at_]

end

theorem has_recipientPair (r : RecipientRow) (k : RevisionRequestId × EmployeeId) :
    (recipientRow r).has (recipientKey k.1 k.2) =
      decide ((r.requestId, r.recipientId) = k) := by
  rw [has_recipientKey, Bool.eq_iff_iff, Bool.and_eq_true, decide_eq_true_iff, decide_eq_true_iff,
    decide_eq_true_iff, Prod.ext_iff]

namespace Database

/-! ## All tables -/

/-- The database has the rows of tables in memory. -/
structure Mirrors (db : Database) (t : Memory.Tables) : Prop where
  /-- Every row in memory stands under its own key. -/
  keyed : t.Keyed
  /-- The approval records are the same. -/
  approvals : (db.rows approvalTable).Perm (t.approvals.values.map recordRow)
  /-- The revision requests are the same. -/
  requests : (db.rows requestTable).Perm (t.requests.values.map requestRow)
  /-- The recipients' rows are the same. -/
  recipients : (db.rows recipientTable).Perm (t.recipients.values.map recipientRow)

/-- A database with the rows of tables in memory. -/
def image (t : Memory.Tables) : Database :=
  ⟨fun table =>
    if table = approvalTable then t.approvals.values.map recordRow
    else if table = requestTable then t.requests.values.map requestRow
    else if table = recipientTable then t.recipients.values.map recipientRow
    else [], ⟨0⟩⟩

variable {db after : Database} {t : Memory.Tables} {drawn : List Uuid} {session : Session}

theorem mirrors_image (keyed : t.Keyed) : (image t).Mirrors t :=
  ⟨keyed, .refl _, .refl _, .refl _⟩

theorem mirrors_approvals (mirrors : db.Mirrors t) {r : ApprovalRecord} {rows : List Row}
    (same : rows.Perm ((t.approvals.insert r.mappingId r).values.map recordRow)) :
    (db.set approvalTable rows).Mirrors (t.put (.approval r)) where
  keyed := mirrors.keyed.putAll [.approval r]
  approvals := by
    rw [rows_set_self]
    exact same
  requests := by
    rw [rows_set_of_ne _ _ (by decide)]
    exact mirrors.requests
  recipients := by
    rw [rows_set_of_ne _ _ (by decide)]
    exact mirrors.recipients

theorem mirrors_requests (mirrors : db.Mirrors t) {q : RevisionRequest} {rows : List Row}
    (same : rows.Perm ((t.requests.insert q.id q).values.map requestRow)) :
    (db.set requestTable rows).Mirrors (t.put (.request q)) where
  keyed := mirrors.keyed.putAll [.request q]
  approvals := by
    rw [rows_set_of_ne _ _ (by decide)]
    exact mirrors.approvals
  requests := by
    rw [rows_set_self]
    exact same
  recipients := by
    rw [rows_set_of_ne _ _ (by decide)]
    exact mirrors.recipients

theorem mirrors_recipients (mirrors : db.Mirrors t) {r : RecipientRow} {rows : List Row}
    (same : rows.Perm
      ((t.recipients.insert (r.requestId, r.recipientId) r).values.map recipientRow)) :
    (db.set recipientTable rows).Mirrors (t.put (.recipient r)) where
  keyed := mirrors.keyed.putAll [.recipient r]
  approvals := by
    rw [rows_set_of_ne _ _ (by decide)]
    exact mirrors.approvals
  requests := by
    rw [rows_set_of_ne _ _ (by decide)]
    exact mirrors.requests
  recipients := by
    rw [rows_set_self]
    exact same

/-! ## Calls that write -/

theorem Mirrors.saveApproval (mirrors : db.Mirrors t) (connected : session.connected = true)
    {r : ApprovalRecord} {u : Unit}
    (saved : db.Performs (session.store (.saveApproval r)) drawn u after) :
    after.Mirrors (t.put (.approval ((t.approvals.get? r.mappingId).elim r r.over))) := by
  obtain ⟨-, rfl⟩ := (performs_saveApproval_iff connected).1 saved
  have keyed := mirrors.keyed.approvals
  have taken := any_has has_approvalKey keyed mirrors.approvals r.mappingId
  rw [savedRows, taken]
  cases held : t.approvals.get? r.mappingId with
  | none => exact mirrors_approvals mirrors (perm_cons_row mirrors.approvals held r)
  | some old =>
    have same := mirrors.keyed.approval held
    refine mirrors_approvals mirrors
      (perm_map_row keyed mirrors.approvals held ?_ fun w other => ?_)
    · rw [saveOver_recordRow, if_pos same]
      rfl
    · rw [saveOver_recordRow, if_neg other]

theorem Mirrors.insertRequest (mirrors : db.Mirrors t) (connected : session.connected = true)
    {q : RevisionRequest} {u : Unit}
    (inserted : db.Performs (session.store (.insertRequest q)) drawn u after) :
    after.Mirrors (t.put (.request q)) := by
  obtain ⟨-, free, rfl⟩ := (performs_insertRequest_iff connected).1 inserted
  rw [any_has has_requestKey mirrors.keyed.requests mirrors.requests, Option.isSome_eq_false_iff,
    Option.isNone_iff_eq_none] at free
  exact mirrors_requests mirrors (perm_cons_row mirrors.requests free q)

theorem Mirrors.insertRecipient (mirrors : db.Mirrors t) (connected : session.connected = true)
    {r : RecipientRow} {u : Unit}
    (inserted : db.Performs (session.store (.insertRecipient r)) drawn u after) :
    after.Mirrors (t.put (.recipient r)) := by
  obtain ⟨-, free, -, rfl⟩ := (performs_insertRecipient_iff connected).1 inserted
  rw [any_has has_recipientPair mirrors.keyed.recipients mirrors.recipients
    (r.requestId, r.recipientId), Option.isSome_eq_false_iff, Option.isNone_iff_eq_none] at free
  exact mirrors_recipients mirrors (perm_cons_row mirrors.recipients free r)

theorem writeOver_recipientRow (r old : RecipientRow) :
    writeOver r (recipientRow old) =
      recipientRow (if (old.requestId, old.recipientId) = (r.requestId, r.recipientId) ∧
        old.isCompleted = false then r.over old else old) := by
  rw [writeOver, meets_recipientRow, of_updateRow]
  by_cases same : (old.requestId, old.recipientId) = (r.requestId, r.recipientId) ∧
      old.isCompleted = false
  · rw [if_pos same]
    obtain ⟨keys, unfinished⟩ := same
    obtain ⟨requestId, recipientId⟩ := Prod.mk.inj keys
    rw [requestId, recipientId, unfinished]
    simp
  · rw [if_neg same, if_neg]
    simpa [Prod.ext_iff, and_assoc] using same

/-- An update says whether there is a row that it writes over. -/
theorem Mirrors.countP_rowUpdate (mirrors : db.Mirrors t) (r : RecipientRow) :
    ((db.rows recipientTable).countP (meets rowUpdate (updateRow r).parameters) == 1) =
      (t.unfinished? r).isSome := by
  have found : t.recipients.values.filter
      (fun w => (w.requestId, w.recipientId) = (r.requestId, r.recipientId)) =
        (t.recipients.get? (r.requestId, r.recipientId)).toList :=
    mirrors.keyed.recipients.filter_values _
  have checks : meets rowUpdate (updateRow r).parameters ∘ recipientRow =
      fun w => !w.isCompleted &&
        decide ((w.requestId, w.recipientId) = (r.requestId, r.recipientId)) := by
    funext w
    rw [Function.comp_apply, meets_recipientRow, Bool.and_comm]
    simp [Prod.ext_iff]
  rw [mirrors.recipients.countP_eq, List.countP_map, checks, List.countP_eq_length_filter,
    ← List.filter_filter, found, Memory.Tables.unfinished?]
  cases t.recipients.get? (r.requestId, r.recipientId) with
  | none => rfl
  | some old => cases unfinished : old.isCompleted <;> simp [unfinished]

/-- An update that finds no row to write over leaves all rows as they are. -/
theorem Mirrors.set_writeOver_of_none (mirrors : db.Mirrors t) {r : RecipientRow}
    (idle : t.unfinished? r = none) :
    db.set recipientTable ((db.rows recipientTable).map (writeOver r)) = db := by
  have stays : ∀ row ∈ db.rows recipientTable, writeOver r row = row := by
    intro row stands
    obtain ⟨w, listed, rfl⟩ := List.mem_map.1 (mirrors.recipients.subset stands)
    obtain ⟨k, held⟩ := (Table.mem_values _).1 listed
    have own := mirrors.keyed.recipients k w held
    rw [writeOver_recipientRow, if_neg]
    rintro ⟨same, unfinished⟩
    obtain rfl : k = (r.requestId, r.recipientId) := own.symm.trans same
    rw [Memory.Tables.unfinished?, held] at idle
    simp [unfinished] at idle
  rw [List.map_congr_left stays, List.map_id', set_rows]

/-- The row that an update writes over is the only one that has its key. -/
theorem Mirrors.under_of_some (mirrors : db.Mirrors t) {r old : RecipientRow}
    (finds : t.unfinished? r = some old) :
    db.under recipientTable (recipientKey r.requestId r.recipientId) = [recipientRow old] ∧
      old.isCompleted = false := by
  obtain ⟨held, unfinished⟩ := Option.filter_eq_some_iff.1 finds
  have found := filter_has has_recipientPair mirrors.keyed.recipients mirrors.recipients
    (r.requestId, r.recipientId)
  rw [held] at found
  exact ⟨found, by simpa using unfinished⟩

theorem Mirrors.updateRecipient (mirrors : db.Mirrors t) (connected : session.connected = true)
    {r : RecipientRow} {b : Bool}
    (updated : db.Performs (session.store (.updateRecipient r)) drawn b after) :
    b = (t.unfinished? r).isSome ∧
      after.Mirrors ((t.unfinished? r).elim t fun old => t.put (.recipient (r.over old))) := by
  obtain ⟨-, rfl, -, rfl⟩ := (performs_updateRecipient_iff connected).1 updated
  refine ⟨mirrors.countP_rowUpdate r, ?_⟩
  cases writes : t.unfinished? r with
  | some old =>
    obtain ⟨held, unfinished⟩ := Option.filter_eq_some_iff.1 writes
    obtain ⟨requestId, recipientId⟩ := mirrors.keyed.recipient held
    refine mirrors_recipients mirrors ?_
    show List.Perm _ ((t.recipients.insert (old.requestId, old.recipientId) _).values.map _)
    rw [requestId, recipientId]
    refine perm_map_row mirrors.keyed.recipients mirrors.recipients held ?_ fun w other => ?_
    · rw [writeOver_recipientRow,
        if_pos ⟨by rw [requestId, recipientId], by simpa using unfinished⟩]
    · rw [writeOver_recipientRow, if_neg fun same => other same.1]
  | none =>
    rw [mirrors.set_writeOver_of_none writes]
    exact mirrors

/-! ## Calls that read -/

theorem performs_query_iff (connected : session.connected = true) {α : Type} {q : Select}
    {parameters : List Cell} {read : List Row → Except Failure α} {a : α} :
    db.Performs (do
        let reply ← session.send ⟨.select q, parameters⟩
        Exchange.decoded (read reply.rows)) drawn a after ↔
      drawn = [] ∧ after = db ∧ ∃ rows, q.Returns parameters db.rows rows ∧ read rows = .ok a := by
  refine (performs_call_iff connected).trans (and_congr_right fun _ => ?_)
  constructor
  · rintro ⟨reply, replied, decoded⟩
    obtain ⟨returned, -, rfl⟩ := replies_select_iff.1 replied
    exact ⟨rfl, _, returned, decoded⟩
  · rintro ⟨rfl, rows, returned, decoded⟩
    exact ⟨⟨rows, rows.length⟩, .select returned, decoded⟩

end Database

/-- The rows that a query of one table finds. -/
theorem found_where {selection : Selection} {source : Source} {conditions : List Condition}
    (own : ∀ c ∈ conditions, c.column.source = source.short) {order : List (Column × Direction)}
    (parameters : List Cell) (rows : String → List Row) :
    (selectWhere selection source conditions order).found parameters rows =
      ((rows source.table).filter fun row => conditions.all (·.holds parameters row)).map
        fun row => [(source.short, row)] := by
  have meets : (fun scope : Scope => conditions.all (·.meets parameters scope)) ∘
      (fun row => [(source.short, row)]) = fun row => conditions.all (·.holds parameters row) := by
    funext row
    rw [Function.comp_apply, Bool.eq_iff_iff, List.all_eq_true, List.all_eq_true]
    refine forall₂_congr fun c listed => ?_
    rw [Condition.meets, own c listed]
    rw [List.lookup_cons_self, Option.any_some]
  rw [← meets, ← List.filter_map]
  rfl

/-- The rows that a query of one table returns, as it lists them. -/
theorem returns_where_iff {selection : Selection} (lists : selection ≠ .count) {source : Source}
    {conditions : List Condition} (own : ∀ c ∈ conditions, c.column.source = source.short)
    {order : List (Column × Direction)} {parameters : List Cell} {rows : String → List Row}
    {shown : List Row} :
    (selectWhere selection source conditions order).Returns parameters rows shown ↔
      ∃ listed : List Row,
        listed.Perm ((rows source.table).filter fun row =>
          conditions.all (·.holds parameters row)) ∧
        listed.Pairwise (fun a b =>
          Scope.before order [(source.short, b)] [(source.short, a)] = false) ∧
        shown = listed.map fun row =>
          (selectWhere selection source conditions order).view [(source.short, row)] := by
  constructor
  · intro returned
    cases returned with
    | counted counts => exact absurd counts lists
    | listed _ all ordered offset limit =>
      rw [found_where own] at all
      obtain ⟨listed, perm, rfl⟩ := perm_map_iff.1 all
      cases offset
      cases limit
      exact ⟨listed, perm, List.pairwise_map.1 ordered, by simp [Select.window]⟩
  · rintro ⟨listed, perm, ordered, rfl⟩
    have all := perm.map fun row => [(source.short, row)]
    rw [← found_where own] at all
    have returned := Select.Returns.listed lists all (List.pairwise_map.2 ordered)
      (show Select.bound? parameters none = some none from rfl)
      (show Select.bound? parameters none = some none from rfl)
    simpa [Select.window, Function.comp_def] using returned

theorem holds_key {column : Column} {entity : Entity} {id : Id entity} {n : Nat}
    {parameters : List Cell} (given : parameters[n - 1]? = some (toCell id)) (row : Row) :
    (Condition.equals column n).holds parameters row = row.has [(column.name, toCell id)] := by
  rw [holds_equals given nofun, Row.has, List.all_cons, List.all_nil, Bool.and_true]

namespace Database

variable {db after : Database} {t : Memory.Tables} {drawn : List Uuid} {session : Session}

/-- A query that finds at most one row. -/
theorem performs_findRow_iff (connected : session.connected = true) {α β : Type}
    {selection : Selection} {source : Source} {conditions : List Condition}
    {parameters : List Cell} {read : Row → Except Failure β} {toRow : α → Row} {cut : α → β}
    {held : Option α} {found : Option β} (lists : selection ≠ .count)
    (own : ∀ c ∈ conditions, c.column.source = source.short)
    (stored : (db.rows source.table).filter (fun row => conditions.all (·.holds parameters row)) =
      (held.map toRow).toList)
    (shows : ∀ a, (selectWhere selection source conditions []).view [(source.short, toRow a)] =
      toRow a)
    (reads : ∀ a, read (toRow a) = .ok (cut a)) :
    db.Performs (session.findRow
        ⟨.select (selectWhere selection source conditions []), parameters⟩ read) drawn found after ↔
      drawn = [] ∧ after = db ∧ found = held.map cut := by
  have decodes : readFirstRow? read ((held.map toRow).toList.map fun row =>
      (selectWhere selection source conditions []).view [(source.short, row)]) =
        .ok (held.map cut) := by
    cases held with
    | none => rfl
    | some a =>
      rw [Option.map_some, Option.toList_some, List.map_singleton, shows]
      show (read (toRow a)).map some = _
      rw [reads]
      rfl
  refine (performs_query_iff connected).trans
    (and_congr_right fun _ => and_congr_right fun _ => ?_)
  simp only [returns_where_iff lists own, stored]
  constructor
  · rintro ⟨rows, ⟨listed, perm, -, rfl⟩, decoded⟩
    have alone : listed = (held.map toRow).toList := by
      cases held with
      | none => exact perm.eq_nil
      | some a => exact List.perm_singleton.1 perm
    rw [alone, decodes] at decoded
    cases decoded
    rfl
  · rintro rfl
    refine ⟨_, ⟨_, .refl _, ?_, rfl⟩, decodes⟩
    cases held with
    | none => exact .nil
    | some a => exact List.pairwise_singleton _ _

theorem Mirrors.findApproval_iff (mirrors : db.Mirrors t) (connected : session.connected = true)
    {id : MappingId} {found : Option ApprovalRecord} :
    db.Performs (session.store (.findApproval id)) drawn found after ↔
      drawn = [] ∧ after = db ∧ found = (t.approvals.get? id).map keptRecord := by
  refine performs_findRow_iff connected (by nofun) (by simp [Condition.column, own]) ?_
    (fun _ => by rfl) readRecord_recordRow
  rw [← filter_has has_approvalKey mirrors.keyed.approvals mirrors.approvals]
  refine List.filter_congr fun row _ => ?_
  rw [List.all_cons, List.all_nil, Bool.and_true]
  exact holds_key rfl row

theorem Mirrors.findRequest_iff (mirrors : db.Mirrors t) (connected : session.connected = true)
    {id : RevisionRequestId} {found : Option RevisionRequest} :
    db.Performs (session.store (.findRequest id)) drawn found after ↔
      drawn = [] ∧ after = db ∧ found = (t.requests.get? id).map keptRequest := by
  refine performs_findRow_iff connected (by nofun) (by simp [Condition.column, ofRequest]) ?_
    (fun _ => by rfl) readRequest_requestRow
  rw [← filter_has has_requestKey mirrors.keyed.requests mirrors.requests]
  refine List.filter_congr fun row _ => ?_
  rw [List.all_cons, List.all_nil, Bool.and_true]
  exact holds_key rfl row

theorem Mirrors.findRecipient_iff (mirrors : db.Mirrors t) (connected : session.connected = true)
    {requestId : RevisionRequestId} {recipientId : EmployeeId} {found : Option RecipientRow} :
    db.Performs (session.store (.findRecipient requestId recipientId)) drawn found after ↔
      drawn = [] ∧ after = db ∧ found = (t.recipients.get? (requestId, recipientId)).map kept := by
  refine performs_findRow_iff connected (by nofun) (by simp [Condition.column, ofRecipient]) ?_
    (fun _ => by rfl) readRecipient_recipientRow
  rw [← filter_has has_recipientPair mirrors.keyed.recipients mirrors.recipients]
  refine List.filter_congr fun row _ => ?_
  have first : [toCell requestId, toCell recipientId][1 - 1]? = some (toCell requestId) := rfl
  have second : [toCell requestId, toCell recipientId][2 - 1]? = some (toCell recipientId) := rfl
  rw [List.all_cons, List.all_cons, List.all_nil, Bool.and_true, holds_key first,
    holds_key second]
  simp [Row.has, recipientKey, ofRecipient]

theorem readRows_map {α β : Type} {read : Row → Except Failure β} {toRow : α → Row} {cut : α → β}
    (reads : ∀ a, read (toRow a) = .ok (cut a)) (xs : List α) :
    readRows read (xs.map toRow) = .ok (xs.map cut) := by
  induction xs with
  | nil => rfl
  | cons x xs ih =>
    simp only [List.map_cons, readRows, reads, ih, bind, Except.bind, pure, Except.pure]

theorem before_recipient (r old : RecipientRow) :
    Scope.before [(ofRecipient "recipient_id", .ascending)] [(some "c", recipientRow r)]
      [(some "c", recipientRow old)] = decide (rank r.recipientId < rank old.recipientId) := by
  show (decide (rank r.recipientId < rank old.recipientId) || (_ && false)) = _
  rw [Bool.and_false, Bool.or_false]

theorem Mirrors.sorted_recipientsOf (mirrors : db.Mirrors t) (requestId : RevisionRequestId) :
    (t.recipientsOf requestId).Pairwise fun a b => rank a.recipientId ≤ rank b.recipientId :=
  (mirrors.keyed.sorted_recipientsOf requestId).imp Nat.le_of_lt

/-- The rows of all recipients of a request are listed in one order only. -/
theorem Mirrors.eq_recipientsOf (mirrors : db.Mirrors t) {requestId : RevisionRequestId}
    {rows : List RecipientRow} (same : rows.Perm (t.recipientsOf requestId))
    (ordered : rows.Pairwise fun a b => rank a.recipientId ≤ rank b.recipientId) :
    rows = t.recipientsOf requestId := by
  refine List.Perm.eq_of_pairwise (fun a b first second le ge => ?_) ordered
    (mirrors.sorted_recipientsOf requestId) same
  obtain ⟨first, ofA⟩ := List.mem_filter.1 (same.subset first)
  obtain ⟨second, ofB⟩ := List.mem_filter.1 second
  refine mirrors.keyed.recipients.eq_of_key first second (Prod.ext ?_ ?_)
  · simpa [beq_iff_eq.1 ofB] using ofA
  · exact rank_inj (Nat.le_antisymm le ge)

theorem Mirrors.recipientsOf_iff (mirrors : db.Mirrors t) (connected : session.connected = true)
    {requestId : RevisionRequestId} {found : List RecipientRow} :
    db.Performs (session.store (.recipientsOf requestId)) drawn found after ↔
      drawn = [] ∧ after = db ∧ found = (t.recipientsOf requestId).map kept := by
  have checks : (fun row : Row => [Condition.equals (ofRecipient "revision_request_id") 1].all
      (·.holds [toCell requestId] row)) ∘ recipientRow = fun r => r.requestId == requestId := by
    funext r
    have given : [toCell requestId][1 - 1]? = some (toCell requestId) := rfl
    rw [Function.comp_apply, List.all_cons, List.all_nil, Bool.and_true, holds_equals given nofun]
    exact some_toCell_beq r.requestId requestId
  have stands := mirrors.recipients.filter fun row =>
    [Condition.equals (ofRecipient "revision_request_id") 1].all (·.holds [toCell requestId] row)
  rw [List.filter_map, checks] at stands
  have decodes : ∀ rows : List RecipientRow, readRows readRecipient ((rows.map recipientRow).map
      fun row => (selectWhere (.columns (recipientColumns.map ofRecipient))
        ⟨recipientTable, some "c"⟩ [.equals (ofRecipient "revision_request_id") 1]
        [(ofRecipient "recipient_id", .ascending)]).view [(some "c", row)]) =
          .ok (rows.map kept) := by
    intro rows
    rw [List.map_map]
    exact readRows_map readRecipient_recipientRow rows
  have ordered : ∀ rows : List RecipientRow, (rows.map recipientRow).Pairwise (fun a b =>
      Scope.before [(ofRecipient "recipient_id", .ascending)] [(some "c", b)] [(some "c", a)] =
        false) ↔ rows.Pairwise fun a b => rank a.recipientId ≤ rank b.recipientId := by
    intro rows
    rw [List.pairwise_map]
    simp only [before_recipient, decide_eq_false_iff_not, Nat.not_lt]
  refine (performs_query_iff connected).trans
    (and_congr_right fun _ => and_congr_right fun _ => ?_)
  constructor
  · rintro ⟨rows, returned, decoded⟩
    obtain ⟨listed, perm, sorted, rfl⟩ := (returns_where_iff (by nofun) (by simp; rfl)).1 returned
    obtain ⟨rows, same, rfl⟩ := perm_map_iff.1 (perm.trans stands)
    cases (decodes rows).symm.trans decoded
    rw [mirrors.eq_recipientsOf same ((ordered rows).1 sorted)]
  · rintro rfl
    exact ⟨_, (returns_where_iff (by nofun) (by simp; rfl)).2 ⟨_, stands.symm,
      (ordered _).2 (mirrors.sorted_recipientsOf requestId), rfl⟩, decodes _⟩

theorem Mirrors.countUnread_iff (mirrors : db.Mirrors t) (connected : session.connected = true)
    {recipientId : EmployeeId} {n : Nat} :
    db.Performs (session.store (.countUnread recipientId)) drawn n after ↔
      drawn = [] ∧ after = db ∧ n = t.countUnread recipientId := by
  have unread : (fun row : Row => [Condition.equals (own "recipient_id") 1,
        .isFalse (own "is_read")].all (·.holds [toCell recipientId] row)) ∘ recipientRow =
      fun r => r.recipientId == recipientId && !r.isRead := by
    funext r
    have given : [toCell recipientId][1 - 1]? = some (toCell recipientId) := rfl
    rw [Function.comp_apply, List.all_cons, holds_equals given nofun]
    show ((some (toCell r.recipientId) == some (toCell recipientId)) &&
      ((some (Cell.bool r.isRead) == some (.bool false)) && true)) = _
    rw [some_toCell_beq]
    cases r.isRead <;> rfl
  have counted : ((selectWhere .count ⟨recipientTable, none⟩
      [.equals (own "recipient_id") 1, .isFalse (own "is_read")] []).found [toCell recipientId]
        db.rows).length = t.countUnread recipientId := by
    rw [found_where (by simp [own, Condition.column]), List.length_map,
      ← List.countP_eq_length_filter, mirrors.recipients.countP_eq, List.countP_map, unread]
    rfl
  refine (performs_query_iff (α := Nat) connected).trans
    (and_congr_right fun _ => and_congr_right fun _ => ?_)
  constructor
  · rintro ⟨rows, returned, decoded⟩
    cases returned with
    | listed lists => exact absurd rfl lists
    | counted =>
      rw [counted] at decoded
      cases decoded
      rfl
  · rintro rfl
    refine ⟨_, .counted rfl, ?_⟩
    rw [counted]
    rfl

end Database

/-! ## A small example -/

/-- A record that nobody has touched, and a request with a recipient who has not read it. -/
def asked : Memory.Tables :=
  (default : Memory.Tables).putAll
    [.approval (.fresh default .epoch),
      .request ⟨default, default, default, default, .criteria, "", default, .epoch⟩,
      .recipient (.fresh default default .evaluatee)]

theorem keyed_asked : asked.Keyed := by
  have empty : (default : Memory.Tables).Keyed := by
    rintro (_ | _ | _) r found <;> cases found
  exact empty.putAll _

/-- A session whose transaction has just begun. -/
def asking : Memory.Session := .opened asked

end Postgres

end Appraisal
