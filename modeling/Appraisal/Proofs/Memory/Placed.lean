import Appraisal.Proofs.Memory.Snapshot

/-!
# Rows put in place

Work stores rows one after the other.  `putAll` puts rows in place in tables and in a transaction,
and `Session.plus` is the session with some rows stored in its transaction.  A store call leaves the
session with the row that its answer tells of (`Session.store_eq_plus`).
-/

namespace Appraisal.Memory

/-! ## Tables and transactions -/

/-- The tables with some rows in place, one after the other. -/
def Tables.putAll (t : Tables) (rows : List Row) : Tables := rows.foldl put t

/-- The transaction with some rows stored, one after the other. -/
def Transaction.putAll (t : Transaction) (rows : List Row) : Transaction := rows.foldl put t

namespace Tables

variable {t : Tables} {rows : List Row}

theorem row_putAll_of_not_mem {k : RowKey} (h : k ∉ rows.map Row.key) :
    (t.putAll rows).row k = t.row k := by
  induction rows generalizing t with
  | nil => rfl
  | cons r rows ih =>
    rw [List.map_cons, List.mem_cons, not_or] at h
    show ((t.put r).putAll rows).row k = _
    rw [ih h.2, row_put, if_neg h.1]

theorem isSome_row_putAll {k : RowKey} (h : k ∈ rows.map Row.key) :
    ((t.putAll rows).row k).isSome := by
  induction rows generalizing t with
  | nil => cases h
  | cons r rows ih =>
    by_cases later : k ∈ rows.map Row.key
    · exact ih later
    · obtain rfl : k = r.key := (List.mem_cons.1 h).resolve_right later
      show (((t.put r).putAll rows).row r.key).isSome
      rw [row_putAll_of_not_mem later, row_put, if_pos rfl]
      rfl

theorem row_putAll_cons {r : Row} (new : r.key ∉ rows.map Row.key) :
    (t.putAll (r :: rows)).row r.key = some r := by
  show ((t.put r).putAll rows).row r.key = some r
  rw [row_putAll_of_not_mem new, row_put, if_pos rfl]

/-- A row is one that was put in place, or none was and it is as before. -/
theorem row_putAll_cases (t : Tables) (rows : List Row) (k : RowKey) :
    k ∉ rows.map Row.key ∧ (t.putAll rows).row k = t.row k ∨
      ∃ r ∈ rows, r.key = k ∧ (t.putAll rows).row k = some r := by
  induction rows generalizing t with
  | nil => exact .inl ⟨List.not_mem_nil, rfl⟩
  | cons r rows ih =>
    rcases ih (t.put r) with ⟨other, same⟩ | ⟨later, mem, key, row⟩
    · by_cases own : k = r.key
      · refine .inr ⟨r, List.mem_cons_self, own.symm, ?_⟩
        exact same.trans (by rw [row_put, if_pos own])
      · refine .inl ⟨?_, same.trans (by rw [row_put, if_neg own])⟩
        rw [List.map_cons, List.mem_cons, not_or]
        exact ⟨own, other⟩
    · exact .inr ⟨later, List.mem_cons_of_mem _ mem, key, row⟩

theorem Keyed.putAll (h : t.Keyed) (rows : List Row) : (t.putAll rows).Keyed := by
  induction rows generalizing t with
  | nil => exact h
  | cons r rows ih =>
    refine ih fun k r' found => ?_
    rw [row_put] at found
    split at found
    · rename_i same
      cases found
      exact same.symm
    · exact h k r' found

theorem version_putAll (t : Tables) (rows : List Row) (k : RowKey) :
    (t.putAll rows).version k = t.version k := by
  induction rows generalizing t with
  | nil => rfl
  | cons r rows ih =>
    refine (ih (t.put r)).trans ?_
    rw [version, version, versions_put]

end Tables

namespace Transaction

theorem tables_putAll (t : Transaction) (rows : List Row) :
    (t.putAll rows).tables = t.tables.putAll rows := by
  induction rows generalizing t with
  | nil => rfl
  | cons r rows ih => exact ih (t.put r)

theorem mem_writes_putAll {t : Transaction} {rows : List Row} {key : RowKey} :
    key ∈ (t.putAll rows).writes ↔ key ∈ rows.map Row.key ∨ key ∈ t.writes := by
  induction rows generalizing t with
  | nil => simp [putAll]
  | cons r rows ih =>
    have h : key ∈ ((t.put r).putAll rows).writes ↔ _ := ih
    show key ∈ ((t.put r).putAll rows).writes ↔ _
    rw [h, mem_writes_put, List.map_cons, List.mem_cons]
    constructor
    · rintro (h | h | h)
      · exact .inl (.inr h)
      · exact .inl (.inl h)
      · exact .inr h
    · rintro ((h | h) | h)
      · exact .inr (.inl h)
      · exact .inl h
      · exact .inr (.inr h)

theorem nodup_writes_putAll {t : Transaction} (h : t.writes.Nodup) (rows : List Row) :
    (t.putAll rows).writes.Nodup := by
  induction rows generalizing t with
  | nil => exact h
  | cons r rows ih => exact ih (nodup_writes_put h r)

/-- Nothing keeps a transaction from committing where it began. -/
theorem canCommit_putAll_start (base : Tables) (rows : List Row) :
    ((start base).putAll rows).canCommit base = true := by
  refine canCommit_iff.2 fun k _ => ?_
  rw [tables_putAll, Tables.version_putAll]
  rfl

end Transaction

/-! ## Sessions -/

/-- The session with some rows stored in its transaction. -/
def Session.plus (s : Session) (rows : List Row) : Session :=
  match s.working with
  | some t => s.withTransaction (t.putAll rows)
  | none => s

/-- A session whose transaction has just begun. -/
def Session.opened (base : Tables) : Session := withTransaction default (.start base)

/-- A begin on a session that was just opened fails, or the session starts from the committed
tables. -/
theorem begin_cases (store : Store) (isolation : Isolation) :
    (store.begin default isolation).2.1.committed = store.committed ∧
      ((∃ f, (store.begin default isolation).1 = .error f) ∧
          (store.begin default isolation).2.2 = default ∨
        (store.begin default isolation).1 = .ok () ∧
          (store.begin default isolation).2.2 = .opened store.committed) := by
  simp only [Store.begin]
  cases store.faults.onBegin with
  | cons f faults => exact ⟨rfl, .inl ⟨⟨f, rfl⟩, rfl⟩⟩
  | nil => exact ⟨rfl, .inr ⟨rfl, rfl⟩⟩

namespace Session

theorem plus_of_working {s : Session} {t : Transaction} (h : s.working = some t)
    (rows : List Row) : s.plus rows = s.withTransaction (t.putAll rows) := by
  rw [plus, h]

theorem working_plus {s : Session} {t : Transaction} (h : s.working = some t) (rows : List Row) :
    (s.plus rows).working = some (t.putAll rows) := by
  rw [plus_of_working h]
  rfl

@[simp] theorem plus_nil (s : Session) : s.plus [] = s := by
  obtain ⟨working, savepoints, readOnly, released⟩ := s
  cases working <;> rfl

theorem plus_plus (s : Session) (rows more : List Row) :
    (s.plus rows).plus more = s.plus (rows ++ more) := by
  cases h : s.working with
  | none => simp [plus, h]
  | some t =>
    rw [plus_of_working (working_plus h rows), plus_of_working h, plus_of_working h]
    simp only [withTransaction, Transaction.putAll, List.foldl_append]

/-- A store call leaves the session with the row that its answer tells of. -/
theorem store_eq_plus (s : Session) (call : StoreCall) :
    (s.store call).2 = s.plus (storedRow call (s.store call).1).toList := by
  rcases s.store_cases call with ⟨none, after⟩ | ⟨t, r, some, working, -, -, after⟩
  · rw [none, after]
    exact (plus_nil s).symm
  · rw [some, after, plus_of_working working]
    rfl

/-- What is read is what the transaction sees. -/
theorem read_of_working {α : Type} {s : Session} {t : Transaction} (working : s.working = some t)
    (f : Tables → α) : (s.read f).1 = .ok (f t.tables) := by
  rw [read, Session.tables, working]
  rfl

/-- A revision request is stored only where there is none. -/
theorem new_of_store {s : Session} {t : Transaction} {call : StoreCall} {v : call.Value} {r : Row}
    (working : s.working = some t) (accepted : (s.store call).1 = .ok v)
    (stored : storedRow call (.ok v) = some r) {id : RevisionRequestId}
    (request : r.key = .request id) : t.tables.row (.request id) = none := by
  rcases s.store_cases call with ⟨none, -⟩ | ⟨t', r', some, working', -, new, -⟩
  · rw [accepted, stored] at none
    cases none
  · rw [accepted, stored] at some
    cases some
    cases working.symm.trans working'
    exact new id request

/-! ### Calls that may write -/

section

variable {s : Session} {t : Transaction}

theorem writable_plus (writable : s.writable = .ok t) (rows : List Row) :
    (s.plus rows).writable = .ok (t.putAll rows) := by
  obtain ⟨unlimited, working⟩ := writable_eq_ok_iff.1 writable
  refine writable_eq_ok_iff.2 ⟨?_, working_plus working rows⟩
  rw [plus_of_working working]
  exact unlimited

/-- The session after a call that has succeeded. -/
theorem store_eq_of_ok {call : StoreCall} {v : call.Value} (answered : (s.store call).1 = .ok v) :
    s.store call = (.ok v, s.plus (storedRow call (.ok v)).toList) :=
  Prod.ext answered (answered ▸ s.store_eq_plus call)

theorem store_saveApproval (writable : s.writable = .ok t) (record : ApprovalRecord) :
    s.store (.saveApproval record) = (.ok (), s.plus [.approval record]) := by
  have answered : (s.store (.saveApproval record)).1 = .ok () := by rw [store, write, writable]
  exact store_eq_of_ok answered

theorem store_insertRequest (writable : s.writable = .ok t) {request : RevisionRequest}
    (absent : t.tables.row (.request request.id) = none) :
    s.store (.insertRequest request) = (.ok (), s.plus [.request request]) := by
  have answered : (s.store (.insertRequest request)).1 = .ok () := by
    rw [store, write, writable]
    simp only [Transaction.insertRequest_eq, absent]
    rfl
  exact store_eq_of_ok answered

theorem store_insertRequest_error (writable : s.writable = .ok t) {request : RevisionRequest}
    (stored : (t.tables.row (.request request.id)).isSome) :
    s.store (.insertRequest request) =
      (.error (Transaction.duplicateRequest request.id), s) := by
  rw [store, write, writable]
  simp only [Transaction.insertRequest_eq, stored]
  rfl

theorem store_insertRecipient (writable : s.writable = .ok t) {row : RecipientRow}
    (requested : (t.tables.row (.request row.requestId)).isSome)
    (absent : t.tables.row (.recipient row.requestId row.recipientId) = none) :
    s.store (.insertRecipient row) = (.ok (), s.plus [.recipient row]) := by
  obtain ⟨request, found⟩ := Option.isSome_iff_exists.1 requested
  have answered : (s.store (.insertRecipient row)).1 = .ok () := by
    rw [store, write, writable]
    simp only [Transaction.insertRecipient_eq, found, absent]
    rfl
  exact store_eq_of_ok answered

theorem store_updateRecipient (writable : s.writable = .ok t) {row : RecipientRow}
    (can : t.canUpdate row = true) :
    s.store (.updateRecipient row) = (.ok true, s.plus [.recipient row]) := by
  have answered : (s.store (.updateRecipient row)).1 = .ok true := by
    rw [store, write, writable]
    simp only [Transaction.updateRecipient, can, if_true]
  exact store_eq_of_ok answered

/-- An update that finds no row to write over stores nothing. -/
theorem store_updateRecipient_refused (writable : s.writable = .ok t) {row : RecipientRow}
    (cannot : t.canUpdate row = false) : s.store (.updateRecipient row) = (.ok false, s) := by
  obtain ⟨-, working⟩ := writable_eq_ok_iff.1 writable
  have same : s.withTransaction t = s := by
    cases s
    cases working
    rfl
  rw [store, write, writable]
  simp only [Transaction.updateRecipient, cannot, Bool.false_eq_true, if_false, same]

end

end Session

end Appraisal.Memory
