import Appraisal.Memory.Transaction

/-!
# Rows of all tables

The three tables hold rows of three types.  Here they are one table: `Tables.row` looks a row of
any type up under a `RowKey`, and every operation on tables is described by what it does to these
look-ups and to the versions.

*Publishing.*  `row_publish` and `version_publish` say that publishing replaces exactly the rows of
the keys it is given and counts each of them once.  Neither depends on the order of the keys.
`publish_congr` says that nothing of the source matters but those rows.
-/

namespace Appraisal.Memory

/-- A row of any table. -/
inductive Row
  /-- An approval record. -/
  | approval (record : ApprovalRecord)
  /-- A revision request. -/
  | request (revision : RevisionRequest)
  /-- The row of a recipient. -/
  | recipient (row : RecipientRow)
deriving DecidableEq

/-- The key of a row. -/
def Row.key : Row → RowKey
  | .approval record => .approval record.mappingId
  | .request revision => .request revision.id
  | .recipient row => .recipient row.requestId row.recipientId

theorem rank_eq_rank_iff {K : Type} [Ranked K] {a b : K} : rank a = rank b ↔ a = b :=
  ⟨rank_inj, fun h => h ▸ rfl⟩

namespace Tables

/-- The row of a key. -/
def row (t : Tables) : RowKey → Option Row
  | .approval id => (t.approvals.get? id).map .approval
  | .request id => (t.requests.get? id).map .request
  | .recipient requestId recipientId =>
    (t.recipients.get? (requestId, recipientId)).map .recipient

/-- The tables with a row in place of any that its key had. -/
def put (t : Tables) : Row → Tables
  | .approval record => { t with approvals := t.approvals.insert record.mappingId record }
  | .request revision => { t with requests := t.requests.insert revision.id revision }
  | .recipient row =>
    { t with recipients := t.recipients.insert (row.requestId, row.recipientId) row }

@[simp] theorem versions_put (t : Tables) (r : Row) : (t.put r).versions = t.versions := by
  cases r <;> rfl

theorem row_put (t : Tables) (r : Row) (k : RowKey) :
    (t.put r).row k = if k = r.key then some r else t.row k := by
  cases r <;> cases k <;>
    simp only [put, row, Row.key, Table.get?_insert, rank_eq_rank_iff, reduceCtorEq, if_false,
      RowKey.approval.injEq, RowKey.request.injEq, RowKey.recipient.injEq, Prod.mk.injEq]
  case approval.approval record id =>
    by_cases h : id = record.mappingId
    · simp [h]
    · simp [h, Ne.symm h]
  case request.request request id =>
    by_cases h : id = request.id
    · simp [h]
    · simp [h, Ne.symm h]
  case recipient.recipient row requestId recipientId =>
    by_cases h : requestId = row.requestId ∧ recipientId = row.recipientId
    · simp [h]
    · rw [if_neg h, if_neg fun e => h ⟨e.1.symm, e.2.symm⟩]

/-! ## Equal look-ups -/

theorem approval_eq_of_row {t u : Tables} {id : MappingId}
    (h : t.row (.approval id) = u.row (.approval id)) :
    t.approvals.get? id = u.approvals.get? id := by
  simp only [row] at h
  cases ht : t.approvals.get? id <;> cases hu : u.approvals.get? id <;> simp_all

theorem request_eq_of_row {t u : Tables} {id : RevisionRequestId}
    (h : t.row (.request id) = u.row (.request id)) :
    t.requests.get? id = u.requests.get? id := by
  simp only [row] at h
  cases ht : t.requests.get? id <;> cases hu : u.requests.get? id <;> simp_all

theorem recipient_eq_of_row {t u : Tables} {requestId : RevisionRequestId}
    {recipientId : EmployeeId}
    (h : t.row (.recipient requestId recipientId) = u.row (.recipient requestId recipientId)) :
    t.recipients.get? (requestId, recipientId) = u.recipients.get? (requestId, recipientId) := by
  simp only [row] at h
  cases ht : t.recipients.get? (requestId, recipientId) <;>
    cases hu : u.recipients.get? (requestId, recipientId) <;> simp_all

theorem requests_eq_of_row {t u : Tables} (h : ∀ k, t.row k = u.row k) :
    t.requests = u.requests :=
  Table.ext fun id => request_eq_of_row (h (.request id))

theorem recipients_eq_of_row {t u : Tables} (h : ∀ k, t.row k = u.row k) :
    t.recipients = u.recipients :=
  Table.ext fun p => recipient_eq_of_row (h (.recipient p.1 p.2))

/-! ## Publishing -/

theorem get?_copyEntry {K V : Type} [Ranked K] (table source : Table K V) (key k : K) :
    (copyEntry table source key).get? k =
      if rank key = rank k then source.get? k else table.get? k := by
  unfold copyEntry
  cases hs : source.get? key with
  | none =>
    rw [Table.get?_erase]
    split
    · rename_i h
      rw [← rank_inj h, hs]
    · rfl
  | some row =>
    rw [Table.get?_insert]
    split
    · rename_i h
      rw [← rank_inj h, hs]
    · rfl

theorem row_copyRow (t source : Tables) (key k : RowKey) :
    (t.copyRow source key).row k = if k = key then source.row k else t.row k := by
  cases key <;> cases k <;>
    simp only [copyRow, row, get?_copyEntry, rank_eq_rank_iff, reduceCtorEq, if_false,
      RowKey.approval.injEq, RowKey.request.injEq, RowKey.recipient.injEq, Prod.mk.injEq]
  case approval.approval id other =>
    by_cases h : other = id
    · simp [h]
    · simp [h, Ne.symm h]
  case request.request id other =>
    by_cases h : other = id
    · simp [h]
    · simp [h, Ne.symm h]
  case recipient.recipient requestId recipientId otherId other =>
    by_cases h : otherId = requestId ∧ other = recipientId
    · simp [h]
    · rw [if_neg h, if_neg fun e => h ⟨e.1.symm, e.2.symm⟩]

@[simp] theorem versions_copyRow (t source : Tables) (key : RowKey) :
    (t.copyRow source key).versions = t.versions := by
  cases key <;> rfl

@[simp] theorem row_bumpVersion (t : Tables) (key k : RowKey) :
    (t.bumpVersion key).row k = t.row k := by
  cases k <;> rfl

theorem version_bumpVersion (t : Tables) (key k : RowKey) :
    (t.bumpVersion key).version k = if k = key then t.version k + 1 else t.version k := by
  simp only [bumpVersion, version, Table.get?_insert, rank_eq_rank_iff]
  by_cases h : key = k
  · subst h
    simp
  · simp [h, Ne.symm h]

theorem row_publishRow (t source : Tables) (key k : RowKey) :
    (t.publishRow source key).row k = if k = key then source.row k else t.row k := by
  rw [publishRow, row_bumpVersion, row_copyRow]

theorem version_publishRow (t source : Tables) (key k : RowKey) :
    (t.publishRow source key).version k =
      if k = key then t.version k + 1 else t.version k := by
  have same : ∀ k, (t.copyRow source key).version k = t.version k := fun k => by
    rw [version, versions_copyRow, version]
  rw [publishRow, version_bumpVersion, same]

@[simp] theorem publish_cons (t source : Tables) (key : RowKey) (keys : List RowKey) :
    t.publish source (key :: keys) = (t.publishRow source key).publish source keys := rfl

theorem row_publish (t source : Tables) (keys : List RowKey) (k : RowKey) :
    (t.publish source keys).row k = if k ∈ keys then source.row k else t.row k := by
  induction keys generalizing t with
  | nil => rfl
  | cons key keys ih =>
    rw [publish_cons, ih, row_publishRow]
    by_cases hk : k = key <;> by_cases hks : k ∈ keys <;> simp [hk, hks]

theorem version_publish (t source : Tables) {keys : List RowKey} (distinct : keys.Nodup)
    (k : RowKey) :
    (t.publish source keys).version k =
      if k ∈ keys then t.version k + 1 else t.version k := by
  induction keys generalizing t with
  | nil => rfl
  | cons key keys ih =>
    obtain ⟨hkey, hkeys⟩ := List.nodup_cons.1 distinct
    rw [publish_cons, ih _ hkeys, version_publishRow]
    by_cases hk : k = key
    · subst hk
      simp [hkey]
    · simp [hk]

theorem copyEntry_congr {K V : Type} [Ranked K] {table source other : Table K V} {key : K}
    (h : source.get? key = other.get? key) :
    copyEntry table source key = copyEntry table other key := by
  rw [copyEntry, copyEntry, h]

theorem copyRow_congr {t source other : Tables} {key : RowKey}
    (h : source.row key = other.row key) : t.copyRow source key = t.copyRow other key := by
  cases key with
  | approval id => simp only [copyRow, copyEntry_congr (approval_eq_of_row h)]
  | request id => simp only [copyRow, copyEntry_congr (request_eq_of_row h)]
  | recipient requestId recipientId => simp only [copyRow, copyEntry_congr (recipient_eq_of_row h)]

/-- What is published depends on the source only through the published rows. -/
theorem publish_congr {t source other : Tables} {keys : List RowKey}
    (h : ∀ k ∈ keys, source.row k = other.row k) :
    t.publish source keys = t.publish other keys := by
  induction keys generalizing t with
  | nil => rfl
  | cons key keys ih =>
    rw [publish_cons, publish_cons, publishRow, publishRow, copyRow_congr (h key List.mem_cons_self)]
    exact ih fun k hk => h k (List.mem_cons_of_mem _ hk)

end Tables

end Appraisal.Memory
