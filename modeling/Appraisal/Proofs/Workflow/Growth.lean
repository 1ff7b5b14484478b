import Mathlib.Order.Basic
import Appraisal.Proofs.Workflow.Receipts

/-!
# Growth

Committed tables only grow.  No row is lost, a request stays as it is and keeps its recipients, what
was read or completed stays so, and times go forward (`Tables.Extends`).

A deed lets the tables grow on which its transaction began (`Timely.grows`), because these hold
no time later than the begin, and the deed is dated after it.  When it is committed, the tables may
have changed in rows that it did not write (`Merged`), and then the committed tables grow
(`Merged.grows`).
-/

namespace Appraisal

instance : Preorder Instant where
  le_refl t := Int.le_refl t.order
  le_trans _ _ _ := Int.le_trans
  lt_iff_le_not_ge _ _ := Int.lt_iff_le_and_not_ge

/-- A record may become another. -/
structure ApprovalRecord.Grows (old new : ApprovalRecord) : Prop where
  createdAt : new.createdAt = old.createdAt
  updatedAt : old.updatedAt ≤ new.updatedAt

/-- The row of a recipient may become another. -/
structure RecipientRow.Grows (old new : RecipientRow) : Prop where
  role : new.role = old.role
  read : old.isRead = true → new.isRead = true ∧ new.readAt = old.readAt
  completed : old.isCompleted = true → new = old

theorem ApprovalRecord.Grows.refl (record : ApprovalRecord) : record.Grows record :=
  ⟨rfl, le_refl _⟩

theorem RecipientRow.Grows.refl (row : RecipientRow) : row.Grows row :=
  ⟨rfl, fun read => ⟨read, rfl⟩, fun _ => rfl⟩

namespace Memory

open Workflow

/-- A row may become another. -/
inductive Row.Grows : Row → Row → Prop
  | approval {old new : ApprovalRecord} (h : old.Grows new) : Grows (.approval old) (.approval new)
  | request (r : RevisionRequest) : Grows (.request r) (.request r)
  | recipient {old new : RecipientRow} (h : old.Grows new) : Grows (.recipient old) (.recipient new)

theorem Row.Grows.refl (r : Row) : r.Grows r := by
  cases r with
  | approval record => exact .approval (.refl record)
  | request request => exact .request request
  | recipient row => exact .recipient (.refl row)

theorem Row.Grows.trans {r r' r'' : Row} (first : r.Grows r') (second : r'.Grows r'') :
    r.Grows r'' := by
  cases first with
  | approval first =>
    cases second with
    | approval second =>
      exact .approval ⟨second.createdAt.trans first.createdAt,
        first.updatedAt.trans second.updatedAt⟩
  | request => exact second
  | recipient first =>
    cases second with
    | recipient second =>
      refine .recipient ⟨second.role.trans first.role, fun read => ?_, fun completed => ?_⟩
      · obtain ⟨read', same⟩ := first.read read
        obtain ⟨read'', same'⟩ := second.read read'
        exact ⟨read'', same'.trans same⟩
      · obtain rfl := first.completed completed
        exact second.completed completed

/-- The second tables hold all that the first do, or what became of it. -/
structure Tables.Extends (old new : Tables) : Prop where
  /-- Every row is still there. -/
  rows : ∀ k r, old.row k = some r → ∃ r', new.row k = some r' ∧ r.Grows r'
  /-- A request that was there has no more recipients than before. -/
  recipients : ∀ id e, (old.row (.request id)).isSome → (new.row (.recipient id e)).isSome →
    (old.row (.recipient id e)).isSome
  /-- Versions never shrink. -/
  versions : ∀ k, old.version k ≤ new.version k

namespace Tables.Extends

theorem refl (t : Tables) : t.Extends t :=
  ⟨fun _ r h => ⟨r, h, .refl r⟩, fun _ _ _ h => h, fun _ => Nat.le_refl _⟩

theorem isSome {old new : Tables} (h : old.Extends new) {k : RowKey}
    (there : (old.row k).isSome) : (new.row k).isSome := by
  obtain ⟨r, found⟩ := Option.isSome_iff_exists.1 there
  obtain ⟨r', found', -⟩ := h.rows k r found
  rw [found']
  rfl

theorem request {old new : Tables} (h : old.Extends new) {id : RevisionRequestId}
    {request : RevisionRequest} (found : old.row (.request id) = some (.request request)) :
    new.row (.request id) = some (.request request) := by
  obtain ⟨r', found', grows⟩ := h.rows _ _ found
  cases grows
  exact found'

theorem trans {t u v : Tables} (first : t.Extends u) (second : u.Extends v) : t.Extends v where
  rows k r h := by
    obtain ⟨r', found, grows⟩ := first.rows k r h
    obtain ⟨r'', found', grows'⟩ := second.rows k r' found
    exact ⟨r'', found', grows.trans grows'⟩
  recipients id e there h :=
    first.recipients id e there (second.recipients id e (first.isSome there) h)
  versions k := Nat.le_trans (first.versions k) (second.versions k)

end Tables.Extends

/-! ## Dates -/

/-- The row holds no time later than some time. -/
def Row.DatedBy (now : Instant) : Row → Prop
  | .approval record => record.updatedAt ≤ now
  | .request asked => asked.requestedAt ≤ now
  | .recipient row =>
    (∀ at_, row.readAt = some at_ → at_ ≤ now) ∧ ∀ at_, row.completedAt = some at_ → at_ ≤ now

/-- No row holds a later time. -/
def Tables.Dated (t : Tables) (now : Instant) : Prop := ∀ k r, t.row k = some r → r.DatedBy now

theorem Row.DatedBy.mono {r : Row} {now later : Instant} (h : r.DatedBy now) (le : now ≤ later) :
    r.DatedBy later := by
  cases r with
  | approval record => exact le_trans h le
  | request asked => exact le_trans h le
  | recipient row =>
    exact ⟨fun at_ read => (h.1 at_ read).trans le, fun at_ done => (h.2 at_ done).trans le⟩

theorem Tables.Dated.mono {t : Tables} {now later : Instant} (h : t.Dated now) (le : now ≤ later) :
    t.Dated later := fun k r found => (h k r found).mono le

/-! ## Deeds in time -/

/-- Rows of a deed that is done between two times.  A revision that it stores has recipients and was
prepared before. -/
def Timely (base : Tables) (begun now : Instant) (rows : List Row) : Prop :=
  ∃ events, Deed base (fun at_ => begun ≤ at_ ∧ at_ ≤ now)
    (fun p => p.recipients ≠ [] ∧ p.request.requestedAt ≤ now) rows events

/-- What a row may be when such a deed has left some tables. -/
abbrev MadeBy (base left : Tables) (begun now : Instant) : Row → Prop :=
  Made base left (fun at_ => begun ≤ at_ ∧ at_ ≤ now)
    fun p => p.recipients ≠ [] ∧ p.request.requestedAt ≤ now

theorem RowUpdate.readAt_apply (update : RowUpdate) (row : RecipientRow) (now : Instant) :
    (update.apply row now).readAt = if row.isRead then row.readAt else some now := by
  cases update <;> cases read : row.isRead <;>
    simp [apply, RecipientRow.complete, RecipientRow.markRead, read]

theorem RowUpdate.completedAt_apply (update : RowUpdate) (row : RecipientRow) (now : Instant) :
    (update.apply row now).completedAt = row.completedAt ∨
      (update.apply row now).completedAt = some now := by
  cases update with
  | read =>
    refine .inl ?_
    rw [apply, RecipientRow.markRead]
    split <;> rfl
  | complete comment => exact .inr rfl

theorem RowUpdate.role_apply (update : RowUpdate) (row : RecipientRow) (now : Instant) :
    (update.apply row now).role = row.role := by
  have read : (row.markRead now).role = row.role := by
    rw [RecipientRow.markRead]
    split <;> rfl
  cases update with
  | read => exact read
  | complete comment => exact read

theorem RowUpdate.grows {row : RecipientRow} (marked : row.Marked) {update : RowUpdate}
    (new : update.isDone row = false) (now : Instant) : row.Grows (update.apply row now) := by
  have role : (update.apply row now).role = row.role := update.role_apply row now
  cases update with
  | read =>
    have unread : row.isRead = false := new
    refine ⟨role, fun read => ?_, fun completed => ?_⟩
    · rw [unread] at read
      cases read
    · rw [marked.uncompleted_of_unread unread] at completed
      cases completed
  | complete comment =>
    have uncompleted : row.isCompleted = false := new
    refine ⟨role, fun read => ⟨row.markRead_isRead now, ?_⟩, fun completed => ?_⟩
    · exact (RowUpdate.readAt_apply (.complete comment) row now).trans (if_pos read)
    · rw [uncompleted] at completed
      cases completed

section

variable {base : Tables} {begun now : Instant} {rows : List Row}

theorem Tables.isSome_putAll_of_isSome {t : Tables} {k : RowKey} (h : (t.row k).isSome)
    (rows : List Row) : ((t.putAll rows).row k).isSome := by
  rcases t.row_putAll_cases rows k with ⟨-, same⟩ | ⟨r, -, -, found⟩
  · rw [same]
    exact h
  · rw [found]
    rfl

theorem Timely.made (h : Timely base begun now rows) (keyed : base.Keyed) {k : RowKey} {r : Row}
    (found : (base.putAll rows).row k = some r) : MadeBy base (base.putAll rows) begun now r := by
  obtain ⟨events, deed⟩ := h
  exact deed.made keyed found

/-- The rows of recipients still belong to requests. -/
theorem Timely.attached (h : Timely base begun now rows) (keyed : base.Keyed)
    (attached : base.Attached) : (base.putAll rows).Attached := by
  intro id e there
  obtain ⟨r, found⟩ := Option.isSome_iff_exists.1 there
  have key : r.key = .recipient id e := keyed.putAll rows _ r found
  cases h.made keyed found with
  | kept found =>
    rw [key] at found
    exact Tables.isSome_putAll_of_isSome (attached id e (by rw [found]; rfl)) rows
  | changed => cases key
  | created => cases key
  | @added request x absent stored =>
    cases key
    exact Option.isSome_iff_exists.2 ⟨_, stored⟩
  | @updated update row now at_ request requested found new =>
    have own : row.requestId = id := by
      have same := (update.key_apply row now).symm.trans key
      cases same
      rfl
    rw [own] at requested
    exact Tables.isSome_putAll_of_isSome (by rw [requested]; rfl) rows

theorem Timely.dated (h : Timely base begun now rows) (keyed : base.Keyed)
    (dated : base.Dated begun) (le : begun ≤ now) : (base.putAll rows).Dated now := by
  intro k r found
  cases h.made keyed found with
  | kept found => exact (dated _ r found).mono le
  | changed at_ => exact at_.2
  | created ready => exact ready.2
  | added => exact ⟨nofun, nofun⟩
  | @updated update row done at_ request requested same new =>
    have old : (Row.recipient row).DatedBy begun := dated _ _ same
    refine ⟨fun time read => ?_, fun time completed => ?_⟩
    · rw [update.readAt_apply] at read
      split at read
      · exact (old.1 time read).trans le
      · cases read
        exact at_.2
    · rcases update.completedAt_apply row done with same | same
      · rw [same] at completed
        exact (old.2 time completed).trans le
      · rw [same] at completed
        cases completed
        exact at_.2

/-- Tables that are dated before the begin of a transaction grow with its deed. -/
theorem Timely.grows (h : Timely base begun now rows) (keyed : base.Keyed)
    (attached : base.Attached) (marked : base.Marked) (dated : base.Dated begun) :
    base.Extends (base.putAll rows) where
  rows k r found := by
    have there : (base.row k).isSome := Option.isSome_iff_exists.2 ⟨r, found⟩
    obtain ⟨r', found'⟩ := Option.isSome_iff_exists.1 (Tables.isSome_putAll_of_isSome there rows)
    refine ⟨r', found', ?_⟩
    obtain rfl : r'.key = k := keyed.putAll rows k r' found'
    cases h.made keyed found' with
    | kept same =>
      cases found.symm.trans same
      exact .refl r
    | @changed change at_ shown asked =>
      rw [key_changedRecord keyed] at found
      obtain ⟨record, stored, rfl⟩ := Option.map_eq_some_iff.1 found
      have record_eq : foundRecord base change at_ = record := by rw [foundRecord, stored]; rfl
      have old : record.updatedAt ≤ begun := dated _ _ found
      refine .approval ⟨?_, old.trans shown.1⟩
      rw [changedRecord, ApprovalRecord.change, record_eq]
      exact record.createdAt_withState _ _
    | created ready absent => cases absent.symm.trans found
    | @added request x absent stored =>
      have there := attached request.id x.id (Option.isSome_iff_exists.2 ⟨r, found⟩)
      rw [absent] at there
      cases there
    | @updated update row at_ shown request requested same new =>
      rw [update.key_apply, same] at found
      cases found
      have there := marked _ _ row ((row_recipient _ _ _ _).1 same)
      exact .recipient (update.grows there new at_)
  recipients id e requested there := by
    obtain ⟨r, found⟩ := Option.isSome_iff_exists.1 there
    have key : r.key = .recipient id e := keyed.putAll rows _ r found
    cases h.made keyed found with
    | kept same =>
      rw [← key, same]
      rfl
    | changed => cases key
    | created => cases key
    | added absent =>
      cases key
      obtain ⟨request, known⟩ := Option.isSome_iff_exists.1 requested
      cases absent.symm.trans known
    | @updated update row at_ shown request requested same new =>
      rw [← key, update.key_apply, same]
      rfl
  versions k := Nat.le_of_eq (base.version_putAll rows k).symm

/-! ## Commits -/

/-- The rows of a deed are published on tables that hold them as the transaction found them. -/
structure Merged (base committed : Tables) (rows : List Row) (left : Tables) : Prop where
  stored : ∀ k ∈ rows.map Row.key, left.row k = (base.putAll rows).row k
  others : ∀ k, k ∉ rows.map Row.key → left.row k = committed.row k
  found : ∀ k ∈ rows.map Row.key, committed.row k = base.row k
  versions : ∀ k, committed.version k ≤ left.version k

theorem merged_of_canCommit {committed : Tables}
    (copied : ((Transaction.start base).putAll rows).Over base) (evolves : base.Evolves committed)
    (can : ((Transaction.start base).putAll rows).canCommit committed = true) :
    Merged base committed rows
      (committed.publish ((Transaction.start base).putAll rows).tables
        ((Transaction.start base).putAll rows).writes) where
  stored k hk := by
    rw [Tables.row_publish, if_pos (Transaction.mem_writes_putAll.2 (.inl hk)),
      Transaction.tables_putAll]
    rfl
  others k hk := by
    rw [Tables.row_publish, if_neg]
    intro written
    rcases Transaction.mem_writes_putAll.1 written with stored | before
    · exact hk stored
    · cases before
  found k hk :=
    (copied.row_eq evolves can (Transaction.mem_writes_putAll.2 (.inl hk))).symm
  versions := (copied.evolves_publish evolves can).version_le

namespace Merged

variable {committed left : Tables}

/-- What the deed made of a row that it stored is what became of the committed one. -/
theorem cases (h : Merged base committed rows left) (k : RowKey) :
    left.row k = committed.row k ∨
      left.row k = (base.putAll rows).row k ∧ committed.row k = base.row k := by
  by_cases hk : k ∈ rows.map Row.key
  · exact .inr ⟨h.stored k hk, h.found k hk⟩
  · exact .inl (h.others k hk)

theorem dated (h : Merged base committed rows left) {before : Instant}
    (committedDated : committed.Dated before) (deedDated : (base.putAll rows).Dated now)
    (le : before ≤ now) : left.Dated now := by
  intro k r found
  rcases h.cases k with same | ⟨same, -⟩
  · exact (committedDated k r (same.symm.trans found)).mono le
  · exact deedDated k r (same.symm.trans found)

theorem grows (h : Merged base committed rows left)
    (attached : (base.putAll rows).Attached) (grows : base.Extends (base.putAll rows)) :
    committed.Extends left where
  rows k r found := by
    rcases h.cases k with same | ⟨same, before⟩
    · exact ⟨r, same.trans found, .refl r⟩
    · obtain ⟨r', found', grown⟩ := grows.rows k r (before.symm.trans found)
      exact ⟨r', same.trans found', grown⟩
  recipients id e requested there := by
    rcases h.cases (.recipient id e) with same | ⟨same, before⟩
    · rw [← same]
      exact there
    · rw [before]
      rw [same] at there
      refine grows.recipients id e ?_ there
      -- a request that only the committed tables hold would have been stored by the deed
      by_contra absent
      have stored : RowKey.request id ∈ rows.map Row.key := by
        by_contra other
        have known := attached id e there
        rw [Tables.row_putAll_of_not_mem other] at known
        exact absent known
      rw [← h.found _ stored] at absent
      exact absent requested
  versions := h.versions

end Merged

end

end Memory

end Appraisal
