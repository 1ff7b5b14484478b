import Appraisal.Session
import Appraisal.Table

/-!
# Tables in memory

The rows of the store, with a version for every row: how often a commit has published it.  Rows of
all tables share one space of keys.  Their ranks fall into three blocks, so that no two keys of
different tables meet.

The reads are functions on tables.  `listFor` sorts the newest request first, and by identifier
where two are equally old.
-/

namespace Appraisal.Memory

/-- The key of a row of any table. -/
inductive RowKey
  /-- The approval record of a mapping. -/
  | approval (id : MappingId)
  /-- A revision request. -/
  | request (id : RevisionRequestId)
  /-- The row of a recipient of a request. -/
  | recipient (requestId : RevisionRequestId) (recipientId : EmployeeId)
deriving DecidableEq

/-- The place of a key among the keys of all tables. -/
def RowKey.place : RowKey → Nat
  | approval id => rank id
  | request id => Uuid.count + rank id
  | recipient requestId recipientId => Uuid.count * Uuid.count + rank (requestId, recipientId)

instance : Ranked RowKey where
  rank := RowKey.place
  rank_inj h := by
    rename_i a b
    have bound : ∀ {e : Entity} (i : Id e), rank i < Uuid.count := fun i => i.rank_lt
    cases a <;> cases b <;> simp only [RowKey.place] at h <;> unfold Uuid.count at *
    case approval.approval i j => rw [rank_inj h]
    case request.request i j => rw [rank_inj (show rank i = rank j by omega)]
    case recipient.recipient i j k l =>
      have := rank_inj (show rank (i, j) = rank (k, l) by omega)
      simp_all
    case approval.request i j => have := bound i; omega
    case request.approval i j => have := bound j; omega
    case approval.recipient i j k => have := bound i; omega
    case recipient.approval i j k => have := bound k; omega
    case request.recipient i j k => have := bound i; omega
    case recipient.request i j k => have := bound k; omega

/-- All rows of the store and their versions. -/
structure Tables where
  /-- The approval records. -/
  approvals : Table MappingId ApprovalRecord
  /-- The revision requests. -/
  requests : Table RevisionRequestId RevisionRequest
  /-- The recipients' rows. -/
  recipients : Table (RevisionRequestId × EmployeeId) RecipientRow
  /-- How often each row was published. -/
  versions : Table RowKey Nat
deriving DecidableEq

namespace Tables

instance : Inhabited Tables := ⟨⟨.empty, .empty, .empty, .empty⟩⟩

/-! ## Versions -/

/-- How often a row was published. -/
def version (t : Tables) (key : RowKey) : Nat := (t.versions.get? key).getD 0

/-- The tables with a row published once more. -/
def bumpVersion (t : Tables) (key : RowKey) : Tables :=
  { t with versions := t.versions.insert key (t.version key + 1) }

/-- A table with the row that another has for a key, or without one if that has none. -/
def copyEntry {K V : Type} [Ranked K] (table source : Table K V) (key : K) : Table K V :=
  match source.get? key with
  | some row => table.insert key row
  | none => table.erase key

/-- The tables with one row as others have it. -/
def copyRow (t source : Tables) : RowKey → Tables
  | .approval id => { t with approvals := copyEntry t.approvals source.approvals id }
  | .request id => { t with requests := copyEntry t.requests source.requests id }
  | .recipient requestId recipientId =>
    { t with recipients := copyEntry t.recipients source.recipients (requestId, recipientId) }

/-- The tables with one row published as others have it. -/
def publishRow (t source : Tables) (key : RowKey) : Tables :=
  (t.copyRow source key).bumpVersion key

/-- The tables with some rows published as others have them. -/
def publish (t source : Tables) (keys : List RowKey) : Tables :=
  keys.foldl (fun t key => t.publishRow source key) t

/-! ## Reads -/

/-- The rows of all recipients of a request, in the order of the recipients. -/
def recipientsOf (t : Tables) (requestId : RevisionRequestId) : List RecipientRow :=
  t.recipients.values.filter fun row => row.requestId == requestId

/-- How many requests a recipient has not read. -/
def countUnread (t : Tables) (recipientId : EmployeeId) : Nat :=
  t.recipients.values.countP fun row => row.recipientId == recipientId && !row.isRead

/-- A request stands no later in a list than another. -/
def listedBefore (a b : RequestView) : Bool :=
  decide (b.request.requestedAt < a.request.requestedAt) ||
    (decide (a.request.requestedAt = b.request.requestedAt) &&
      decide (rank a.request.id ≤ rank b.request.id))

/-- Puts a view in front of the first one that it may stand before. -/
def placeView (v : RequestView) : List RequestView → List RequestView
  | [] => [v]
  | w :: ws => if listedBefore v w then v :: w :: ws else w :: placeView v ws

/-- The views in the order of a list. -/
def sortViews : List RequestView → List RequestView
  | [] => []
  | v :: vs => placeView v (sortViews vs)

/-- The view of a recipient's row, if the filter keeps it. -/
def view? (t : Tables) (filter : RecipientFilter) (row : RecipientRow) : Option RequestView :=
  match t.requests.get? row.requestId with
  | some request => if filter.keeps request row then some ⟨request, row⟩ else none
  | none => none

/-- A recipient's requests that the filter keeps, in the order of a list. -/
def viewsFor (t : Tables) (recipientId : EmployeeId) (filter : RecipientFilter) :
    List RequestView :=
  sortViews <|
    (t.recipients.values.filter fun row => row.recipientId == recipientId).filterMap
      (t.view? filter)

/-- The part of a recipient's requests that the filter shows. -/
def listFor (t : Tables) (recipientId : EmployeeId) (filter : RecipientFilter) :
    List RequestView :=
  filter.page (t.viewsFor recipientId filter)

end Tables

end Appraisal.Memory
