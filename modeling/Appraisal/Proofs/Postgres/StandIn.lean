import Appraisal.Proofs.Program
import Appraisal.Proofs.Postgres.Mirror

/-!
# The store in memory in place of the server

A sequence of store calls is made in a transaction in memory and on the server, on the same rows,
and no call fails.  The answers are the same but for three things.

* The server keeps times in microseconds.
* A record that is saved again keeps the time at which it was made on the server, and takes that of
  the new record in memory.
* An update leaves the type of a recipient on the server, and takes the new one in memory.

`stands_in` says exactly which answers the server gives (`asMade`).  What stays of a row that is
written over is kept beside the calls (`Memory.Origins`).

The server may fail where the store in memory does not, since it checks the rows that it stores: it
takes no recipient's row that is completed but not read (`served_iff_of_stored`).

The proof goes through tables in memory that the server mirrors.  What the server makes of a call is
what the store in memory makes of another one, in which the columns that the server does not write
are those of the stored row (`Tables.settle`).  `Tracks` relates these tables to those of the store
in memory, and every call preserves it.
-/

namespace Appraisal

/-! ## Answers -/

namespace StoreCall

/-- An answer with its records, requests and recipients' rows changed. -/
def mapValue (record : ApprovalRecord → ApprovalRecord)
    (request : RevisionRequest → RevisionRequest) (row : RecipientRow → RecipientRow) :
    (call : StoreCall) → call.Value → call.Value
  | .findApproval _, found => Option.map record found
  | .findRequest _, found => Option.map request found
  | .findRecipient _ _, found => Option.map row found
  | .recipientsOf _, rows => List.map row rows
  | .listFor _ _, views => List.map (fun v => ⟨request v.request, row v.recipient⟩) views
  | .saveApproval _, a | .insertRequest _, a | .insertRecipient _, a | .updateRecipient _, a
  | .countUnread _, a => a

variable {record record' : ApprovalRecord → ApprovalRecord}
  {request request' : RevisionRequest → RevisionRequest} {row row' : RecipientRow → RecipientRow}

theorem mapValue_mapValue (call : StoreCall) (a : call.Value) :
    call.mapValue record request row (call.mapValue record' request' row' a) =
      call.mapValue (record ∘ record') (request ∘ request') (row ∘ row') a := by
  cases call with
  | findApproval id => exact Option.map_map ..
  | findRequest id => exact Option.map_map ..
  | findRecipient requestId recipientId => exact Option.map_map ..
  | recipientsOf requestId => exact List.map_map
  | listFor recipientId filter => exact List.map_map
  | _ => rfl

end StoreCall

/-- A store call with its answer. -/
abbrev Told : Type := Program.Answered StoreCall.Value

/-- Store calls with their answers, one after the other. -/
inductive Chain {σ : Type} (step : σ → (call : StoreCall) → call.Value → σ → Prop) :
    σ → List Told → σ → Prop
  | nil (s : σ) : Chain step s [] s
  | cons {s mid last : σ} {call : StoreCall} {a : call.Value} {rest : List Told}
    (first : step s call a mid) (later : Chain step mid rest last) :
    Chain step s (⟨call, a⟩ :: rest) last

/-! ## The server -/

namespace Memory

/-- What the server makes of a call: columns that it does not write are those of the stored row. -/
def Tables.settle (t : Tables) : StoreCall → StoreCall
  | .saveApproval r => .saveApproval ((t.approvals.get? r.mappingId).elim r r.over)
  | .updateRecipient r => .updateRecipient ((t.unfinished? r).elim r r.over)
  | call => call

theorem Tables.written_settle_of_none {t : Tables} {r : RecipientRow}
    (idle : t.unfinished? r = none) : t.written (t.settle (.updateRecipient r)) = t := by
  rw [settle, idle, Option.elim_none, written, answer, idle]
  rfl

theorem Tables.written_settle_of_some {t : Tables} {r old : RecipientRow}
    (finds : t.unfinished? r = some old) (requestId : old.requestId = r.requestId)
    (recipientId : old.recipientId = r.recipientId) :
    t.written (t.settle (.updateRecipient r)) = t.put (.recipient (r.over old)) := by
  have again : t.unfinished? (r.over old) = some old := by
    rw [← finds, unfinished?, unfinished?, ← requestId, ← recipientId]
    rfl
  rw [settle, finds, Option.elim_some, written, answer, again]
  rfl

end Memory

namespace Postgres

/-- An answer as it is read back. -/
def keptValue : (call : StoreCall) → call.Value → call.Value :=
  StoreCall.mapValue keptRecord keptRequest kept

namespace Database

variable {db after : Database} {t : Memory.Tables} {drawn : List Uuid} {session : Session}

/-- A call on a database that mirrors tables is a call on the tables. -/
theorem Mirrors.store (mirrors : db.Mirrors t) (connected : session.connected = true)
    {call : StoreCall} (single : ∀ recipientId filter, call ≠ .listFor recipientId filter)
    {a : call.Value} (performed : db.Performs (session.store call) drawn a after) :
    a = keptValue call (t.answer call) ∧ after.Mirrors (t.written (t.settle call)) := by
  cases call with
  | findApproval id =>
    obtain ⟨-, rfl, found⟩ := (mirrors.findApproval_iff connected).1 performed
    exact ⟨found, mirrors⟩
  | findRequest id =>
    obtain ⟨-, rfl, found⟩ := (mirrors.findRequest_iff connected).1 performed
    exact ⟨found, mirrors⟩
  | findRecipient requestId recipientId =>
    obtain ⟨-, rfl, found⟩ := (mirrors.findRecipient_iff connected).1 performed
    exact ⟨found, mirrors⟩
  | recipientsOf requestId =>
    obtain ⟨-, rfl, found⟩ := (mirrors.recipientsOf_iff connected).1 performed
    exact ⟨found, mirrors⟩
  | countUnread recipientId =>
    obtain ⟨-, rfl, counted⟩ := (mirrors.countUnread_iff connected).1 performed
    exact ⟨counted, mirrors⟩
  | listFor recipientId filter => exact absurd rfl (single recipientId filter)
  | saveApproval r => exact ⟨rfl, mirrors.saveApproval connected performed⟩
  | insertRequest q => exact ⟨rfl, mirrors.insertRequest connected performed⟩
  | insertRecipient r => exact ⟨rfl, mirrors.insertRecipient connected performed⟩
  | updateRecipient r =>
    obtain ⟨updated, mirrors'⟩ := mirrors.updateRecipient connected performed
    refine ⟨updated, ?_⟩
    cases writes : t.unfinished? r with
    | none =>
      rw [writes] at mirrors'
      rwa [Memory.Tables.written_settle_of_none writes]
    | some old =>
      rw [writes] at mirrors'
      obtain ⟨held, -⟩ := Option.filter_eq_some_iff.1 writes
      obtain ⟨requestId, recipientId⟩ := mirrors.keyed.recipient held
      rwa [Memory.Tables.written_settle_of_some writes requestId recipientId]

end Database

end Postgres

/-! ## Two stores side by side -/

namespace Memory

/-- What stays when rows are written over on the server: when the record of a mapping was made, and
in which role somebody received a request. -/
structure Origins where
  /-- When the records were made. -/
  made : MappingId → Option Instant
  /-- The roles of the recipients' rows. -/
  roles : RevisionRequestId × EmployeeId → Option Role

/-- What stays of the rows that are stored. -/
def Tables.origins (t : Tables) : Origins where
  made id := (t.approvals.get? id).map (·.createdAt)
  roles key := (t.recipients.get? key).map (·.role)

namespace Origins

/-- A record is made by the call that saves it first, and a role is given by an insertion. -/
def after (o : Origins) : StoreCall → Origins
  | .saveApproval r =>
    { o with made := fun id =>
        (o.made id).or (if r.mappingId = id then some r.createdAt else none) }
  | .insertRecipient r =>
    { o with roles := fun key =>
        (o.roles key).or (if (r.requestId, r.recipientId) = key then some r.role else none) }
  | _ => o

/-- A record with the time at which it was made. -/
def record (o : Origins) (r : ApprovalRecord) : ApprovalRecord :=
  { r with createdAt := (o.made r.mappingId).getD r.createdAt }

/-- A recipient's row with the role in which it was inserted. -/
def row (o : Origins) (r : RecipientRow) : RecipientRow :=
  { r with role := (o.roles (r.requestId, r.recipientId)).getD r.role }

theorem record_after (o : Origins) (r : ApprovalRecord) :
    (o.after (.saveApproval r)).record r = o.record r := by
  simp only [record, after]
  cases o.made r.mappingId <;> simp

theorem record_after_of_ne (o : Origins) {r other : ApprovalRecord}
    (apart : other.mappingId ≠ r.mappingId) :
    (o.after (.saveApproval r)).record other = o.record other := by
  simp only [record, after]
  rw [if_neg apart.symm, Option.or_none]

theorem row_after (o : Origins) (r : RecipientRow) :
    (o.after (.insertRecipient r)).row r = o.row r := by
  simp only [row, after]
  cases o.roles (r.requestId, r.recipientId) <;> simp

theorem row_after_of_ne (o : Origins) {r other : RecipientRow}
    (apart : (other.requestId, other.recipientId) ≠ (r.requestId, r.recipientId)) :
    (o.after (.insertRecipient r)).row other = o.row other := by
  simp only [row, after]
  rw [if_neg apart.symm, Option.or_none]

/-- A record that is saved over one with the right time gets that time. -/
theorem over_record (o : Origins) {r old : ApprovalRecord} (same : old.mappingId = r.mappingId)
    (known : (o.made r.mappingId).isSome) : r.over (o.record old) = o.record r := by
  obtain ⟨time, known⟩ := Option.isSome_iff_exists.1 known
  simp only [ApprovalRecord.over, record, same, known, Option.getD_some]

/-- A row that is written over one in the right role gets that role. -/
theorem over_row (o : Origins) {r old : RecipientRow} (requestId : old.requestId = r.requestId)
    (recipientId : old.recipientId = r.recipientId)
    (known : (o.roles (r.requestId, r.recipientId)).isSome) : r.over (o.row old) = o.row r := by
  obtain ⟨role, known⟩ := Option.isSome_iff_exists.1 known
  simp only [RecipientRow.over, row, requestId, recipientId, known, Option.getD_some]

end Origins

/-- The first tables hold the rows of the second ones, each with what stays of its first version. -/
structure Tracks (o : Origins) (k m : Tables) : Prop where
  /-- Every row stands under its own key. -/
  keyed : m.Keyed
  /-- It is known of the stored records when they were made. -/
  made : ∀ id, (o.made id).isSome = (m.approvals.get? id).isSome
  /-- The roles of the stored rows are known. -/
  roles : ∀ key, (o.roles key).isSome = (m.recipients.get? key).isSome
  /-- The records are the same but for when they were made. -/
  approvals : k.approvals = m.approvals.map o.record
  /-- The requests are the same. -/
  requests : k.requests = m.requests
  /-- The recipients' rows are the same but for their roles. -/
  recipients : k.recipients = m.recipients.map o.row

variable {o : Origins} {k m : Tables}

theorem Tracks.refl (keyed : m.Keyed) : Tracks m.origins m m where
  keyed := keyed
  made id := Option.isSome_map
  roles key := Option.isSome_map
  approvals := by
    refine Table.ext fun id => ?_
    rw [Table.get?_map]
    cases held : m.approvals.get? id with
    | none => rfl
    | some r =>
      obtain rfl := keyed.approval held
      simp [Origins.record, Tables.origins, held]
  requests := rfl
  recipients := by
    refine Table.ext fun key => ?_
    rw [Table.get?_map]
    cases held : m.recipients.get? key with
    | none => rfl
    | some r =>
      obtain ⟨requestId, recipientId⟩ := keyed.recipient held
      obtain rfl : (r.requestId, r.recipientId) = key := Prod.ext requestId recipientId
      simp [Origins.row, Tables.origins, held]

theorem Tracks.unfinished (h : Tracks o k m) (r : RecipientRow) :
    k.unfinished? r = (m.unfinished? r).map o.row := by
  rw [Tables.unfinished?, Tables.unfinished?, h.recipients, Table.get?_map]
  cases m.recipients.get? (r.requestId, r.recipientId) with
  | none => rfl
  | some old =>
    have same : (o.row old).isCompleted = old.isCompleted := rfl
    rw [Option.map_some, Option.filter_some, Option.filter_some, same]
    cases old.isCompleted <;> rfl

/-- The answers to a call are the same but for that, too. -/
theorem Tracks.answer (h : Tracks o k m) {call : StoreCall}
    (single : ∀ recipientId filter, call ≠ .listFor recipientId filter) :
    k.answer call = call.mapValue o.record id o.row (m.answer call) := by
  cases call with
  | findApproval mappingId =>
    show k.approvals.get? mappingId = (m.approvals.get? mappingId).map o.record
    rw [h.approvals, Table.get?_map]
  | findRequest requestId =>
    show k.requests.get? requestId = (m.requests.get? requestId).map id
    rw [h.requests, Option.map_id_fun]
    rfl
  | findRecipient requestId recipientId =>
    show k.recipients.get? _ = (m.recipients.get? _).map o.row
    rw [h.recipients, Table.get?_map]
  | recipientsOf requestId =>
    show k.recipients.values.filter _ = (m.recipients.values.filter _).map o.row
    rw [h.recipients, Table.values_map, List.filter_map]
    rfl
  | listFor recipientId filter => exact absurd rfl (single recipientId filter)
  | countUnread recipientId =>
    show k.recipients.values.countP _ = m.recipients.values.countP _
    rw [h.recipients, Table.values_map, List.countP_map]
    rfl
  | saveApproval r => rfl
  | insertRequest q => rfl
  | insertRecipient r => rfl
  | updateRecipient r =>
    show (k.unfinished? r).isSome = (m.unfinished? r).isSome
    rw [h.unfinished, Option.isSome_map]

/-! ### Calls that write -/

theorem Tracks.saveApproval (h : Tracks o k m) (r : ApprovalRecord) :
    Tracks (o.after (.saveApproval r))
      (k.put (.approval ((k.approvals.get? r.mappingId).elim r r.over))) (m.put (.approval r)) := by
  have saved : (k.approvals.get? r.mappingId).elim r r.over = o.record r := by
    have known := h.made r.mappingId
    rw [h.approvals, Table.get?_map]
    cases held : m.approvals.get? r.mappingId with
    | none =>
      rw [held, Option.isSome_none, Option.isSome_eq_false_iff, Option.isNone_iff_eq_none] at known
      simp [Origins.record, known]
    | some old =>
      rw [held] at known
      exact o.over_record (h.keyed.approval held) known
  rw [saved]
  refine ⟨h.keyed.putAll [.approval r], fun id => ?_, h.roles, ?_, h.requests, h.recipients⟩
  · show ((o.made id).or _).isSome = ((m.approvals.insert r.mappingId r).get? id).isSome
    rw [Table.get?_insert, Option.isSome_or, h.made]
    by_cases same : r.mappingId = id
    · simp [same]
    · rw [if_neg same, if_neg fun e => same (rank_inj e), Option.isSome_none, Bool.or_false]
  · show k.approvals.insert r.mappingId (o.record r) = (m.approvals.insert r.mappingId r).map _
    rw [h.approvals, ← o.record_after]
    refine (Table.map_insert (fun id old other held => o.record_after_of_ne ?_) r).symm
    rwa [h.keyed.approval held]

theorem Tracks.insertRecipient (h : Tracks o k m) {r : RecipientRow}
    (free : m.recipients.get? (r.requestId, r.recipientId) = none) :
    Tracks (o.after (.insertRecipient r)) (k.put (.recipient r)) (m.put (.recipient r)) := by
  have unknown : o.roles (r.requestId, r.recipientId) = none := by
    have known := h.roles (r.requestId, r.recipientId)
    rwa [free, Option.isSome_none, Option.isSome_eq_false_iff, Option.isNone_iff_eq_none] at known
  have own : o.row r = r := by simp [Origins.row, unknown]
  refine ⟨h.keyed.putAll [.recipient r], h.made, fun key => ?_, h.approvals, h.requests, ?_⟩
  · show ((o.roles key).or _).isSome =
      ((m.recipients.insert (r.requestId, r.recipientId) r).get? key).isSome
    rw [Table.get?_insert, Option.isSome_or, h.roles]
    by_cases same : (r.requestId, r.recipientId) = key
    · simp [same]
    · rw [if_neg same, if_neg fun e => same (rank_inj e), Option.isSome_none, Bool.or_false]
  · show k.recipients.insert (r.requestId, r.recipientId) r =
      (m.recipients.insert (r.requestId, r.recipientId) r).map _
    have inserted := Table.map_insert (f := o.row) (g := (o.after (.insertRecipient r)).row)
      (t := m.recipients) (k := (r.requestId, r.recipientId))
      (fun key old other held => o.row_after_of_ne (by
        obtain ⟨requestId, recipientId⟩ := h.keyed.recipient held
        rwa [requestId, recipientId])) r
    rw [inserted, o.row_after, own, h.recipients]

theorem Tracks.updateRecipient (h : Tracks o k m) (r : RecipientRow) :
    Tracks o (k.written (k.settle (.updateRecipient r))) (m.written (.updateRecipient r)) := by
  have looks := h.unfinished r
  cases writes : m.unfinished? r with
  | none =>
    rw [writes] at looks
    have stays : m.written (.updateRecipient r) = m := by
      rw [Tables.written, Tables.answer, writes]
      rfl
    rwa [Tables.written_settle_of_none looks, stays]
  | some old =>
    rw [writes] at looks
    obtain ⟨held, -⟩ := Option.filter_eq_some_iff.1 writes
    obtain ⟨requestId, recipientId⟩ := h.keyed.recipient held
    have known : (o.roles (r.requestId, r.recipientId)).isSome := by
      rw [h.roles, held]
      rfl
    have written : m.written (.updateRecipient r) = m.put (.recipient r) := by
      rw [Tables.written, Tables.answer, writes]
      rfl
    rw [Tables.written_settle_of_some looks requestId recipientId, written,
      o.over_row requestId recipientId known]
    refine ⟨h.keyed.putAll [.recipient r], h.made, fun key => ?_, h.approvals, h.requests, ?_⟩
    · show _ = ((m.recipients.insert (r.requestId, r.recipientId) r).get? key).isSome
      rw [Table.get?_insert, h.roles]
      split
      · rename_i same
        rw [← rank_inj same, held]
        rfl
      · rfl
    · show k.recipients.insert (r.requestId, r.recipientId) (o.row r) =
        (m.recipients.insert (r.requestId, r.recipientId) r).map o.row
      rw [Table.map_insert (f := o.row) (fun _ _ _ _ => rfl), h.recipients]

theorem Tracks.admits (h : Tracks o k m) {call : StoreCall} (admits : m.Admits call) :
    k.Admits call := by
  cases call with
  | insertRequest q =>
    show k.requests.get? q.id = none
    rw [h.requests]
    exact admits
  | insertRecipient r =>
    obtain ⟨requested, free⟩ := admits
    refine ⟨h.requests ▸ requested, ?_⟩
    rw [h.recipients, Table.get?_map, free]
    rfl
  | _ => trivial

/-- A call keeps them so. -/
theorem Tracks.written (h : Tracks o k m) {call : StoreCall} (admits : m.Admits call) :
    Tracks (o.after call) (k.written (k.settle call)) (m.written call) := by
  cases call with
  | findApproval mappingId => exact h
  | findRequest requestId => exact h
  | findRecipient requestId recipientId => exact h
  | recipientsOf requestId => exact h
  | listFor recipientId filter => exact h
  | countUnread recipientId => exact h
  | saveApproval r => exact h.saveApproval r
  | insertRequest q =>
    refine ⟨h.keyed.putAll [.request q], h.made, h.roles, h.approvals, ?_, h.recipients⟩
    show k.requests.insert q.id q = m.requests.insert q.id q
    rw [h.requests]
  | insertRecipient r => exact h.insertRecipient admits.2
  | updateRecipient r => exact h.updateRecipient r

end Memory

/-! ## Sequences of calls -/

/-- If the call stores a recipient's row that is completed, the row is also read. -/
def Told.Readable (a : Told) : Prop :=
  ∀ r, Memory.storedRow a.request (.ok a.answer) = some (.recipient r) →
    r.isCompleted = true → r.isRead = true

/-- A call in memory that does not fail. -/
def Memory.Session.Serves (s : Session) (call : StoreCall) (a : call.Value) (s' : Session) : Prop :=
  s.store call = (.ok a, s')

namespace Postgres

/-- A call on the server that does not fail. -/
def Session.Serves (session : Session) (db : Database) (call : StoreCall) (a : call.Value)
    (after : Database) : Prop :=
  db.Performs (session.store call) [] a after

/-- The answers that the server gives where the store in memory gives others.  Records have the time
at which they were made and recipients' rows the role in which they were inserted, and all times are
cut off. -/
def asMade : Memory.Origins → List Told → List Told
  | _, [] => []
  | o, a :: rest =>
    ⟨a.request, a.request.mapValue (keptRecord ∘ o.record) keptRequest (kept ∘ o.row) a.answer⟩ ::
      asMade (o.after a.request) rest

variable {o : Memory.Origins} {k t : Memory.Tables} {session : Session} {db last : Database}
  {s left : Memory.Session} {answers replies : List Told}

/-- The answer to one call. -/
theorem keptValue_answer (tracks : Memory.Tracks o k t) {call : StoreCall}
    (single : ∀ recipientId filter, call ≠ .listFor recipientId filter) :
    keptValue call (k.answer call) =
      call.mapValue (keptRecord ∘ o.record) keptRequest (kept ∘ o.row) (t.answer call) := by
  rw [tracks.answer single, keptValue, StoreCall.mapValue_mapValue]
  rfl

/-- The answers to a sequence of calls. -/
theorem answers_eq_asMade (connected : session.connected = true) (mirrors : db.Mirrors k)
    (tracks : Memory.Tracks o k t) (reads : s.tables = .ok t)
    (same : answers.map (·.request) = replies.map (·.request))
    (single : ∀ a ∈ replies, ∀ recipientId filter, a.request ≠ .listFor recipientId filter)
    (served : Chain session.Serves db answers last)
    (stored : Chain Memory.Session.Serves s replies left) : answers = asMade o replies := by
  induction served generalizing k o t s replies with
  | nil db =>
    obtain rfl : replies = [] := List.map_eq_nil_iff.1 same.symm
    rfl
  | @cons db mid last call a rest first later ih =>
    cases stored with
    | nil => cases same
    | @cons _ mid' _ call' a' rest' first' later' =>
      obtain ⟨head, rests⟩ : call = call' ∧ rest.map (·.request) = rest'.map (·.request) :=
        List.cons.inj same
      subst head
      obtain ⟨this, single⟩ := List.forall_mem_cons.1 single
      obtain ⟨told, mirrors⟩ := mirrors.store connected this first
      obtain ⟨admits, told', reads'⟩ := Memory.store_ok reads first'
      rw [ih mirrors (tracks.written admits) reads' rests single later', told, told',
        keptValue_answer tracks this]
      rfl

theorem storedRow_mapValue (call : StoreCall) (a : call.Value)
    {record : ApprovalRecord → ApprovalRecord} {request : RevisionRequest → RevisionRequest}
    {row : RecipientRow → RecipientRow} :
    Memory.storedRow call (.ok (call.mapValue record request row a)) =
      Memory.storedRow call (.ok a) := by
  cases call <;> rfl

/-- A call is answered exactly if the row that it stores is read or not completed. -/
theorem Database.Mirrors.serves_iff (mirrors : db.Mirrors k) (conforms : db.Conforms)
    (connected : session.connected = true) {call : StoreCall}
    (single : ∀ recipientId filter, call ≠ .listFor recipientId filter) (admits : k.Admits call) :
    (∃ after, session.Serves db call (keptValue call (k.answer call)) after) ↔
      Told.Readable ⟨call, k.answer call⟩ := by
  cases call with
  | findApproval id =>
    exact iff_of_true ⟨db, (mirrors.findApproval_iff connected).2 ⟨rfl, rfl, rfl⟩⟩
      fun _ stored => nomatch stored
  | findRequest id =>
    exact iff_of_true ⟨db, (mirrors.findRequest_iff connected).2 ⟨rfl, rfl, rfl⟩⟩
      fun _ stored => nomatch stored
  | findRecipient requestId recipientId =>
    exact iff_of_true ⟨db, (mirrors.findRecipient_iff connected).2 ⟨rfl, rfl, rfl⟩⟩
      fun _ stored => nomatch stored
  | recipientsOf requestId =>
    exact iff_of_true ⟨db, (mirrors.recipientsOf_iff connected).2 ⟨rfl, rfl, rfl⟩⟩
      fun _ stored => nomatch stored
  | countUnread recipientId =>
    exact iff_of_true ⟨db, (mirrors.countUnread_iff connected).2 ⟨rfl, rfl, rfl⟩⟩
      fun _ stored => nomatch stored
  | listFor recipientId filter => exact absurd rfl (single recipientId filter)
  | saveApproval r =>
    exact iff_of_true ⟨_, (Database.performs_saveApproval_iff connected).2 ⟨rfl, rfl⟩⟩
      fun _ stored => nomatch stored
  | insertRequest q =>
    have free := any_has has_requestKey mirrors.keyed.requests mirrors.requests q.id
    have admits : k.requests.get? q.id = none := admits
    rw [admits] at free
    exact iff_of_true ⟨_, (Database.performs_insertRequest_iff connected).2 ⟨rfl, free, rfl⟩⟩
      fun _ stored => nomatch stored
  | insertRecipient r =>
    have free := any_has has_recipientPair mirrors.keyed.recipients mirrors.recipients
      (r.requestId, r.recipientId)
    have requested := any_has has_requestKey mirrors.keyed.requests mirrors.requests r.requestId
    rw [admits.2] at free
    rw [admits.1] at requested
    constructor
    · rintro ⟨after, served⟩ _ ⟨⟩
      obtain ⟨-, -, keeps, -⟩ := (Database.performs_insertRecipient_iff connected).1 served
      exact (keeps conforms).1
    · exact fun readable => ⟨_, (Database.performs_insertRecipient_iff connected).2
        ⟨rfl, free, fun _ => ⟨readable r rfl, requested⟩, rfl⟩⟩
  | updateRecipient r =>
    have served : (∃ after, session.Serves db (.updateRecipient r) (k.unfinished? r).isSome after) ↔
        (db.set recipientTable ((db.rows recipientTable).map (writeOver r))).Conforms := by
      constructor
      · rintro ⟨after, served⟩
        obtain ⟨-, -, keeps, rfl⟩ := (Database.performs_updateRecipient_iff connected).1 served
        exact keeps conforms
      · exact fun keeps => ⟨_, (Database.performs_updateRecipient_iff connected).2
          ⟨rfl, (mirrors.countP_rowUpdate r).symm, fun _ => keeps, rfl⟩⟩
    refine served.trans ?_
    rw [Told.Readable]
    show _ ↔ ∀ w, Memory.storedRow (.updateRecipient r) (.ok (k.unfinished? r).isSome) = _ → _
    cases writes : k.unfinished? r with
    | none =>
      rw [mirrors.set_writeOver_of_none writes]
      exact iff_of_true conforms nofun
    | some old =>
      obtain ⟨held, unfinished⟩ := mirrors.under_of_some writes
      rw [Database.conforms_writeOver_iff conforms held unfinished]
      constructor
      · rintro readable _ ⟨⟩
        exact readable
      · exact fun readable => readable r rfl

/-- What does not fail in memory is answered by the server exactly if no row is stored that is
completed but not read. -/
theorem served_iff_of_stored (connected : session.connected = true) (mirrors : db.Mirrors k)
    (conforms : db.Conforms) (tracks : Memory.Tracks o k t) (reads : s.tables = .ok t)
    (single : ∀ a ∈ replies, ∀ recipientId filter, a.request ≠ .listFor recipientId filter)
    (stored : Chain Memory.Session.Serves s replies left) :
    (∃ answers last, Chain session.Serves db answers last ∧
      answers.map (·.request) = replies.map (·.request)) ↔ ∀ a ∈ replies, a.Readable := by
  induction stored generalizing k o t db with
  | nil s => exact iff_of_true ⟨[], db, .nil db, rfl⟩ fun _ mem => absurd mem List.not_mem_nil
  | @cons s mid left call a rest first later ih =>
    obtain ⟨this, single⟩ := List.forall_mem_cons.1 single
    obtain ⟨admits, told, reads'⟩ := Memory.store_ok reads first
    have serves := mirrors.serves_iff conforms connected this (tracks.admits admits)
    have same : Told.Readable ⟨call, k.answer call⟩ ↔ Told.Readable ⟨call, a⟩ := by
      rw [Told.Readable, Told.Readable, tracks.answer this, storedRow_mapValue, told]
    have next {after : Database} (served : session.Serves db call
        (keptValue call (k.answer call)) after) := ih (mirrors.store connected this served).2
      (served.conforms conforms) (tracks.written admits) reads' single
    rw [List.forall_mem_cons, ← same, ← serves]
    constructor
    · rintro ⟨answers, last, chain, requests⟩
      cases chain with
      | nil => cases requests
      | @cons _ after _ call' a' rest' served chain =>
        obtain ⟨head, rests⟩ : call' = call ∧ rest'.map (·.request) = rest.map (·.request) :=
          List.cons.inj requests
        subst head
        obtain rfl := (mirrors.store connected this served).1
        exact ⟨⟨after, served⟩, (next served).1 ⟨rest', last, chain, rests⟩⟩
    · rintro ⟨⟨after, served⟩, readable⟩
      obtain ⟨answers, last, chain, requests⟩ := (next served).2 readable
      exact ⟨_, last, .cons served chain, congrArg (List.cons call) requests⟩

/-- The store in memory stands in for the server.  A sequence of calls that does not fail in memory
is made on the same rows.  Whenever the server answers all of them, the answers are the same, but
that records have the time at which they were made, recipients' rows the role in which they were
inserted, and all times are cut off.  On a database that meets its constraints the server answers
them exactly if no recipient's row is stored that is completed but not read. -/
theorem stands_in (connected : session.connected = true) (mirrors : db.Mirrors t)
    (reads : s.tables = .ok t)
    (single : ∀ a ∈ replies, ∀ recipientId filter, a.request ≠ .listFor recipientId filter)
    (stored : Chain Memory.Session.Serves s replies left) :
    (∀ answers last, Chain session.Serves db answers last →
      answers.map (·.request) = replies.map (·.request) → answers = asMade t.origins replies) ∧
    (db.Conforms →
      ((∃ answers last, Chain session.Serves db answers last ∧
        answers.map (·.request) = replies.map (·.request)) ↔ ∀ a ∈ replies, a.Readable)) := by
  have tracks := Memory.Tracks.refl mirrors.keyed
  exact ⟨fun answers last served same =>
      answers_eq_asMade connected mirrors tracks reads same single served stored,
    fun conforms => served_iff_of_stored connected mirrors conforms tracks reads single stored⟩

/-! ### Rows that are written over -/

/-- The record as it is made once more. -/
def madeAgain : ApprovalRecord := .fresh default (.ofNanos 1700000000000000000)

/-- The row as its recipient reads it in another role. -/
def readOtherwise : RecipientRow :=
  (RecipientRow.fresh default default .primaryEvaluator).markRead (.ofNanos 1700000000123456789)

/-- The row as the server keeps it. -/
def readAsKept : RecipientRow :=
  (RecipientRow.fresh default default .evaluatee).markRead (.ofNanos 1700000000123456000)

/-- The record is saved again and the row is updated with another type, and both are looked up. -/
def writtenOver : List Told :=
  [⟨.saveApproval madeAgain, ()⟩, ⟨.findApproval default, some madeAgain⟩,
    ⟨.updateRecipient readOtherwise, true⟩, ⟨.recipientsOf default, [readOtherwise]⟩]

/-- The server's answers to these calls. -/
def writtenOverAsKept : List Told :=
  [⟨.saveApproval madeAgain, ()⟩,
    ⟨.findApproval default, some { madeAgain with createdAt := .epoch }⟩,
    ⟨.updateRecipient readOtherwise, true⟩, ⟨.recipientsOf default, [readAsKept]⟩]

theorem asMade_writtenOver : asMade asked.origins writtenOver = writtenOverAsKept := by
  have record : keptRecord (asked.origins.record madeAgain) =
      { madeAgain with createdAt := .epoch } := by decide +kernel
  have row : kept (asked.origins.row readOtherwise) = readAsKept := by decide +kernel
  rw [writtenOverAsKept, ← record, ← row]
  rfl

theorem single_writtenOver :
    ∀ a ∈ writtenOver, ∀ recipientId filter, a.request ≠ .listFor recipientId filter := by
  simp [writtenOver]

theorem stored_writtenOver : ∃ left, Chain Memory.Session.Serves asking writtenOver left := by
  have saved : asking.Serves (.saveApproval madeAgain) ()
    (asking.plus [.approval madeAgain]) := rfl
  have found : (asking.plus [.approval madeAgain]).Serves (.findApproval default)
    (some madeAgain) (asking.plus [.approval madeAgain]) := rfl
  have updated : (asking.plus [.approval madeAgain]).Serves (.updateRecipient readOtherwise) true
    (asking.plus [.approval madeAgain, .recipient readOtherwise]) := rfl
  have listed : (asking.plus [.approval madeAgain, .recipient readOtherwise]).Serves
    (.recipientsOf default) [readOtherwise]
    (asking.plus [.approval madeAgain, .recipient readOtherwise]) := rfl
  exact ⟨_, .cons saved (.cons found (.cons updated (.cons listed (.nil _))))⟩

theorem readable_writtenOver : ∀ a ∈ writtenOver, a.Readable := by
  simp only [writtenOver, List.forall_mem_cons]
  refine ⟨fun _ stored => ?_, fun _ stored => ?_, fun _ stored => ?_, fun _ stored => ?_,
    fun _ mem => absurd mem List.not_mem_nil⟩
  all_goals cases stored
  exact nofun

theorem conforms_image_asked : (Database.image asked).Conforms := by decide +kernel

/-- The server answers that the record was made when it was first saved, and that the row has the
type with which it was inserted. -/
theorem stands_in_writtenOver :
    ∃ last, Chain (default : Session).Serves (.image asked) writtenOverAsKept last := by
  obtain ⟨left, stored⟩ := stored_writtenOver
  obtain ⟨agree, answered⟩ := stands_in (show (default : Session).connected = true from rfl)
    (Database.mirrors_image keyed_asked) (show asking.tables = .ok asked from rfl)
    single_writtenOver stored
  obtain ⟨answers, last, served, same⟩ := (answered conforms_image_asked).2 readable_writtenOver
  rw [agree answers last served same, asMade_writtenOver] at served
  exact ⟨last, served⟩

/-- In memory the record and the row are as they were written last, and on the server they are not:
the record has another time, and the row another type and another time. -/
theorem answers_differ :
    (∃ last, Chain (default : Session).Serves (.image asked) writtenOverAsKept last) ∧
    (∃ left, Chain Memory.Session.Serves asking writtenOver left) ∧
    madeAgain.createdAt ≠ .epoch ∧ readOtherwise.role ≠ readAsKept.role ∧
      readOtherwise.readAt ≠ readAsKept.readAt := by
  refine ⟨?_, stored_writtenOver, by decide +kernel, by decide +kernel, by decide +kernel⟩
  have connected : (default : Session).connected = true := rfl
  have mirrors := Database.mirrors_image keyed_asked
  have tracks := Memory.Tracks.refl keyed_asked
  have reads : asking.tables = .ok asked := rfl
  obtain ⟨left, stored⟩ := stored_writtenOver
  obtain ⟨answers, last, served, same⟩ := (served_iff_of_stored connected mirrors
    conforms_image_asked tracks reads single_writtenOver stored).2 readable_writtenOver
  rw [answers_eq_asMade connected mirrors tracks reads same single_writtenOver served stored,
    asMade_writtenOver] at served
  exact ⟨last, served⟩

end Postgres

end Appraisal
