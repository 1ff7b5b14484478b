import Appraisal.Proofs.Concurrent.Turn
import Appraisal.Proofs.Program

/-!
# Twins

Two sessions over different snapshots are *twins* when their transactions have written the same
rows.  Twins answer a store call alike if it reads only rows in which the snapshots agree, and stay
twins (`Twin.store`).  So a program that reads only such rows goes the same way on both
(`Follows.twin`).

This is how the run of a transaction on its snapshot stands for a run on the tables that it finds
when it commits: these may have changed since, but not in the rows that it read.
-/

namespace Appraisal.Memory

/-- The rows that the answer to a store call depends on. -/
def reads : StoreCall → RowKey → Prop
  | .findApproval id, key => key = .approval id
  | .saveApproval _, _ => False
  | .insertRequest request, key => key = .request request.id
  | .insertRecipient row, key =>
    key = .request row.requestId ∨ key = .recipient row.requestId row.recipientId
  | .findRequest id, key => key = .request id
  | .findRecipient requestId recipientId, key => key = .recipient requestId recipientId
  | .recipientsOf _, _ => True
  | .updateRecipient row, key => key = .recipient row.requestId row.recipientId
  | .listFor _ _, _ => True
  | .countUnread _, _ => True

/-- The row is read in some turns. -/
def ReadIn (turns : List Turn) (key : RowKey) : Prop :=
  ∃ turn ∈ turns, ∃ call, turn.request = .session (.store call) ∧ reads call key

/-- The request is a store call on a session, or is not made to the store at all. -/
def Local : Request WorkflowEvent → Prop
  | .openSession | .findMapping _ => False
  | .session (.store _) => True
  | .session _ => False
  | _ => True

theorem Local.calm {request : Request WorkflowEvent} (h : Local request) : Calm request := by
  cases request with
  | openSession => exact h.elim
  | session call => cases call <;> first | exact h.elim | trivial
  | _ => trivial

/-- Local requests are answered alike by all stores. -/
theorem Local.answer {request : Request WorkflowEvent} (h : Local request) (w : Outside)
    (store other : Store) (s : Session) :
    (w.answer store s request).1 = (w.answer other s request).1 ∧
      (w.answer store s request).2.2 = (w.answer other s request).2.2 := by
  cases request with
  | openSession | findMapping => exact h.elim
  | session call =>
    cases call with
    | store call => exact ⟨rfl, rfl⟩
    | _ => exact h.elim
  | _ => exact ⟨rfl, rfl⟩

/-- Two sessions have written the same rows on different snapshots. -/
structure Session.Twin (base other : Tables) (s s' : Session) : Prop where
  /-- The transactions. -/
  working : ∃ t t' : Transaction, s.working = some t ∧ s'.working = some t' ∧
    t.Over base ∧ t'.Over other ∧ t'.writes = t.writes ∧
    ∀ key ∈ t.writes, t'.tables.row key = t.tables.row key
  /-- Both may write, or neither. -/
  readOnly : s'.readOnly = s.readOnly
  /-- Both are held, or neither. -/
  released : s'.released = s.released

namespace Session

variable {base other : Tables} {s s' : Session}

/-- Twins over a row in which the snapshots agree. -/
theorem Twin.row_eq {t t' : Transaction} (copied : t.Over base) (copied' : t'.Over other)
    (writes : t'.writes = t.writes) (rows : ∀ key ∈ t.writes, t'.tables.row key = t.tables.row key)
    {key : RowKey} (agree : base.row key = other.row key) :
    t'.tables.row key = t.tables.row key := by
  by_cases hk : key ∈ t.writes
  · exact rows key hk
  · rw [copied.untouched key hk, copied'.untouched key (by rwa [writes]), agree]

/-- Storing the same row keeps transactions twins. -/
theorem Twin.put {t t' : Transaction} (h : Twin base other s s') (working : s.working = some t)
    (working' : s'.working = some t') {r : Row}
    (new : ∀ id, r.key = .request id → t.tables.row (.request id) = none)
    (new' : ∀ id, r.key = .request id → t'.tables.row (.request id) = none) :
    Twin base other (s.withTransaction (t.put r)) (s'.withTransaction (t'.put r)) := by
  obtain ⟨u, u', hu, hu', copied, copied', writes, rows⟩ := h.working
  cases working.symm.trans hu
  cases working'.symm.trans hu'
  refine ⟨⟨_, _, rfl, rfl, copied.put new, copied'.put new', ?_, fun key hk => ?_⟩, h.readOnly,
    h.released⟩
  · simp only [Transaction.put, Transaction.write, writes]
  · rw [Transaction.tables_put, Transaction.tables_put, Tables.row_put, Tables.row_put]
    split
    · rfl
    · rename_i hne
      exact rows key ((Transaction.mem_writes_put.1 hk).resolve_left hne)

/-- A write that is answered alike by both transactions, and stores the same row or none. -/
theorem Twin.write {α : Type} {t t' : Transaction} (h : Twin base other s s')
    (working : s.working = some t) (working' : s'.working = some t')
    {f : Transaction → Except Failure (α × Transaction)}
    (same : (∃ e, f t = .error e ∧ f t' = .error e) ∨ (∃ a, f t = .ok (a, t) ∧ f t' = .ok (a, t')) ∨
      ∃ a r, f t = .ok (a, t.put r) ∧ f t' = .ok (a, t'.put r) ∧
        (∀ id, r.key = .request id → t.tables.row (.request id) = none) ∧
        ∀ id, r.key = .request id → t'.tables.row (.request id) = none) :
    (s'.write f).1 = (s.write f).1 ∧ Twin base other (s.write f).2 (s'.write f).2 := by
  rw [Session.write, Session.write]
  cases writable : s.readOnly with
  | true =>
    have hs : s.writable = .error readOnlyTransaction := by rw [Session.writable, writable]; rfl
    have hs' : s'.writable = .error readOnlyTransaction := by
      rw [Session.writable, h.readOnly, writable]; rfl
    rw [hs, hs']
    exact ⟨rfl, h⟩
  | false =>
    have hs : s.writable = .ok t := writable_eq_ok_iff.2 ⟨writable, working⟩
    have hs' : s'.writable = .ok t' :=
      writable_eq_ok_iff.2 ⟨h.readOnly.trans writable, working'⟩
    rw [hs, hs']
    rcases same with ⟨e, he, he'⟩ | ⟨a, ha, ha'⟩ | ⟨a, r, ha, ha', new, new'⟩
    · simp only [he, he']
      exact ⟨trivial, h⟩
    · simp only [ha, ha']
      refine ⟨trivial, h.working.imp fun u => ?_, h.readOnly, h.released⟩
      rintro ⟨u', hu, hu', rest⟩
      cases working.symm.trans hu
      cases working'.symm.trans hu'
      exact ⟨t', rfl, rfl, rest⟩
    · simp only [ha, ha']
      exact ⟨trivial, h.put working working' new new'⟩

/-- Twins answer alike where the snapshots agree, and stay twins. -/
theorem Twin.store (h : Twin base other s s') {call : StoreCall}
    (agree : ∀ key, reads call key → base.row key = other.row key) :
    (s'.store call).1 = (s.store call).1 ∧ Twin base other (s.store call).2 (s'.store call).2 := by
  obtain ⟨t, t', working, working', copied, copied', writes, rows⟩ := h.working
  have row : ∀ key, reads call key → t'.tables.row key = t.tables.row key := fun key hk =>
    row_eq copied copied' writes rows (agree key hk)
  have read : ∀ {α : Type} (f : Tables → α), f t'.tables = f t.tables →
      (s'.read f).1 = (s.read f).1 ∧ Twin base other (s.read f).2 (s'.read f).2 := by
    intro α f same
    refine ⟨?_, h⟩
    simp only [Session.read, Session.tables, working, working', Except.map, same]
  cases call with
  | findApproval id => exact read _ (Tables.approval_eq_of_row (row _ rfl))
  | findRequest id => exact read _ (Tables.request_eq_of_row (row _ rfl))
  | findRecipient requestId recipientId => exact read _ (Tables.recipient_eq_of_row (row _ rfl))
  | recipientsOf requestId =>
    have same := Tables.recipients_eq_of_row fun key => row key trivial
    exact read _ (by rw [Tables.recipientsOf, Tables.recipientsOf, same])
  | countUnread recipientId =>
    have same := Tables.recipients_eq_of_row fun key => row key trivial
    exact read _ (by rw [Tables.countUnread, Tables.countUnread, same])
  | listFor recipientId filter =>
    have requests := Tables.requests_eq_of_row fun key => row key trivial
    have recipients := Tables.recipients_eq_of_row fun key => row key trivial
    have view : t'.tables.view? filter = t.tables.view? filter := by
      funext r
      rw [Tables.view?, Tables.view?, requests]
    exact read _ (by
      rw [Tables.listFor, Tables.listFor, Tables.viewsFor, Tables.viewsFor, recipients, view])
  | saveApproval record =>
    exact h.write working working' (.inr (.inr ⟨(), .approval record, rfl, rfl, nofun, nofun⟩))
  | insertRequest request =>
    refine h.write working working' ?_
    have same := row (.request request.id) rfl
    simp only [Transaction.insertRequest_eq, same]
    cases hr : t.tables.row (.request request.id) with
    | some r => exact .inl ⟨_, rfl, rfl⟩
    | none =>
      refine .inr (.inr ⟨(), .request request, rfl, rfl, fun id hid => ?_, fun id hid => ?_⟩)
      · cases hid
        exact hr
      · cases hid
        exact same.trans hr
  | insertRecipient r =>
    refine h.write working working' ?_
    have request := row (.request r.requestId) (.inl rfl)
    have recipient := row (.recipient r.requestId r.recipientId) (.inr rfl)
    simp only [Transaction.insertRecipient_eq, request, recipient]
    cases t.tables.row (.request r.requestId) with
    | none => exact .inl ⟨_, rfl, rfl⟩
    | some _ =>
      cases t.tables.row (.recipient r.requestId r.recipientId) with
      | some _ => exact .inl ⟨_, rfl, rfl⟩
      | none => exact .inr (.inr ⟨(), .recipient r, rfl, rfl, nofun, nofun⟩)
  | updateRecipient r =>
    refine h.write working working' ?_
    have same : t'.canUpdate r = t.canUpdate r := by
      rw [Transaction.canUpdate, Transaction.canUpdate,
        Tables.recipient_eq_of_row (row (.recipient r.requestId r.recipientId) rfl)]
    simp only [Transaction.updateRecipient_eq, same]
    cases t.canUpdate r with
    | false => exact .inr (.inl ⟨false, rfl, rfl⟩)
    | true => exact .inr (.inr ⟨true, .recipient r, rfl, rfl, nofun, nofun⟩)

end Session

/-! ## Programs on twins -/

/-- Twins stay twins in a turn that reads only rows in which the snapshots agree. -/
theorem Session.Twin.answer {base other : Tables} {s s' : Session} (h : s.Twin base other s')
    (w : Outside) (origin : Store) {request : Request WorkflowEvent} (allowed : Local request)
    (agree : ∀ call, request = .session (.store call) → ∀ key, reads call key →
      base.row key = other.row key) :
    (w.answer origin s' request).1 = (w.answer origin s request).1 ∧
      Session.Twin base other (w.answer origin s request).2.2
        (w.answer origin s' request).2.2 := by
  cases request with
  | openSession | findMapping => exact allowed.elim
  | session call =>
    cases call with
    | store call => exact h.store (agree call rfl)
    | _ => exact allowed.elim
  | _ => exact ⟨rfl, h⟩

/-- A program goes the same way on twins if it reads only rows in which the snapshots agree. -/
theorem Follows.twin {α : Type} {origin : Store} {base other : Tables}
    {p p' : Action WorkflowEvent α} {s s' u : Session} {turns : List Turn}
    (h : Follows origin p s turns p' s') (twin : s.Twin base other u)
    (allowed : ∀ turn ∈ turns, Local turn.request)
    (agree : ∀ key, ReadIn turns key → base.row key = other.row key) :
    ∃ u', Follows origin p u turns p' u' ∧ s'.Twin base other u' := by
  induction h generalizing u with
  | refl => exact ⟨u, .refl _ _, twin⟩
  | @turn request next s s' turns p' w calm rest ih =>
    obtain ⟨same, twin'⟩ := twin.answer w origin (allowed _ List.mem_cons_self)
      fun call hc key hk => agree key ⟨_, List.mem_cons_self, call, hc, hk⟩
    obtain ⟨u', follows, last⟩ := ih twin'
      (fun turn ht => allowed turn (List.mem_cons_of_mem _ ht))
      fun key ⟨made, ht, found⟩ => agree key ⟨made, List.mem_cons_of_mem _ ht, found⟩
    refine ⟨u', .turn w calm ?_, last⟩
    rw [same]
    exact follows

end Appraisal.Memory
