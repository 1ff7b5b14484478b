import Appraisal.Proofs.Memory.Placed

/-!
# Calls on tables

A store call in memory that does not fail is a call on the tables of the transaction: its answer is
what the tables hold, and it leaves them with the row that its answer tells of (`store_ok`).
-/

namespace Appraisal.Memory

/-- The row that an update writes over: the one that has its key, unless that is completed. -/
def Tables.unfinished? (t : Tables) (r : RecipientRow) : Option RecipientRow :=
  (t.recipients.get? (r.requestId, r.recipientId)).filter (!·.isCompleted)

/-- The answer to a call on tables. -/
def Tables.answer (t : Tables) : (call : StoreCall) → call.Value
  | .findApproval id => t.approvals.get? id
  | .findRequest id => t.requests.get? id
  | .findRecipient requestId recipientId => t.recipients.get? (requestId, recipientId)
  | .recipientsOf requestId => t.recipientsOf requestId
  | .listFor recipientId filter => t.listFor recipientId filter
  | .countUnread recipientId => t.countUnread recipientId
  | .updateRecipient r => (t.unfinished? r).isSome
  | .saveApproval _ | .insertRequest _ | .insertRecipient _ => ()

/-- The tables after a call: with the row that the answer to it tells of. -/
def Tables.written (t : Tables) (call : StoreCall) : Tables :=
  t.putAll (storedRow call (.ok (t.answer call))).toList

/-- A call adds no row whose key is taken, and no row of a recipient whose request is missing. -/
def Tables.Admits (t : Tables) : StoreCall → Prop
  | .insertRequest q => t.requests.get? q.id = none
  | .insertRecipient r => (t.requests.get? r.requestId).isSome ∧
    t.recipients.get? (r.requestId, r.recipientId) = none
  | _ => True

theorem canUpdate_eq (t : Transaction) (r : RecipientRow) :
    t.canUpdate r = (t.tables.unfinished? r).isSome := by
  rw [Transaction.canUpdate, Tables.unfinished?]
  cases t.tables.recipients.get? (r.requestId, r.recipientId) with
  | none => rfl
  | some old => cases finished : old.isCompleted <;> simp [finished]

section

variable {s s' : Session} {t : Transaction} {call : StoreCall} {a : call.Value}

/-- What is written is written by the transaction. -/
theorem write_ok {α : Type} {f : Transaction → Except Failure (α × Transaction)} {a : α}
    (working : s.working = some t) (answered : (s.write f).1 = .ok a) :
    ∃ after, f t = .ok (a, after) := by
  rw [Session.write] at answered
  cases writable : s.writable with
  | error e =>
    rw [writable] at answered
    cases answered
  | ok before =>
    obtain ⟨-, working'⟩ := Session.writable_eq_ok_iff.1 writable
    cases working.symm.trans working'
    rw [writable] at answered
    cases done : f t with
    | error e =>
      simp only [done] at answered
      cases answered
    | ok result =>
      simp only [done] at answered
      cases answered
      exact ⟨_, rfl⟩

/-- The call only reads. -/
def Reading : StoreCall → Prop
  | .findApproval _ | .findRequest _ | .findRecipient _ _ | .recipientsOf _ | .listFor _ _
  | .countUnread _ => True
  | .saveApproval _ | .insertRequest _ | .insertRecipient _ | .updateRecipient _ => False

/-- A call that only reads answers what the tables hold, and leaves the session as it is. -/
theorem store_of_reading (working : s.working = some t) (reading : Reading call) :
    s.store call = (.ok (t.tables.answer call), s) := by
  cases call with
  | saveApproval | insertRequest | insertRecipient | updateRecipient => exact reading.elim
  | _ => exact Prod.ext (Session.read_of_working working _) rfl

/-- A call that does not fail answers what the tables hold. -/
theorem answer_of_store (working : s.working = some t) (answered : (s.store call).1 = .ok a) :
    a = t.tables.answer call := by
  have reads {α : Type} {f : Tables → α} {a : α} (answered : (s.read f).1 = .ok a) :
      a = f t.tables := Except.ok.inj (answered.symm.trans (Session.read_of_working working f))
  cases call with
  | findApproval id => exact reads answered
  | findRequest id => exact reads answered
  | findRecipient requestId recipientId => exact reads answered
  | recipientsOf requestId => exact reads answered
  | listFor recipientId filter => exact reads answered
  | countUnread recipientId => exact reads answered
  | saveApproval r => rfl
  | insertRequest q => rfl
  | insertRecipient r => rfl
  | updateRecipient r =>
    have answered : (s.write fun t => .ok (t.updateRecipient r)).1 = .ok a := answered
    obtain ⟨after, done⟩ := write_ok working answered
    have told : (t.updateRecipient r).1 = a := congrArg Prod.fst (Except.ok.inj done)
    have finds : (t.updateRecipient r).1 = (t.tables.unfinished? r).isSome := by
      rw [← canUpdate_eq, Transaction.updateRecipient]
      cases t.canUpdate r <;> rfl
    exact told.symm.trans finds

/-- A call that does not fail adds a row only where it may. -/
theorem admits_of_store (working : s.working = some t) (answered : (s.store call).1 = .ok a) :
    t.tables.Admits call := by
  cases call with
  | insertRequest q =>
    obtain ⟨after, done⟩ := write_ok working answered
    rw [Transaction.insertRequest] at done
    split at done
    · cases done
    · rename_i free
      show t.tables.requests.get? q.id = none
      simpa [Table.contains] using free
  | insertRecipient r =>
    obtain ⟨after, done⟩ := write_ok working answered
    rw [Transaction.insertRecipient] at done
    split at done
    · cases done
    · rename_i requested
      split at done
      · cases done
      · rename_i free
        exact ⟨by simpa [Table.contains, Option.isSome_iff_ne_none] using requested,
          by simpa [Table.contains] using free⟩
  | _ => trivial

/-- A call that does not fail is a call on the tables, and leaves them with the row that the answer
to it tells of. -/
theorem store_ok {tables : Tables} (reads : s.tables = .ok tables)
    (answered : s.store call = (.ok a, s')) :
    tables.Admits call ∧ a = tables.answer call ∧ s'.tables = .ok (tables.written call) := by
  obtain ⟨t, working, rfl⟩ : ∃ t, s.working = some t ∧ t.tables = tables := by
    rw [Session.tables] at reads
    cases working : s.working with
    | none =>
      rw [working] at reads
      cases reads
    | some t =>
      rw [working] at reads
      cases reads
      exact ⟨t, rfl, rfl⟩
  have first : (s.store call).1 = .ok a := congrArg Prod.fst answered
  have told := answer_of_store working first
  have left : s' = s.plus (storedRow call (.ok a)).toList := by
    have left := s.store_eq_plus call
    rwa [answered] at left
  refine ⟨admits_of_store working first, told, ?_⟩
  rw [left, Session.plus_of_working working, Tables.written, ← told, ← t.tables_putAll]
  rfl

end

/-! ## What tables keep -/

/-- A property holds of the tables in the transaction of a session and in its savepoints. -/
structure Session.Holding (P : Tables → Prop) (s : Session) : Prop where
  working : ∀ t, s.working = some t → P t.tables
  savepoints : ∀ p ∈ s.savepoints, P p.2.tables

namespace Session

variable {P : Tables → Prop} {s : Session}

theorem holding_of_closed (working : s.working = none) (savepoints : s.savepoints = []) :
    s.Holding P where
  working t ht := by
    rw [working] at ht
    cases ht
  savepoints p hp := by
    rw [savepoints] at hp
    cases hp

/-- Whatever call is made, a property stays that holds of the committed tables and that the row
stored by the call does not break. -/
theorem Holding.answer (h : s.Holding P) {store : Store} (committed : P store.committed)
    (call : SessionCall)
    (put : ∀ c t r, call = .store c → s.working = some t → storedRow c (s.store c).1 = some r →
      P t.tables → P (t.tables.put r)) : (store.answer s call).2.2.Holding P := by
  have step := store.step_answer s call
  have earlier : ∀ {name point outer}, s.savepointsFrom name = point :: outer →
      ∀ p ∈ point :: outer, P p.2.tables := fun found p hp =>
    h.savepoints p (mem_of_mem_savepointsFrom (found ▸ hp))
  generalize left : (store.answer s call).2.2 = s' at step
  cases step with
  | stay => exact h
  | begin isolation closed =>
    refine ⟨fun t ht => ?_, h.savepoints⟩
    cases ht
    exact committed
  | setReadOnly => exact ⟨h.working, h.savepoints⟩
  | put call =>
    rw [← left]
    show (s.store call).2.Holding P
    rcases s.store_cases call with ⟨-, same⟩ | ⟨t, r, stored, working, -, -, after⟩
    · rwa [same]
    · rw [after]
      refine ⟨fun t' ht => ?_, h.savepoints⟩
      cases ht
      exact put call t r rfl working stored (h.working t working)
  | savepoint name t working =>
    refine ⟨h.working, fun p hp => ?_⟩
    rcases List.mem_cons.1 hp with rfl | hp
    · exact h.working t working
    · exact h.savepoints p hp
  | releaseSavepoint name point outer found =>
    exact ⟨h.working, fun p hp => earlier found p (List.mem_cons_of_mem _ hp)⟩
  | rollbackToSavepoint name point outer found =>
    refine ⟨fun t ht => ?_, earlier found⟩
    cases ht
    exact earlier found point List.mem_cons_self
  | commit | rollback | release => exact holding_of_closed rfl rfl

end Session

end Appraisal.Memory
