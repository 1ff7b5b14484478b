import Appraisal.Proofs.Postgres.Account
import Appraisal.Proofs.Postgres.Statements

/-!
# What a turn does

A turn leaves the server as it is, or lets a client hold the row, or ends a transaction
(`Server.Step`).  A client that holds the row has decided on the row that it had loaded, and has
written its decision over the row that was committed (`Change`).  The row that was committed stays
as it is until then, for nobody else can hold it.

`Sound.answer` says that a client which keeps to the rules keeps this up, whatever else happens.
-/

namespace Appraisal.Postgres

open Workflow

/-! ## Changes -/

/-- The row is the recipient's, and it has a time of reading as soon as it is read. -/
structure Regular (requestId : RevisionRequestId) (recipientId : EmployeeId) (r : RecipientRow) :
    Prop where
  key : RowOf requestId recipientId r
  timed : r.isRead = r.readAt.isSome

/-- A decision on a row that was loaded, written over the row that was found. -/
def Change (requestId : RevisionRequestId) (recipientId : EmployeeId)
    (loaded : Option RecipientRow) (found left : Row) : Prop :=
  ∃ l new old, loaded = some l ∧ Regular requestId recipientId l ∧ Decision l new ∧
    found = recipientRow old ∧ Regular requestId recipientId old ∧ old.isCompleted = false ∧
    left = recipientRow (new.over old)

variable {requestId : RevisionRequestId} {recipientId : EmployeeId}

theorem Regular.kept {r : RecipientRow} (h : Regular requestId recipientId r) :
    Regular requestId recipientId (kept r) := by
  refine ⟨h.key, h.timed.trans ?_⟩
  show _ = (r.readAt.map keptTime).isSome
  rw [Option.isSome_map]

theorem Regular.over {r old : RecipientRow} (h : Regular requestId recipientId old)
    (timed : r.isRead = r.readAt.isSome) : Regular requestId recipientId (r.over old) :=
  ⟨h.key, timed⟩

namespace Decision

variable {l new : RecipientRow}

theorem key (decision : Decision l new) : new.requestId = l.requestId ∧
    new.recipientId = l.recipientId := by
  cases decision with
  | read now unread => simp [RecipientRow.markRead, unread]
  | complete comment now incomplete =>
    cases isRead : l.isRead <;> simp [RecipientRow.complete, RecipientRow.markRead, isRead]

/-- Whatever is decided, the row is read. -/
theorem isRead (decision : Decision l new) : new.isRead = true := by
  cases decision with
  | read now unread => exact l.markRead_isRead now
  | complete comment now incomplete => exact l.complete_isRead comment now

theorem timed (decision : Decision l new) (timed : l.isRead = l.readAt.isSome) :
    new.isRead = new.readAt.isSome := by
  cases decision with
  | read now unread => simp [RecipientRow.markRead, unread]
  | complete comment now incomplete =>
    cases isRead : l.isRead <;>
      simp [RecipientRow.complete, RecipientRow.markRead, isRead, ← timed]

/-- The time of reading of a row that is read stays. -/
theorem readAt (decision : Decision l new) (isRead : l.isRead = true) :
    new.readAt = l.readAt := by
  cases decision with
  | read now unread => rw [unread] at isRead; cases isRead
  | complete comment now incomplete => simp [RecipientRow.complete, RecipientRow.markRead, isRead]

end Decision

/-! ## Steps of the server -/

namespace Server

variable {ι : Type} [DecidableEq ι] {s s' : Server ι} {i j : ι}

/-- What a client's turn does to the server. -/
inductive Step (s : Server ι) (i : ι) : Server ι → Prop
  | stay : Step s i s
  | hold (row : Row) (free : s.pending = none) : Step s i { s with pending := some (i, row) }
  | publish : Step s i (s.publish i)
  | abandon : Step s i (s.abandon i)

/-- While somebody else holds the row, the server stays as it is. -/
theorem Step.eq_of_heldBy {row : Row} (step : s.Step i s') (other : j ≠ i)
    (held : s.heldBy j = some row) : s' = s := by
  have free := heldBy_of_heldBy held other.symm
  cases step with
  | stay => rfl
  | hold row' none =>
    rw [heldBy_eq_some_iff, none] at held
    cases held
  | publish => exact publish_of_free free
  | abandon => rw [Server.abandon, free]

theorem Step.heldBy_of_ne (step : s.Step i s') (other : j ≠ i) : s'.heldBy j = s.heldBy j := by
  cases step with
  | stay => rfl
  | hold row free => simp [heldBy, free, other.symm]
  | publish => exact heldBy_publish_of_ne other
  | abandon => exact heldBy_abandon_of_ne other

/-- The row is replaced by the one that the client holds, or it stays as it is. -/
theorem Step.row (step : s.Step i s') :
    s'.version = s.version ∧ s'.row = s.row ∨
      s'.version ≠ s.version ∧ s.heldBy i = some s'.row := by
  cases step with
  | stay | hold => exact .inl ⟨rfl, rfl⟩
  | abandon => exact .inl ⟨abandon_version, abandon_row⟩
  | publish =>
    cases held : s.heldBy i with
    | none => exact .inl (by rw [publish_of_free held]; exact ⟨rfl, rfl⟩)
    | some row =>
      rw [publish_of_held held]
      exact .inr ⟨Nat.succ_ne_self _, rfl⟩

end Server

/-! ## Clients -/

section

variable {ι : Type} [DecidableEq ι]

/-- The server holds the recipient's row. -/
def Stored (requestId : RevisionRequestId) (recipientId : EmployeeId) (s : Server ι) : Prop :=
  ∃ r, s.row = recipientRow r ∧ Regular requestId recipientId r

/-- What a client knows agrees with the server. -/
structure Sound (requestId : RevisionRequestId) (recipientId : EmployeeId) (s : Server ι) (i : ι)
    (b : Standing) (session : Session) : Prop where
  connected : b.opened = true → session.connected = true
  loaded : ∀ l, b.loaded = some l → Regular requestId recipientId l
  written : b.written = (s.heldBy i).isSome
  change : ∀ row, s.heldBy i = some row → Change requestId recipientId b.loaded s.row row

variable {s : Server ι} {w : Outside} {i : ι} {b : Standing} {session : Session} {a : Account}
  {place : Nat} {request : Appraisal.Request WorkflowEvent}

theorem Sound.free (sound : Sound requestId recipientId s i b session) (clean : b.written = false) :
    s.heldBy i = none := by
  have none := sound.written
  rw [clean] at none
  exact Option.isNone_iff_eq_none.1 (by simpa using none.symm)

/-- A client that holds nothing agrees with the server about what it holds. -/
theorem Sound.of_free (free : s.heldBy i = none) (clean : b.written = false)
    (connected : b.opened = true → session.connected = true)
    (loaded : ∀ l, b.loaded = some l → Regular requestId recipientId l) :
    Sound requestId recipientId s i b session where
  connected := connected
  loaded := loaded
  written := by rw [free, clean]; rfl
  change row held := by rw [free] at held; cases held

/-- The turn of another client changes nothing for a client. -/
theorem Sound.of_other {s' : Server ι} {j : ι} (sound : Sound requestId recipientId s j b session)
    (step : s.Step i s') (other : j ≠ i) : Sound requestId recipientId s' j b session := by
  cases held : s.heldBy j with
  | some row =>
    rw [step.eq_of_heldBy other held]
    exact sound
  | none =>
    have clean : b.written = false := by rw [sound.written, held]; rfl
    exact .of_free (by rw [step.heldBy_of_ne other, held]) clean sound.connected sound.loaded

/-- The client's turn is a step of the server, and the client agrees with the server after it. -/
def Goes (requestId : RevisionRequestId) (recipientId : EmployeeId) (s : Server ι) (w : Outside)
    (i : ι) (b : Standing) (session : Session) (request : Appraisal.Request WorkflowEvent) : Prop :=
  s.Step i (s.answer w i session request).2.1 ∧
    Sound requestId recipientId (s.answer w i session request).2.1 i
      (b.next request (s.answer w i session request).1) (s.answer w i session request).2.2

theorem Goes.of_answer {answer : request.Answer} {s' : Server ι} {session' : Session}
    (same : s.answer w i session request = (answer, s', session')) (step : s.Step i s')
    (sound : Sound requestId recipientId s' i (b.next request answer) session') :
    Goes requestId recipientId s w i b session request := by
  rw [Goes, same]
  exact ⟨step, sound⟩

theorem goes_openSession (sound : Sound requestId recipientId s i b session) :
    Goes requestId recipientId s w i b session .openSession := by
  have answered : s.answer w i session (.openSession : Appraisal.Request WorkflowEvent) = _ :=
    Server.answer_openSession
  cases failure : w.failure with
  | none =>
    rw [failure] at answered
    exact .of_answer answered .stay ⟨fun _ => rfl, sound.loaded, sound.written, sound.change⟩
  | some f =>
    rw [failure] at answered
    exact .of_answer answered .stay sound

/-- A client that has written nothing sees the row that was committed. -/
theorem Sound.visible (sound : Sound requestId recipientId s i b session)
    (clean : b.written = false) : s.visible i = s.row := by
  rw [Server.visible, sound.free clean]
  rfl

theorem Sound.answer_findRecipient {r : RecipientRow}
    (sound : Sound requestId recipientId s i b session) (row : s.row = recipientRow r)
    (regular : Regular requestId recipientId r) (opened : b.opened = true)
    (clean : b.written = false) :
    s.answer w i session
        (.session (.store (.findRecipient requestId recipientId)) :
          Appraisal.Request WorkflowEvent) =
      (w.failure.elim (.ok (some (kept r))) .error, s, session) :=
  Server.answer_findRecipient (sound.connected opened) ((sound.visible clean).trans row) regular.key

/-- A decision is checked against the row that was committed. -/
theorem Sound.answer_updateRecipient {l new old : RecipientRow}
    (sound : Sound requestId recipientId s i b session) (row : s.row = recipientRow old)
    (regular : Regular requestId recipientId old) (opened : b.opened = true)
    (clean : b.written = false) (was : b.loaded = some l) (decision : Decision l new) :
    s.answer w i session
        (.session (.store (.updateRecipient new)) : Appraisal.Request WorkflowEvent) =
      match w.failure with
      | some f => (.error f, s, session)
      | none =>
        if old.isCompleted then (.ok false, s, session)
        else (.ok true, { s with pending := some (i, recipientRow (new.over old)) }, session) := by
  have loaded := sound.loaded l was
  have key : RowOf new.requestId new.recipientId old := by
    obtain ⟨request, recipient⟩ := decision.key
    exact ⟨by rw [request, loaded.key.1, regular.key.1],
      by rw [recipient, loaded.key.2, regular.key.2]⟩
  exact Server.answer_updateRecipient (sound.connected opened) ((sound.visible clean).trans row) key

theorem goes_findRecipient (stored : Stored requestId recipientId s)
    (sound : Sound requestId recipientId s i b session) (opened : b.opened = true)
    (clean : b.written = false) :
    Goes requestId recipientId s w i b session
      (.session (.store (.findRecipient requestId recipientId))) := by
  obtain ⟨r, row, regular⟩ := stored
  refine .of_answer (sound.answer_findRecipient row regular opened clean) .stay ?_
  cases w.failure with
  | some f => exact sound
  | none =>
    refine .of_free (sound.free clean) clean sound.connected ?_
    rintro _ ⟨⟩
    exact regular.kept

theorem goes_updateRecipient {l new : RecipientRow} (stored : Stored requestId recipientId s)
    (sound : Sound requestId recipientId s i b session) (opened : b.opened = true)
    (clean : b.written = false) (was : b.loaded = some l) (decision : Decision l new)
    (proceeds : s.pending.isSome = true → s.heldBy i ≠ none) :
    Goes requestId recipientId s w i b session (.session (.store (.updateRecipient new))) := by
  obtain ⟨old, row, regular⟩ := stored
  have answered : s.answer w i session
      (.session (.store (.updateRecipient new)) : Appraisal.Request WorkflowEvent) = _ :=
    sound.answer_updateRecipient row regular opened clean was decision
  cases failure : w.failure with
  | some f =>
    rw [failure] at answered
    exact .of_answer answered .stay sound
  | none =>
    rw [failure] at answered
    cases incomplete : old.isCompleted with
    | true =>
      rw [incomplete] at answered
      exact .of_answer answered .stay sound
    | false =>
      rw [incomplete] at answered
      have unheld : s.pending = none := by
        cases pending : s.pending with
        | none => rfl
        | some p => exact absurd (sound.free clean) (proceeds (by rw [pending]; rfl))
      refine .of_answer answered (.hold _ unheld) ⟨sound.connected, sound.loaded, ?_, ?_⟩
      · simp [Server.heldBy, Standing.next]
      · intro left held
        obtain rfl : recipientRow (new.over old) = left := by
          simpa [Server.heldBy] using held
        exact ⟨l, new, old, was, sound.loaded l was, decision, row, regular, incomplete, rfl⟩

theorem goes_commit (sound : Sound requestId recipientId s i b session)
    (opened : b.opened = true) :
    Goes requestId recipientId s w i b session (.session .commit) := by
  have answered : s.answer w i session (.session .commit : Appraisal.Request WorkflowEvent) = _ :=
    Server.answer_commit (sound.connected opened)
  have published : Sound requestId recipientId (s.publish i) i { b with written := false }
      { session with inTransaction := false } :=
    .of_free Server.heldBy_publish rfl sound.connected sound.loaded
  have abandoned : Sound requestId recipientId (s.abandon i) i { b with written := false }
      { session with inTransaction := false } :=
    .of_free Server.heldBy_abandon rfl sound.connected sound.loaded
  cases failure : w.failure with
  | none =>
    rw [failure] at answered
    exact .of_answer answered .publish published
  | some f =>
    rw [failure] at answered
    cases lost : w.lost with
    | true =>
      rw [lost] at answered
      exact .of_answer answered .publish published
    | false =>
      rw [lost] at answered
      exact .of_answer answered .abandon abandoned

theorem goes_rollback (sound : Sound requestId recipientId s i b session)
    (opened : b.opened = true) :
    Goes requestId recipientId s w i b session (.session .rollback) := by
  have answered : (s.answer w i session
      (.session .rollback : Appraisal.Request WorkflowEvent)).2 = _ :=
    Server.answer_rollback (sound.connected opened)
  rw [Goes, answered]
  exact ⟨.abandon, .of_free Server.heldBy_abandon rfl sound.connected sound.loaded⟩

theorem goes_release (sound : Sound requestId recipientId s i b session)
    (opened : b.opened = true) (clean : b.written = false) :
    Goes requestId recipientId s w i b session (.session .release) := by
  have free := sound.free clean
  have answered : (s.answer w i session
      (.session .release : Appraisal.Request WorkflowEvent)).2.1 = s :=
    Server.answer_release (sound.connected opened) free
  rw [Goes, answered]
  exact ⟨.stay, .of_free free clean nofun sound.loaded⟩

theorem goes_begin {isolation : Isolation} (sound : Sound requestId recipientId s i b session)
    (opened : b.opened = true) :
    Goes requestId recipientId s w i b session (.session (.begin isolation)) := by
  obtain ⟨same, connected⟩ : (s.answer w i session
      (.session (.begin isolation) : Appraisal.Request WorkflowEvent)).2.1 = s ∧ _ :=
    Server.answer_begin (sound.connected opened)
  rw [Goes, same]
  exact ⟨.stay, fun _ => connected, sound.loaded, sound.written, sound.change⟩

theorem goes_findRequest {id : RevisionRequestId}
    (sound : Sound requestId recipientId s i b session) (opened : b.opened = true) :
    Goes requestId recipientId s w i b session (.session (.store (.findRequest id))) := by
  have answered : (s.answer w i session
      (.session (.store (.findRequest id)) : Appraisal.Request WorkflowEvent)).2 = _ :=
    Server.answer_findRequest (sound.connected opened)
  rw [Goes, answered]
  exact ⟨.stay, sound⟩

theorem Sound.goes (sound : Sound requestId recipientId s i a.standing session)
    (stored : Stored requestId recipientId s) (may : a.Allows requestId recipientId place request)
    (proceeds : ¬ s.Waits i request) :
    Goes requestId recipientId s w i a.standing session request := by
  cases request with
  | openSession => exact goes_openSession sound
  | session call =>
    obtain ⟨opened, may⟩ := may
    cases call with
    | begin isolation => exact goes_begin sound opened
    | commit => exact goes_commit sound opened
    | rollback => exact goes_rollback sound opened
    | release => exact goes_release sound opened may
    | store call =>
      cases call with
      | findRequest id => exact goes_findRequest sound opened
      | findRecipient request recipient =>
        obtain ⟨clean, rfl, rfl⟩ := may
        exact goes_findRecipient stored sound opened clean
      | updateRecipient new =>
        obtain ⟨clean, l, was, decision⟩ := may
        exact goes_updateRecipient stored sound opened clean was decision fun some none =>
          proceeds ⟨some, none⟩
      | _ => exact may.elim
    | _ => exact may.elim
  | _ => exact ⟨.stay, sound⟩

/-! ## Changes that are committed -/

theorem Stored.step {s' : Server ι} (stored : Stored requestId recipientId s)
    (sound : Sound requestId recipientId s i b session) (step : s.Step i s') :
    Stored requestId recipientId s' := by
  rcases step.row with ⟨-, same⟩ | ⟨-, held⟩
  · rw [Stored, same]
    exact stored
  · obtain ⟨l, new, old, -, loaded, decision, -, regular, -, left⟩ := sound.change _ held
    exact ⟨new.over old, left, regular.over (decision.timed loaded.timed)⟩

/-- A handler is told of no more readings than were committed on a row that was loaded unread. -/
theorem Sound.owed_next (sound : Sound requestId recipientId s i a.standing session)
    (may : a.Allows requestId recipientId place request) :
    (a.next place request (s.answer w i session request).1).owed +
        (announces place request).toList.length ≤
      a.owed + if (s.answer w i session request).2.1.version = s.version then 0
        else if unread a.standing.loaded then 1 else 0 := by
  cases request with
  | session call =>
    cases call with
    | commit =>
      have answered : s.answer w i session (.session .commit : Appraisal.Request WorkflowEvent) =
        _ := Server.answer_commit (sound.connected may.1)
      cases failure : w.failure with
      | some f =>
        rw [failure] at answered
        rw [answered]
        exact Nat.le_add_right _ _
      | none =>
        rw [failure] at answered
        rw [answered]
        show a.owed + a.earned ≤ a.owed + if (s.publish i).version = s.version then 0 else _
        refine Nat.add_le_add_left ?_ a.owed
        cases held : s.heldBy i with
        | none => simp [Account.earned, sound.written, held]
        | some row => simp [Account.earned, sound.written, held, Server.publish_of_held held]
    | _ => exact Nat.le_add_right _ _
  | deliver at_ event =>
    show a.owed - _ + _ ≤ _
    have paid : _ ≤ a.owed := may
    omega
  | _ => exact Nat.le_add_right _ _

end

end Appraisal.Postgres
