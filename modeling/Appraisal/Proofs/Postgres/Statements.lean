import Appraisal.Proofs.Postgres.Server

/-!
# What the calls of a session do on the server

One lemma for each call that concerns the recipient's row.  Loading it answers with the row that the
client sees (`answer_findRecipient`).  An update is refused if that row is completed
(`answer_updateRecipient`), and it replaces the columns that may change (`RecipientRow.over`).  A
commit publishes the change unless it fails without effect (`answer_commit`), and nothing of it is
left after a rollback (`answer_rollback`).
-/

namespace Appraisal

/-- A row written over another one, which keeps its keys and its role. -/
def RecipientRow.over (r old : RecipientRow) : RecipientRow :=
  { r with requestId := old.requestId, recipientId := old.recipientId, role := old.role }

namespace Postgres

/-- The row is the row of a recipient of a request. -/
def RowOf (requestId : RevisionRequestId) (recipientId : EmployeeId) (r : RecipientRow) : Prop :=
  r.requestId = requestId ∧ r.recipientId = recipientId

theorem equals_holds {row : Row} {column : Column} {parameters : List Cell} {n : Nat}
    {cell : Cell} (found : row.cell? column.name = some cell)
    (given : parameters[n - 1]? = some cell) (filled : cell ≠ .null) :
    (Condition.equals column n).holds parameters row = true := by
  simp [Condition.holds, found, given, filled]

theorem of_selectRecipient {requestId : RevisionRequestId} {recipientId : EmployeeId}
    {r : RecipientRow} (h : RowOf requestId recipientId r) :
    Select.of (selectWhere (.columns (recipientColumns.map ofRecipient)) ⟨recipientTable, some "c"⟩
      [.equals (ofRecipient "revision_request_id") 1, .equals (ofRecipient "recipient_id") 2] [])
      [toCell requestId, toCell recipientId] [recipientRow r] = [recipientRow r] := by
  obtain ⟨rfl, rfl⟩ := h
  have request : (Condition.equals (ofRecipient "revision_request_id") 1).holds
      [toCell r.requestId, toCell r.recipientId] (recipientRow r) = true :=
    equals_holds rfl rfl nofun
  have recipient : (Condition.equals (ofRecipient "recipient_id") 2).holds
      [toCell r.requestId, toCell r.recipientId] (recipientRow r) = true :=
    equals_holds rfl rfl nofun
  simp only [Select.of, selectWhere, List.filter_cons, List.all_cons, List.all_nil, request,
    recipient, Bool.and_true, if_true, List.filter_nil, List.map_cons, List.map_nil]
  rfl

theorem of_selectRequest (id : RevisionRequestId) (qs : List RevisionRequest) :
    Select.of (selectWhere (.columns (requestColumns.map ofRequest)) ⟨requestTable, some "r"⟩
      [.equals (ofRequest "id") 1] []) [toCell id] (qs.map requestRow) =
      (qs.filter (·.id = id)).map requestRow := by
  have holds : ∀ q : RevisionRequest, (Condition.equals (ofRequest "id") 1).holds [toCell id]
      (requestRow q) = decide (q.id = id) := by
    intro q
    show (Cell.uuid q.id.uuid == Cell.uuid id.uuid && Cell.uuid id.uuid != Cell.null) = _
    have filled : (Cell.uuid id.uuid != Cell.null) = true := rfl
    rw [filled, Bool.and_true]
    refine decide_eq_decide.2 ⟨fun same => ?_, fun same => by rw [same]⟩
    cases hq : q.id
    cases hid : id
    simp_all
  rw [Select.of, List.filter_map, List.map_map]
  simp only [selectWhere, Function.comp_def, List.all_cons, List.all_nil, Bool.and_true, holds]
  rfl

theorem holds_updateRow {r old : RecipientRow} (h : RowOf r.requestId r.recipientId old) :
    [Condition.equals (own "revision_request_id") 1, .equals (own "recipient_id") 2,
        .isFalse (own "is_completed")].all (·.holds (updateRow r).parameters (recipientRow old)) =
      !old.isCompleted := by
  obtain ⟨request, recipient⟩ := h
  have request : (Condition.equals (own "revision_request_id") 1).holds
      (updateRow r).parameters (recipientRow old) = true :=
    equals_holds rfl (by rw [request]; rfl) nofun
  have recipient : (Condition.equals (own "recipient_id") 2).holds
      (updateRow r).parameters (recipientRow old) = true :=
    equals_holds rfl (by rw [recipient]; rfl) nofun
  have completed : (Condition.isFalse (own "is_completed")).holds
      (updateRow r).parameters (recipientRow old) = !old.isCompleted := by
    show (some (Cell.bool old.isCompleted) == some (.bool false)) = _
    cases old.isCompleted <;> rfl
  simp [request, recipient, completed]

namespace Server

variable {ι : Type} [DecidableEq ι] {ε : Type} {s : Server ι} {w : Outside} {i : ι}
  {session : Session} {r old : RecipientRow} {requestId : RevisionRequestId}
  {recipientId : EmployeeId}

/-- A store call sends one statement and reads the reply to it. -/
theorem answer_store {call : StoreCall} {bound : Bound} {read : Reply → Except Failure call.Value}
    (connected : session.connected = true)
    (sends : session.store call = do
      let reply ← session.send bound
      Exchange.decoded (read reply)) :
    s.answer w i session (.session (.store call) : Appraisal.Request ε) =
      match w.failure with
      | none => (read (s.execute i bound).1, (s.execute i bound).2, session)
      | some f => (.error f, s.afterFailure i w.lost bound.statement, session) := by
  have ran : s.exchange w i (session.store call).run =
      match w.failure with
      | none => (read (s.execute i bound).1, (s.execute i bound).2)
      | some f => (.error f, s.afterFailure i w.lost bound.statement) := by
    rw [sends, Session.send, if_pos connected]
    show Program.run (respond w i) (.call (.send bound) _) s = _
    rw [Program.run, respond]
    cases w.failure <;> rfl
  have kept : s.answer w i session (.session (.store call) : Appraisal.Request ε) =
      ((s.exchange w i (session.store call).run).1, (s.exchange w i (session.store call).run).2,
        session) := by
    simp only [answer, exchange, Session.answer, Session.keeping, Program.run_bind]
    rfl
  rw [kept, ran]
  cases w.failure <;> rfl

theorem answer_findRequest {id : RevisionRequestId} (connected : session.connected = true) :
    (s.answer w i session (.session (.store (.findRequest id)) : Appraisal.Request ε)).2 =
      (s, session) := by
  rw [answer_store connected rfl]
  cases w.failure <;> rfl

/-- A request that the server has is found, unless the statement fails. -/
theorem answer_findRequest_of_mem {qs : List RevisionRequest} {q : RevisionRequest}
    (connected : session.connected = true) (requests : s.requests = qs.map requestRow)
    (asked : q ∈ qs) (calm : w.failure = none) :
    ∃ found, (s.answer w i session
      (.session (.store (.findRequest q.id)) : Appraisal.Request ε)).1 = .ok (some found) := by
  have table : s.table i requestTable = qs.map requestRow := by
    rw [Server.table, if_pos rfl, requests]
  have executed : s.execute i (selectRequest q.id) =
      (⟨(qs.filter (·.id = q.id)).map requestRow, 0⟩, s) := by
    rw [execute, selectRequest]
    show ((⟨Select.of _ _ (s.table i requestTable), 0⟩ : Reply), s) = _
    rw [table, of_selectRequest]
  obtain ⟨first, rest, found⟩ : ∃ first rest, qs.filter (·.id = q.id) = first :: rest :=
    List.exists_cons_of_ne_nil (List.ne_nil_of_mem (List.mem_filter.2 ⟨asked, decide_eq_true rfl⟩))
  rw [answer_store connected rfl, calm, executed, found]
  refine ⟨keptRequest first, ?_⟩
  show Except.map some (readRequest (requestRow first)) = _
  rw [readRequest_requestRow]
  rfl

theorem answer_findRecipient (connected : session.connected = true)
    (visible : s.visible i = recipientRow r) (h : RowOf requestId recipientId r) :
    s.answer w i session
        (.session (.store (.findRecipient requestId recipientId)) : Appraisal.Request ε) =
      (w.failure.elim (.ok (some (kept r))) .error, s, session) := by
  have table : s.table i recipientTable = [recipientRow r] := by
    rw [table, if_neg (by decide), if_pos rfl, visible]
  have executed : s.execute i (selectRecipient requestId recipientId) =
      (⟨[recipientRow r], 0⟩, s) := by
    rw [execute, selectRecipient]
    show ((⟨Select.of _ _ (s.table i recipientTable), 0⟩ : Reply), s) = _
    rw [table, of_selectRecipient h]
  rw [answer_store connected rfl, executed]
  cases w.failure with
  | some f => rfl
  | none =>
    show (Except.map some (readRecipient (recipientRow r)), s, session) = _
    rw [readRecipient_recipientRow]
    rfl

/-- An update is carried out on the row that it finds, if it finds one. -/
theorem execute_update (s : Server ι) (i : ι) (u : Update) (parameters : List Cell) :
    s.execute i ⟨.update u, parameters⟩ =
      (s.update? i u parameters).elim (⟨[], 0⟩, s) fun after => (⟨[], 1⟩, after) := by
  simp only [execute]
  cases s.update? i u parameters <;> rfl

theorem answer_updateRecipient (connected : session.connected = true)
    (visible : s.visible i = recipientRow old) (h : RowOf r.requestId r.recipientId old) :
    s.answer w i session (.session (.store (.updateRecipient r)) : Appraisal.Request ε) =
      match w.failure with
      | some f => (.error f, s, session)
      | none =>
        if old.isCompleted then (.ok false, s, session)
        else (.ok true, { s with pending := some (i, recipientRow (r.over old)) }, session) := by
  rw [answer_store connected rfl]
  cases w.failure with
  | some f => rfl
  | none =>
    have updated : s.execute i (updateRow r) =
        if old.isCompleted then (⟨[], 0⟩, s)
        else (⟨[], 1⟩, { s with pending := some (i, recipientRow (r.over old)) }) := by
      have checked := holds_updateRow h
      rw [← visible] at checked
      refine (s.execute_update i _ (updateRow r).parameters).trans ?_
      rw [update?, checked, visible]
      cases old.isCompleted with
      | true => rfl
      | false => rfl
    rw [updated]
    cases old.isCompleted <;> rfl

/-! ## Transactions -/

theorem exchange_execute {statement : Statement} (connected : session.connected = true) :
    s.exchange w i (session.execute statement).run =
      match w.failure with
      | none => (.ok (), (s.execute i ⟨statement, []⟩).2)
      | some f => (.error f, s.afterFailure i w.lost statement) := by
  rw [Session.execute, Session.send, if_pos connected]
  show Program.run (respond w i) (.call (.send _) _) s = _
  rw [Program.run, respond]
  cases w.failure <;> rfl

theorem exchange_finish {statement : Statement} (connected : session.connected = true) :
    s.exchange w i (session.finish statement) =
      match w.failure with
      | none => ((.ok (), { session with inTransaction := false }),
          (s.execute i ⟨statement, []⟩).2)
      | some f => ((.error f, { session with inTransaction := false }),
          s.afterFailure i w.lost statement) := by
  have ran : s.exchange w i (session.execute statement).run = _ := exchange_execute connected
  rw [exchange] at ran ⊢
  rw [Session.finish, Program.run_bind, ran]
  cases w.failure <;> rfl

theorem answer_begin {isolation : Isolation} (connected : session.connected = true) :
    (s.answer w i session (.session (.begin isolation) : Appraisal.Request ε)).2.1 = s ∧
      (s.answer w i session (.session (.begin isolation) : Appraisal.Request ε)).2.2.connected =
        true := by
  have ran : s.exchange w i (session.execute (.begin (some isolation))).run = _ :=
    exchange_execute connected
  have begun : s.exchange w i (session.begin isolation) =
      match w.failure with
      | none => ((.ok (), { session with inTransaction := true }), s)
      | some f => ((.error f, session), s) := by
    rw [exchange] at ran ⊢
    rw [Session.begin, Program.run_bind, ran]
    cases w.failure <;> rfl
  show (s.exchange w i (session.begin isolation)).2 = s ∧
    (s.exchange w i (session.begin isolation)).1.2.connected = true
  rw [begun]
  cases w.failure <;> exact ⟨rfl, connected⟩

theorem answer_commit (connected : session.connected = true) :
    s.answer w i session (.session .commit : Appraisal.Request ε) =
      match w.failure with
      | none => (.ok (), s.publish i, { session with inTransaction := false })
      | some f => (.error f, if w.lost then s.publish i else s.abandon i,
          { session with inTransaction := false }) := by
  have ran : s.exchange w i (session.finish .commit) = _ := exchange_finish connected
  show ((s.exchange w i (session.finish .commit)).1.1, (s.exchange w i (session.finish .commit)).2,
    (s.exchange w i (session.finish .commit)).1.2) = _
  rw [ran]
  cases w.failure <;> rfl

theorem answer_rollback (connected : session.connected = true) :
    (s.answer w i session (.session .rollback : Appraisal.Request ε)).2 =
      (s.abandon i, { session with inTransaction := false }) := by
  have ran : s.exchange w i (session.finish .rollback) = _ := exchange_finish connected
  show ((s.exchange w i (session.finish .rollback)).2,
    (s.exchange w i (session.finish .rollback)).1.2) = _
  rw [ran]
  cases w.failure <;> rfl

theorem answer_release (connected : session.connected = true) (free : s.heldBy i = none) :
    (s.answer w i session (.session .release : Appraisal.Request ε)).2.1 = s := by
  have dropped : s.abandon i = s := by rw [abandon, free]
  have ran : s.exchange w i (session.finish .rollback) = _ := exchange_finish connected
  show (s.exchange w i session.release).2 = s
  rw [Session.release]
  cases session.inTransaction with
  | false =>
    rw [connected]
    rfl
  | true =>
    rw [exchange] at ran ⊢
    rw [if_pos rfl, Program.run_bind, ran]
    cases w.failure <;> simp only [connected] <;> exact dropped

/-- A session that is open is given back, unless the statement fails. -/
theorem answer_release_of_calm (connected : session.connected = true) (calm : w.failure = none) :
    (s.answer w i session (.session .release : Appraisal.Request ε)).1 = .ok () := by
  have ran : s.exchange w i (session.finish .rollback) = _ := exchange_finish connected
  show (s.exchange w i session.release).1.1 = _
  rw [Session.release]
  cases session.inTransaction with
  | false =>
    rw [connected]
    rfl
  | true =>
    rw [exchange] at ran ⊢
    rw [if_pos rfl, Program.run_bind, ran, calm]
    simp only [connected]
    rfl

theorem answer_openSession :
    s.answer w i session (.openSession : Appraisal.Request ε) =
      match w.failure with
      | none => (.ok (), s, default)
      | some f => (.error f, s, session) := by
  have ran : s.exchange w i openSession.run = (w.failure.elim (.ok default) .error, s) := by
    show Program.run (respond w i) (.call .acquire _) s = _
    rw [Program.run, respond]
    cases w.failure <;> rfl
  rw [answer, ran]
  cases w.failure <;> rfl

end Server

end Postgres

end Appraisal
