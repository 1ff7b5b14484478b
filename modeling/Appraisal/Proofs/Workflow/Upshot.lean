import Appraisal.Proofs.Workflow.Changing
import Appraisal.Proofs.Workflow.Updating

/-!
# What a call makes of the tables

On a store of one's own a call that stores rows is a function of the committed tables: they fix its
result, the rows that it publishes and the events that others are told of (`Upshot`).  Everything
else that it depends on is fixed beforehand: the mappings, the clock and the bits that are drawn.

*Footprints.*  The function looks at few rows, and stores rows with few keys (`Solo.sees`,
`Solo.stores`).  Reading and completing look at a request and at one row of it, and store that row.
A change of status looks at one record and at the request that has the identifier that is drawn,
and stores the record and the request with its rows.

*Calls.*  `Solo.Amounts` says that a call amounts to such a function on all stores that are in order.
`amounts_update` and `amounts_change` give the functions.
-/

namespace Appraisal.Memory

open Workflow

/-! ## Upshots -/

/-- What a call comes to on given tables: its result, the rows that it publishes, and the events
that others are told of. -/
structure Upshot (V : Type) where
  result : Except WorkflowError V
  rows : List Row
  events : List WorkflowEvent

/-- Nothing is published, and nobody is told. -/
def Upshot.idle {V : Type} (result : Except WorkflowError V) : Upshot V := ⟨result, [], []⟩

/-- What reading or completing comes to when a row has been loaded. -/
def RowUpdate.upshot (requestId : RevisionRequestId) (recipientId : EmployeeId) (now : Instant)
    (row : RecipientRow) (update : RowUpdate) : Upshot RecipientRow :=
  let stored : Upshot RecipientRow :=
    ⟨.ok (update.apply row now), [.recipient (update.apply row now)],
      update.events requestId recipientId row now⟩
  match update with
  | .read => if row.isRead || row.isCompleted then .idle (.ok row) else stored
  | .complete _ =>
    if row.isCompleted then .idle (.error (.alreadyCompleted requestId recipientId)) else stored

/-- What reading or completing comes to. -/
def updateUpshot (requestId : RevisionRequestId) (recipientId : EmployeeId) (now : Instant)
    (update : RowUpdate) (base : Tables) : Upshot RecipientRow :=
  match base.loaded requestId recipientId with
  | .error e => .idle (.error e)
  | .ok row => update.upshot requestId recipientId now row

/-- What a change of status comes to when it has been prepared. -/
def changeUpshot (change : StepStatusChange) (revision : Option PreparedRevision) (now : Instant)
    (base : Tables) : Upshot ApprovalRecord :=
  if (foundRecord base change now).status change.step = change.status then
    .idle (.ok (foundRecord base change now))
  else match revision.filter fun r => (base.row (.request r.request.id)).isSome with
  | some r => .idle (.error (.transaction
      ⟨.uniqueViolation, Transaction.duplicateRequest r.request.id, "set_step_status", 1⟩))
  | none =>
    ⟨.ok (changedRecord base change now),
      .approval (changedRecord base change now) :: revisionRows revision,
      changeEvent base change now :: revisionEvents revision⟩

/-! ## Calls on a store -/

/-- Rows of recipients belong to requests if those that are published do. -/
theorem Tables.Gains.attached {base left : Tables} {rows : List Row} (gains : base.Gains rows left)
    (attached : base.Attached)
    (owned : ∀ id e, .recipient id e ∈ rows.map Row.key →
      .request id ∈ rows.map Row.key ∨ (base.row (.request id)).isSome) : left.Attached := by
  intro id e there
  by_cases mem : .recipient id e ∈ rows.map Row.key
  · rcases owned id e mem with new | known
    · obtain ⟨r, mem', key⟩ := List.mem_map.1 new
      rw [← key, (gains.stored r mem').1]
      rfl
    · exact gains.isSome known
  · rw [(gains.others _ mem).1] at there
    exact gains.isSome (attached id e there)

/-- Nothing keeps calls from running to their end: no failures are queued, rows stand under their
own keys, and rows of recipients belong to requests. -/
structure Store.InOrder (store : Store) : Prop where
  onBegin : store.faults.onBegin = []
  onCommit : store.faults.onCommit = []
  keyed : store.committed.Keyed
  attached : store.committed.Attached

namespace Solo

variable {q q' p : Solo} {store : Store} {s : Service}

/-- The client with another store. -/
def on (q : Solo) (store : Store) : Solo := { q with store := store }

/-- The rows that a call looks at. -/
def sees (q : Solo) : Call → RowKey → Prop
  | .setStepStatus change, k =>
    k = .approval change.mappingId ∨ k = .request (Id.random q.bits.head)
  | .markRead requestId recipientId, k | .submitCompletion requestId recipientId _, k =>
    k = .request requestId ∨ k = .recipient requestId recipientId
  | _, _ => True

/-- The rows that a call may store. -/
def stores (q : Solo) : Call → RowKey → Prop
  | .setStepStatus change, k =>
    k = .approval change.mappingId ∨ k = .request (Id.random q.bits.head) ∨
      ∃ e, k = .recipient (Id.random q.bits.head) e
  | .markRead requestId recipientId, k | .submitCompletion requestId recipientId _, k =>
    k = .recipient requestId recipientId
  | _, _ => True

/-- A call has an upshot on the client's store. -/
def Yields (q : Solo) (s : Service) (c : Call) (upshot : Upshot c.Value) : Prop :=
  ∃ left, q.store.committed.Gains upshot.rows left ∧
    q.ComesTo s c upshot.result left upshot.events

theorem yields_idle {c : Call} {result : Except WorkflowError c.Value}
    (comes : q.ComesTo s c result q.store.committed []) : q.Yields s c (.idle result) :=
  ⟨_, Tables.gains_nil _, comes⟩

/-- On every store that is in order and has the mappings that the client's store has, a call amounts
to a function of the committed tables. -/
structure Amounts (q : Solo) (s : Service) (c : Call) (f : Tables → Upshot c.Value) : Prop where
  yields : ∀ store : Store, store.InOrder → store.mappings = q.store.mappings →
    (q.on store).Yields s c (f store.committed)
  /-- It depends on nothing else. -/
  sees : ∀ t u, (∀ k, q.sees c k → t.row k = u.row k) → f t = f u
  /-- It stores nothing else. -/
  stores : ∀ t, t.Keyed → ∀ k ∈ (f t).rows.map Row.key, q.stores c k
  /-- The rows of recipients belong to requests. -/
  owned : ∀ t, t.Keyed → ∀ id e, .recipient id e ∈ (f t).rows.map Row.key →
    .request id ∈ (f t).rows.map Row.key ∨ (t.row (.request id)).isSome

/-! ## Reading and completing -/

section

variable {requestId : RevisionRequestId} {recipientId : EmployeeId} {row : RecipientRow}
  {now : Instant} {update : RowUpdate} {base : Tables}

theorem loaded_congr {t u : Tables}
    (request : t.row (.request requestId) = u.row (.request requestId))
    (recipient : t.row (.recipient requestId recipientId) =
      u.row (.recipient requestId recipientId)) :
    t.loaded requestId recipientId = u.loaded requestId recipientId := by
  rw [Tables.loaded, Tables.loaded, Tables.request_eq_of_row request,
    Tables.recipient_eq_of_row recipient]

/-- Nothing is stored, or the row that was loaded is, in another state. -/
theorem rows_updateUpshot (keyed : base.Keyed) {k : RowKey}
    (mem : k ∈ (updateUpshot requestId recipientId now update base).rows.map Row.key) :
    k = .recipient requestId recipientId ∧ (base.row (.request requestId)).isSome := by
  rw [updateUpshot] at mem
  cases loaded : base.loaded requestId recipientId with
  | error e =>
    rw [loaded] at mem
    cases mem
  | ok row =>
    obtain ⟨request, requested, found⟩ := Tables.loaded_eq_ok loaded
    have own := (update.key_apply row now).trans (keyed.key_recipient found)
    have stored : k ∈ [Row.recipient (update.apply row now)].map Row.key := by
      rw [loaded] at mem
      cases update with
      | read =>
        simp only [RowUpdate.upshot] at mem
        split at mem
        · cases mem
        · exact mem
      | complete comment =>
        simp only [RowUpdate.upshot] at mem
        split at mem
        · cases mem
        · exact mem
    refine ⟨(List.mem_singleton.1 stored).trans own, ?_⟩
    rw [(row_request base requestId request).2 requested]
    rfl

variable (q s) (order : store.InOrder) (requestId recipientId)

include order

theorem yields_markRead : (q.on store).Yields s (.markRead requestId recipientId)
    (updateUpshot requestId recipientId q.clock.head .read store.committed) := by
  have writable : ((q.on store).readied default).session.writable = .ok (.start store.committed) :=
    rfl
  rw [updateUpshot]
  cases loaded : store.committed.loaded requestId recipientId with
  | error e =>
    exact yields_idle (comesTo_of_refusal (c := .markRead requestId recipientId) rfl order.onBegin
      (Tables.failure?_of_loaded loaded) (perform_markReadIn_error writable loaded) rfl)
  | ok row =>
    obtain ⟨request, requested, found⟩ := Tables.loaded_eq_ok loaded
    simp only [RowUpdate.upshot]
    cases read : row.isRead with
    | true =>
      exact yields_idle (comesTo_of_stored (c := .markRead requestId recipientId) rfl
        order.onBegin order.onCommit (perform_markReadIn_same writable loaded read) rfl
        (Session.plus_nil _).symm)
    | false =>
      cases completed : row.isCompleted with
      | true =>
        exact yields_idle (comesTo_of_stored (c := .markRead requestId recipientId) rfl
          order.onBegin order.onCommit
          (perform_markReadIn_refused writable order.keyed loaded read completed) rfl
          (Session.plus_nil _).symm)
      | false =>
        exact ⟨_, (gains_update order.keyed found .read q.clock.head).2,
          comesTo_of_stored (c := .markRead requestId recipientId) rfl order.onBegin order.onCommit
            (perform_markReadIn_stored writable order.keyed loaded read completed) rfl rfl⟩

theorem yields_submitCompletion (comment : String) :
    (q.on store).Yields s (.submitCompletion requestId recipientId comment)
      (updateUpshot requestId recipientId q.clock.head (.complete comment) store.committed) := by
  have writable : ((q.on store).readied default).session.writable = .ok (.start store.committed) :=
    rfl
  rw [updateUpshot]
  cases loaded : store.committed.loaded requestId recipientId with
  | error e =>
    exact yields_idle (comesTo_of_refusal (c := .submitCompletion requestId recipientId comment) rfl
      order.onBegin (Tables.failure?_of_loaded loaded)
      (perform_completeIn_error writable comment loaded) rfl)
  | ok row =>
    obtain ⟨request, requested, found⟩ := Tables.loaded_eq_ok loaded
    simp only [RowUpdate.upshot]
    cases completed : row.isCompleted with
    | true =>
      exact yields_idle (comesTo_of_refusal (c := .submitCompletion requestId recipientId comment)
        rfl order.onBegin rfl (perform_completeIn_done writable loaded comment completed) rfl)
    | false =>
      exact ⟨_, (gains_update order.keyed found (.complete comment) q.clock.head).2,
        comesTo_of_stored (c := .submitCompletion requestId recipientId comment) rfl order.onBegin
          order.onCommit (perform_completeIn_stored writable order.keyed loaded comment completed)
          rfl rfl⟩

end

/-- Reading and completing amount to updates of the row. -/
theorem amounts_update (q : Solo) (s : Service) (requestId : RevisionRequestId)
    (recipientId : EmployeeId) :
    q.Amounts s (.markRead requestId recipientId)
        (updateUpshot requestId recipientId q.clock.head .read) ∧
      ∀ comment, q.Amounts s (.submitCompletion requestId recipientId comment)
        (updateUpshot requestId recipientId q.clock.head (.complete comment)) := by
  have sees : ∀ update (t u : Tables),
      (∀ k, k = .request requestId ∨ k = .recipient requestId recipientId → t.row k = u.row k) →
      updateUpshot requestId recipientId q.clock.head update t =
        updateUpshot requestId recipientId q.clock.head update u := by
    intro update t u same
    rw [updateUpshot, updateUpshot, loaded_congr (same _ (.inl rfl)) (same _ (.inr rfl))]
  have stores : ∀ update (t : Tables), t.Keyed →
      ∀ k ∈ (updateUpshot requestId recipientId q.clock.head update t).rows.map Row.key,
        k = .recipient requestId recipientId :=
    fun update t keyed k mem => (rows_updateUpshot keyed mem).1
  have owned : ∀ update (t : Tables), t.Keyed → ∀ id e, .recipient id e ∈
        (updateUpshot requestId recipientId q.clock.head update t).rows.map Row.key →
      .request id ∈
          (updateUpshot requestId recipientId q.clock.head update t).rows.map Row.key ∨
        (t.row (.request id)).isSome := by
    intro update t keyed id e mem
    obtain ⟨same, there⟩ := rows_updateUpshot keyed mem
    cases same
    exact .inr there
  exact ⟨⟨fun _ order _ => yields_markRead q s requestId recipientId order, sees _, stores _,
      owned _⟩,
    fun comment =>
      ⟨fun _ order _ => yields_submitCompletion q s requestId recipientId order comment, sees _,
        stores _, owned _⟩⟩

/-! ## Changes of status -/

/-- What reads the clock, draws bits or looks a mapping up comes to the same on every store with the
same mappings, and leaves the store as it is. -/
theorem run_preliminary {α : Type} {post : α → Prop} {p : Action WorkflowEvent α}
    (h : p.Within Preliminary post) (q : Solo) (mappings : store.mappings = q.store.mappings) :
    p.run answer (q.on store) = ((p.run answer q).1, (p.run answer q).2.on store) ∧
      (p.run answer q).2.store = q.store := by
  induction p generalizing q with
  | pure a => exact ⟨rfl, rfl⟩
  | call request next ih =>
    obtain ⟨allowed, rest⟩ := h
    have same : answer request (q.on store) =
        ((answer request q).1, (answer request q).2.on store) ∧
          (answer request q).2.store = q.store := by
      cases request with
      | now | draw => exact ⟨rfl, rfl⟩
      | findMapping id =>
        refine ⟨?_, rfl⟩
        show (Except.ok (store.findMapping id), q.on store) =
          (Except.ok (q.store.findMapping id), _)
        rw [Store.findMapping, Store.findMapping, mappings]
        rfl
      | _ => exact allowed.elim
    obtain ⟨goes, kept⟩ := ih (answer request q).1 (rest _) (answer request q).2
      (mappings.trans (congrArg Store.mappings same.2).symm)
    refine ⟨?_, kept.trans same.2⟩
    show (next (answer request (q.on store)).1).run answer (answer request (q.on store)).2 = _
    rw [same.1]
    exact goes

/-- A call that is turned down leaves everything as it is. -/
theorem comes_refused {c : Call} {e : WorkflowError}
    (refused : q.perform c.prepare = (.error e, q')) :
    q.ComesTo s c (.error e) q'.store.committed [] := by
  have ended : q.perform (c.action s) = (.error e, q') := perform_action_refused refused
  refine ⟨congrArg Prod.fst ended, congrArg (·.2.store.committed) ended, fun place _ => ?_⟩
  have first : c.prepare.run.run answer q = (.error e, q') := refused
  have leads : q.Leads (c.action s).run q' (pure (.error e)) := by
    rw [Call.action_eq]
    exact Leads.bind ((still_prepare c).mono (fun _ h => h.2) fun _ h => h) first
  rw [told, leads.filterMap_asked (blind_hears place)]
  rfl

section

variable {change : StepStatusChange} {revision : Option PreparedRevision} {now : Instant}

/-- A change is turned down, or its revision is the one with the identifier that is drawn. -/
theorem prepared_cases (q : Solo) (change : StepStatusChange) :
    (∃ e, q.perform (Call.prepareChange change) = (.error e, q)) ∨
      ∃ mapping, q.perform (Call.prepareChange change) =
        (.ok (q.revision? change mapping), q.prepared change) := by
  by_cases lacks : change.status = .revisionRequested ∧
      change.revisionComment.all Text.allBlank = true
  · exact .inl ⟨_, perform_prepareChange_uncommented lacks.1 lacks.2⟩
  · cases found : q.store.findMapping change.mappingId with
    | none => exact .inl ⟨_, perform_prepareChange_unknown lacks found⟩
    | some mapping =>
      by_cases nobody : change.status = .revisionRequested ∧
          mapping.recipientsFor change.step change.recipients = []
      · exact .inl ⟨_, perform_prepareChange_unaddressed lacks found nobody.1 nobody.2⟩
      · exact .inr ⟨mapping, perform_prepareChange lacks found fun asks none => nobody ⟨asks, none⟩⟩

theorem id_of_revision? {mapping : EvaluationMapping} {r : PreparedRevision}
    (asked : q.revision? change mapping = some r) : r.request.id = Id.random q.bits.head := by
  rw [revision?] at asked
  split at asked
  · cases asked
    rfl
  · cases asked

/-- A change that has been prepared comes to what it amounts to. -/
theorem yields_change (s : Service) (order : q.store.InOrder) (kept : p.store = q.store)
    (ready : q.perform (Call.prepareChange change) = (.ok revision, p)) :
    q.Yields s (.setStepStatus change)
      (changeUpshot change revision p.clock.head q.store.committed) := by
  rw [← kept] at order
  unfold Yields
  rw [← kept, changeUpshot]
  split
  · rename_i status
    exact ⟨_, Tables.gains_nil _,
      comesTo_setStepStatus_same s ready order.onBegin order.onCommit status⟩
  · rename_i status
    cases taken : revision.filter fun r =>
        (p.store.committed.row (.request r.request.id)).isSome with
    | some r =>
      obtain ⟨asked, stored⟩ := Option.filter_eq_some_iff.1 taken
      exact ⟨_, Tables.gains_nil _,
        comesTo_setStepStatus_taken s ready order.onBegin asked status stored⟩
    | none =>
      refine comesTo_setStepStatus_moved s ready order.onBegin order.onCommit order.attached status
        fun r asked => ?_
      exact Option.not_isSome_iff_eq_none.1 (Option.filter_eq_none_iff.1 taken r asked)

/-- The same requests are taken in tables with the same rows. -/
theorem taken_congr {t u : Tables} (requests : ∀ r, revision = some r →
      t.row (.request r.request.id) = u.row (.request r.request.id)) :
    (revision.filter fun r => (t.row (.request r.request.id)).isSome) =
      revision.filter fun r => (u.row (.request r.request.id)).isSome := by
  cases revision with
  | none => rfl
  | some r => simp only [Option.filter_some, requests r rfl]

theorem changeUpshot_congr {t u : Tables}
    (record : t.row (.approval change.mappingId) = u.row (.approval change.mappingId))
    (requests : ∀ r, revision = some r →
      t.row (.request r.request.id) = u.row (.request r.request.id)) :
    changeUpshot change revision now t = changeUpshot change revision now u := by
  have found : foundRecord t change now = foundRecord u change now := by
    rw [foundRecord, foundRecord, Tables.approval_eq_of_row record]
  simp only [changeUpshot, changedRecord, changeEvent, found, taken_congr requests]

/-- Nothing is stored, or the record and the revision are. -/
theorem rows_changeUpshot (base : Tables) :
    (changeUpshot change revision now base).rows = [] ∨
      (changeUpshot change revision now base).rows =
        .approval (changedRecord base change now) :: revisionRows revision := by
  rw [changeUpshot]
  split
  · exact .inl rfl
  · split
    · exact .inl rfl
    · exact .inr rfl

theorem mem_keys_revisionRows {k : RowKey} :
    k ∈ (revisionRows revision).map Row.key ↔ ∃ r, revision = some r ∧
      (k = .request r.request.id ∨
        ∃ e ∈ (Recipient.distinct r.recipients).map Recipient.id,
          k = .recipient r.request.id e) := by
  cases revision with
  | none => simp [revisionRows]
  | some r => simp only [revisionRows, mem_keys_createdRows, Option.some.injEq, exists_eq_left']

/-- What a change of status comes to, with its preparation. -/
def changing (q : Solo) (change : StepStatusChange) : Tables → Upshot ApprovalRecord :=
  match q.perform (Call.prepareChange change) with
  | (.error e, _) => fun _ => .idle (.error e)
  | (.ok revision, p) => changeUpshot change revision p.clock.head

/-- A change is turned down whatever is in the tables, or it has been prepared with a revision that
has the identifier that is drawn. -/
theorem changing_cases (q : Solo) (change : StepStatusChange) :
    (∃ e, q.changing change = fun _ => .idle (.error e)) ∨
      ∃ revision now, q.changing change = changeUpshot change revision now ∧
        ∀ r, revision = some r → r.request.id = Id.random q.bits.head := by
  rcases q.prepared_cases change with ⟨e, refused⟩ | ⟨mapping, ready⟩
  · exact .inl ⟨e, by rw [changing, refused]⟩
  · exact .inr ⟨q.revision? change mapping, (q.prepared change).clock.head, by rw [changing, ready],
      fun r asked => id_of_revision? asked⟩

/-- Nothing is stored, or the record of the mapping and the revision are. -/
theorem rows_changing (q : Solo) {base : Tables} (keyed : base.Keyed) :
    (q.changing change base).rows = [] ∨ ∃ record revision,
      (q.changing change base).rows = .approval record :: revisionRows revision ∧
      (Row.approval record).key = .approval change.mappingId ∧
      ∀ r, revision = some r → r.request.id = Id.random q.bits.head := by
  rcases q.changing_cases change with ⟨e, const⟩ | ⟨revision, now, is, ids⟩
  · rw [const]
    exact .inl rfl
  · rw [is]
    refine (rows_changeUpshot base).imp_right fun rows => ?_
    exact ⟨_, revision, rows, key_changedRecord keyed change now, ids⟩

/-- What a change of status comes to on a store with the same mappings. -/
theorem yields_changing (s : Service) (order : store.InOrder)
    (mappings : store.mappings = q.store.mappings) :
    (q.on store).Yields s (.setStepStatus change) (q.changing change store.committed) := by
  obtain ⟨goes, -⟩ := run_preliminary (preliminary_prepare (.setStepStatus change)) q mappings
  change (q.on store).perform (Call.prepareChange change) =
    ((q.perform (Call.prepareChange change)).1,
      (q.perform (Call.prepareChange change)).2.on store) at goes
  rw [changing]
  rcases prepared : q.perform (Call.prepareChange change) with ⟨e | revision, p⟩
  · rw [prepared] at goes
    have refused : (q.on store).ComesTo s (.setStepStatus change) (.error e)
      (p.on store).store.committed [] := comes_refused goes
    exact yields_idle refused
  · rw [prepared] at goes
    exact yields_change (q := q.on store) (p := p.on store) s order rfl goes

/-- A change of status amounts to what it comes to once it has been prepared. -/
theorem amounts_change (q : Solo) (s : Service) (change : StepStatusChange) :
    q.Amounts s (.setStepStatus change) (q.changing change) where
  yields store order mappings := yields_changing s order mappings
  sees t u same := by
    rcases q.changing_cases change with ⟨e, const⟩ | ⟨revision, now, is, ids⟩
    · rw [const]
    · rw [is]
      exact changeUpshot_congr (same _ (.inl rfl)) fun r asked =>
        same _ (.inr (by rw [ids r asked]))
  stores t keyed k mem := by
    rcases q.rows_changing keyed with none | ⟨record, revision, rows, key, ids⟩
    · rw [none] at mem
      cases mem
    · rw [rows, List.map_cons, key] at mem
      rcases List.mem_cons.1 mem with same | mem
      · exact .inl same
      · obtain ⟨r, asked, request | ⟨e, -, recipient⟩⟩ := mem_keys_revisionRows.1 mem
        · exact .inr (.inl (by rw [request, ids r asked]))
        · exact .inr (.inr ⟨e, by rw [recipient, ids r asked]⟩)
  owned t keyed id e mem := by
    rcases q.rows_changing keyed with none | ⟨record, revision, rows, key, -⟩
    · rw [none] at mem
      cases mem
    · rw [rows, List.map_cons, key] at mem
      rcases List.mem_cons.1 mem with same | mem
      · cases same
      · obtain ⟨r, asked, request | ⟨e', -, recipient⟩⟩ := mem_keys_revisionRows.1 mem
        · cases request
        · cases recipient
          rw [rows, List.map_cons]
          exact .inl (List.mem_cons_of_mem _ (mem_keys_revisionRows.2 ⟨r, asked, .inl rfl⟩))

end

end Solo

end Appraisal.Memory
