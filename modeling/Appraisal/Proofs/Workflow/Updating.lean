import Appraisal.Proofs.Concurrent.Upkeep
import Appraisal.Proofs.Workflow.Solo

/-!
# Reading and completing a request from end to end

What reading and completing a request come to on a store of one's own, as one case distinction over
all states (`Solo.Updates`, `Solo.update_verdict`).

*Loading.*  Both calls load the row of the recipient first, and fail alike if the request or the row
is not there (`Solo.perform_loadRow`).

*Storing.*  The store refuses to write over a completed row, and takes any other one
(`Solo.perform_update`).  A completion has looked at that before.  A row that is not read has not
been completed, because what a row says agrees in all tables that calls of the workflow can reach
(`Tables.Made.kept`), so the store takes that row, too.
-/

namespace Appraisal.Memory

open Workflow

/-- The row of a recipient as it is loaded: the request must be there, and then the row. -/
def Tables.loaded (t : Tables) (requestId : RevisionRequestId) (recipientId : EmployeeId) :
    Except WorkflowError RecipientRow :=
  match t.requests.get? requestId with
  | none => .error (.requestNotFound requestId)
  | some _ =>
    match t.recipients.get? (requestId, recipientId) with
    | none => .error (.notRecipient requestId recipientId)
    | some row => .ok row

theorem Tables.loaded_eq_ok {t : Tables} {requestId : RevisionRequestId} {recipientId : EmployeeId}
    {row : RecipientRow} (h : t.loaded requestId recipientId = .ok row) :
    ∃ request, t.requests.get? requestId = some request ∧
      t.recipients.get? (requestId, recipientId) = some row := by
  rw [loaded] at h
  split at h
  · cases h
  · rename_i request requested
    split at h
    · cases h
    · rename_i found
      cases h
      exact ⟨request, requested, found⟩

/-- An error of loading is no failure of the store. -/
theorem Tables.failure?_of_loaded {t : Tables} {requestId : RevisionRequestId}
    {recipientId : EmployeeId} {e : WorkflowError}
    (h : t.loaded requestId recipientId = .error e) : WorkError.failure? e = none := by
  rw [loaded] at h
  split at h
  · cases h
    rfl
  · split at h
    · cases h
      rfl
    · cases h

namespace Solo

variable {q : Solo} {t : Transaction} {requestId : RevisionRequestId} {recipientId : EmployeeId}
  {row : RecipientRow}

/-! ## The work -/

theorem perform_loadRow (working : q.session.working = some t) :
    q.perform (loadRow requestId recipientId) = (t.tables.loaded requestId recipientId, q) := by
  have requests : q.perform (Work.findRequest requestId) =
      (.ok (t.tables.requests.get? requestId), q) := perform_reading working trivial
  have rows : q.perform (Work.findRecipient requestId recipientId) =
      (.ok (t.tables.recipients.get? (requestId, recipientId)), q) :=
    perform_reading working trivial
  rw [loadRow, perform_bind requests, Tables.loaded]
  cases t.tables.requests.get? requestId with
  | none => rfl
  | some request =>
    dsimp only
    rw [perform_bind rows]
    cases t.tables.recipients.get? (requestId, recipientId) <;> rfl

theorem perform_loadRow_of_writable (writable : q.session.writable = .ok t)
    {result : Except WorkflowError RecipientRow}
    (loaded : t.tables.loaded requestId recipientId = result) :
    q.perform (loadRow requestId recipientId) = (result, q) := by
  rw [perform_loadRow (Session.writable_eq_ok_iff.1 writable).2, loaded]

/-- A row may be written over in another state unless it has been completed. -/
theorem canUpdate_apply (keyed : t.tables.Keyed)
    (found : t.tables.recipients.get? (requestId, recipientId) = some row) (update : RowUpdate)
    (now : Instant) : t.canUpdate (update.apply row now) = !row.isCompleted := by
  have own : (Row.recipient (update.apply row now)).key = .recipient requestId recipientId :=
    (update.key_apply row now).trans (keyed.key_recipient found)
  obtain ⟨request, recipient⟩ := RowKey.recipient.inj own
  rw [Transaction.canUpdate, request, recipient, found]

/-- A row that has not been completed is stored in another state. -/
theorem perform_update (writable : q.session.writable = .ok t) (keyed : t.tables.Keyed)
    (found : t.tables.recipients.get? (requestId, recipientId) = some row)
    (uncompleted : row.isCompleted = false) (update : RowUpdate) (now : Instant) :
    q.perform (Work.updateRecipient (update.apply row now)) =
      (.ok true, q.plus [.recipient (update.apply row now)]) := by
  have can : t.canUpdate (update.apply row now) = true := by
    rw [canUpdate_apply keyed found, uncompleted, Bool.not_false]
  exact perform_store (Session.store_updateRecipient writable can)

/-- A row that has been completed is not. -/
theorem perform_update_refused (writable : q.session.writable = .ok t) (keyed : t.tables.Keyed)
    (found : t.tables.recipients.get? (requestId, recipientId) = some row)
    (completed : row.isCompleted = true) (update : RowUpdate) (now : Instant) :
    q.perform (Work.updateRecipient (update.apply row now)) = (.ok false, q) := by
  have cannot : t.canUpdate (update.apply row now) = false := by
    rw [canUpdate_apply keyed found, completed, Bool.not_true]
  exact perform_store (Session.store_updateRecipient_refused writable cannot)

section

variable (writable : q.session.writable = .ok t) (keyed : t.tables.Keyed)

include writable

theorem perform_markReadIn_error {e : WorkflowError}
    (missing : t.tables.loaded requestId recipientId = .error e) :
    q.perform (markReadIn requestId recipientId) = (.error e, q) := by
  rw [markReadIn, perform_bind_error (perform_loadRow_of_writable writable missing)]

theorem perform_completeIn_error {e : WorkflowError} (comment : String)
    (missing : t.tables.loaded requestId recipientId = .error e) :
    q.perform (completeIn requestId recipientId comment) = (.error e, q) := by
  rw [completeIn, perform_bind_error (perform_loadRow_of_writable writable missing)]

variable (loaded : t.tables.loaded requestId recipientId = .ok row)

include loaded

/-- A row that is read is returned as it is. -/
theorem perform_markReadIn_same (read : row.isRead = true) :
    q.perform (markReadIn requestId recipientId) = (.ok (.ofValue row), q.ticked) := by
  have loads := perform_loadRow_of_writable writable loaded
  rw [markReadIn, perform_bind loads, perform_bind (perform_now q), if_pos read, perform_pure]

/-- A row that is completed is not completed again. -/
theorem perform_completeIn_done (comment : String) (completed : row.isCompleted = true) :
    q.perform (completeIn requestId recipientId comment) =
      (.error (.alreadyCompleted requestId recipientId), q) := by
  have loads := perform_loadRow_of_writable writable loaded
  rw [completeIn, perform_bind loads, if_pos completed]
  rfl

include keyed

theorem perform_markReadIn_stored (unread : row.isRead = false)
    (uncompleted : row.isCompleted = false) :
    q.perform (markReadIn requestId recipientId) =
      (.ok ⟨row.markRead q.clock.head, [.revisionRead ⟨requestId, recipientId, q.clock.head⟩]⟩,
        q.ticked.plus [.recipient (row.markRead q.clock.head)]) := by
  obtain ⟨request, -, found⟩ := Tables.loaded_eq_ok loaded
  have loads := perform_loadRow_of_writable writable loaded
  have stores : q.ticked.perform (Work.updateRecipient (row.markRead q.clock.head)) = _ :=
    perform_update (q := q.ticked) writable keyed found uncompleted .read q.clock.head
  rw [markReadIn, perform_bind loads, perform_bind (perform_now q),
    if_neg (Bool.eq_false_iff.1 unread), perform_bind stores]
  rfl

/-- A row that was completed but never read is returned as it is. -/
theorem perform_markReadIn_refused (unread : row.isRead = false)
    (completed : row.isCompleted = true) :
    q.perform (markReadIn requestId recipientId) = (.ok (.ofValue row), q.ticked) := by
  obtain ⟨request, -, found⟩ := Tables.loaded_eq_ok loaded
  have loads := perform_loadRow_of_writable writable loaded
  have refuses : q.ticked.perform (Work.updateRecipient (row.markRead q.clock.head)) = _ :=
    perform_update_refused (q := q.ticked) writable keyed found completed .read q.clock.head
  have again : q.ticked.perform (loadRow requestId recipientId) = (.ok row, q.ticked) :=
    perform_loadRow_of_writable (q := q.ticked) writable loaded
  rw [markReadIn, perform_bind loads, perform_bind (perform_now q),
    if_neg (Bool.eq_false_iff.1 unread), perform_bind refuses]
  exact perform_bind again

theorem perform_completeIn_stored (comment : String) (uncompleted : row.isCompleted = false) :
    q.perform (completeIn requestId recipientId comment) =
      (.ok ⟨row.complete comment q.clock.head,
          completionEvents requestId recipientId row.isRead comment q.clock.head⟩,
        q.ticked.plus [.recipient (row.complete comment q.clock.head)]) := by
  obtain ⟨request, -, found⟩ := Tables.loaded_eq_ok loaded
  have loads := perform_loadRow_of_writable writable loaded
  have stores : q.ticked.perform (Work.updateRecipient (row.complete comment q.clock.head)) = _ :=
    perform_update (q := q.ticked) writable keyed found uncompleted (.complete comment) q.clock.head
  rw [completeIn, perform_bind loads, if_neg (Bool.eq_false_iff.1 uncompleted),
    perform_bind (perform_now q), perform_bind stores]
  rfl

end

/-! ## The calls -/

/-- What reading or completing a request comes to for a recipient: the result, the tables that are
left, and the events that others are told of.  The cases are tried in this order. -/
def Updates (q : Solo) (requestId : RevisionRequestId) (recipientId : EmployeeId)
    (update : RowUpdate) (result : Except WorkflowError RecipientRow) (left : Tables)
    (events : List WorkflowEvent) : Prop :=
  let base := q.store.committed
  let now := q.clock.head
  let unchanged := left = base ∧ events = []
  match base.requests.get? requestId, base.recipients.get? (requestId, recipientId) with
  | none, _ => result = .error (.requestNotFound requestId) ∧ unchanged
  | some _, none => result = .error (.notRecipient requestId recipientId) ∧ unchanged
  | some _, some row =>
    match update with
    | .read =>
      if row.isRead then result = .ok row ∧ unchanged
      else
        let new := { row with isRead := true, readAt := some now }
        result = .ok new ∧ (Row.recipient new).key = .recipient requestId recipientId ∧
          base.Gains [.recipient new] left ∧
          events = [.revisionRead ⟨requestId, recipientId, now⟩]
    | .complete comment =>
      if row.isCompleted then
        result = .error (.alreadyCompleted requestId recipientId) ∧ unchanged
      else
        let new := { row with
          isRead := true
          readAt := if row.isRead then row.readAt else some now
          isCompleted := true
          completedAt := some now
          responseComment := some comment }
        result = .ok new ∧ (Row.recipient new).key = .recipient requestId recipientId ∧
          base.Gains [.recipient new] left ∧
          events = (if row.isRead then [] else [.revisionRead ⟨requestId, recipientId, now⟩]) ++
            [.revisionCompleted ⟨requestId, recipientId, comment, now⟩]

theorem complete_eq (row : RecipientRow) (comment : String) (now : Instant) :
    row.complete comment now =
      { row with
        isRead := true
        readAt := if row.isRead then row.readAt else some now
        isCompleted := true
        completedAt := some now
        responseComment := some comment } := by
  rw [RecipientRow.complete, RecipientRow.markRead]
  cases read : row.isRead with
  | true =>
    obtain ⟨requestId, recipientId, role, isRead, readAt, isCompleted, completedAt, answer⟩ := row
    cases read
    rfl
  | false => rfl

theorem markRead_eq {row : RecipientRow} (unread : row.isRead = false) (now : Instant) :
    row.markRead now = { row with isRead := true, readAt := some now } := by
  rw [RecipientRow.markRead, if_neg (Bool.eq_false_iff.1 unread)]

/-- A row that cannot be loaded is neither read nor completed. -/
theorem updates_of_missing {e : WorkflowError}
    (missing : q.store.committed.loaded requestId recipientId = .error e) (update : RowUpdate) :
    q.Updates requestId recipientId update (.error e) q.store.committed [] := by
  rw [Tables.loaded] at missing
  rw [Updates]
  dsimp only
  split
  · rename_i absent
    rw [absent] at missing
    cases missing
    exact ⟨rfl, rfl, rfl⟩
  · rename_i requested absent
    rw [requested, absent] at missing
    cases missing
    exact ⟨rfl, rfl, rfl⟩
  · rename_i requested found
    rw [requested, found] at missing
    cases missing

/-- A row that is stored in another state stands where it stood. -/
theorem gains_update {base : Tables} (keyed : base.Keyed)
    (found : base.recipients.get? (requestId, recipientId) = some row) (update : RowUpdate)
    (now : Instant) :
    (Row.recipient (update.apply row now)).key = .recipient requestId recipientId ∧
      base.Gains [.recipient (update.apply row now)]
        (((Session.opened base).plus [.recipient (update.apply row now)]).leaves base) :=
  ⟨(update.key_apply row now).trans (keyed.key_recipient found),
    gains_leaves base (List.nodup_singleton _)⟩

section

variable (s : Service) (made : q.store.committed.Made) (onBegin : q.store.faults.onBegin = [])
  (onCommit : q.store.faults.onCommit = []) (requestId : RevisionRequestId)
  (recipientId : EmployeeId)

include made onBegin onCommit

theorem exists_markRead : ∃ result left events,
    q.Updates requestId recipientId .read result left events ∧
      q.ComesTo s (.markRead requestId recipientId) result left events := by
  have writable : (q.readied default).session.writable = .ok (.start q.store.committed) := rfl
  cases loaded : q.store.committed.loaded requestId recipientId with
  | error e =>
    have worked := perform_markReadIn_error writable loaded
    exact ⟨_, _, _, updates_of_missing loaded .read,
      comesTo_of_refusal (c := .markRead requestId recipientId) rfl onBegin
        (Tables.failure?_of_loaded loaded) worked rfl⟩
  | ok row =>
    obtain ⟨request, requested, found⟩ := Tables.loaded_eq_ok loaded
    cases read : row.isRead with
    | true =>
      have worked := perform_markReadIn_same writable loaded read
      refine ⟨.ok row, q.store.committed, [], ?_,
        comesTo_of_stored (c := .markRead requestId recipientId) rfl onBegin onCommit worked rfl
          (Session.plus_nil _).symm⟩
      simp only [Updates, requested, found, read, if_true, and_self]
    | false =>
      have uncompleted := (made.kept.marked _ _ row found).uncompleted_of_unread read
      have worked := perform_markReadIn_stored writable made.kept.keyed loaded read uncompleted
      refine ⟨_, _, _, ?_,
        comesTo_of_stored (c := .markRead requestId recipientId) rfl onBegin onCommit worked rfl
          rfl⟩
      obtain ⟨own, gains⟩ := gains_update made.kept.keyed found .read q.clock.head
      rw [RowUpdate.apply, markRead_eq read] at own gains
      simp only [Updates, requested, found, read, Bool.false_eq_true, if_false]
      exact ⟨congrArg Except.ok (markRead_eq read _), own, markRead_eq read _ ▸ gains, rfl⟩

theorem exists_submitCompletion (comment : String) : ∃ result left events,
    q.Updates requestId recipientId (.complete comment) result left events ∧
      q.ComesTo s (.submitCompletion requestId recipientId comment) result left events := by
  have writable : (q.readied default).session.writable = .ok (.start q.store.committed) := rfl
  cases loaded : q.store.committed.loaded requestId recipientId with
  | error e =>
    have worked := perform_completeIn_error writable comment loaded
    exact ⟨_, _, _, updates_of_missing loaded (.complete comment),
      comesTo_of_refusal (c := .submitCompletion requestId recipientId comment) rfl onBegin
        (Tables.failure?_of_loaded loaded) worked rfl⟩
  | ok row =>
    obtain ⟨request, requested, found⟩ := Tables.loaded_eq_ok loaded
    cases completed : row.isCompleted with
    | true =>
      have worked := perform_completeIn_done writable loaded comment completed
      refine ⟨.error (.alreadyCompleted requestId recipientId), q.store.committed, [], ?_,
        comesTo_of_refusal (c := .submitCompletion requestId recipientId comment) rfl onBegin
          rfl worked rfl⟩
      simp only [Updates, requested, found, completed, if_true, and_self]
    | false =>
      have worked := perform_completeIn_stored writable made.kept.keyed loaded comment completed
      refine ⟨_, _, _, ?_,
        comesTo_of_stored (c := .submitCompletion requestId recipientId comment) rfl onBegin
          onCommit worked rfl rfl⟩
      obtain ⟨own, gains⟩ := gains_update made.kept.keyed found (.complete comment) q.clock.head
      rw [RowUpdate.apply, complete_eq] at own gains
      simp only [Updates, requested, found, completed, Bool.false_eq_true, if_false]
      exact ⟨congrArg Except.ok (complete_eq _ _ _), own, complete_eq row comment _ ▸ gains, rfl⟩

/-- Everything that reading and completing a request come to on a store that nobody else uses,
whatever the handlers, the settings and the clock. -/
theorem update_verdict :
    (∃ result left events, q.Updates requestId recipientId .read result left events ∧
      q.ComesTo s (.markRead requestId recipientId) result left events) ∧
    ∀ comment, ∃ result left events,
      q.Updates requestId recipientId (.complete comment) result left events ∧
        q.ComesTo s (.submitCompletion requestId recipientId comment) result left events :=
  ⟨exists_markRead s made onBegin onCommit requestId recipientId,
    exists_submitCompletion s made onBegin onCommit requestId recipientId⟩

end

/-- A store with one mapping, on which somebody has asked for a revision of the criteria. -/
def asked : Store :=
  ((System.start (fun _ => ⟨default, default⟩) (fun _ => System.askThenComplete false)
    default).undergoes <| .register (.fresh default default default) ::
      (List.range 30).map fun _ => .turn 0 ⟨default, default, .ok ()⟩).store

/-- The client who is asked.  The clock shows another time now. -/
def evaluatee : Solo where
  store := asked
  session := default
  clock _ := { Instant.epoch with seconds := 1 }
  bits _ := default
  reactions _ := .ok ()

/-- The evaluatee completes the request at once, so it is read, too, and others are told of both. -/
theorem update_verdict_evaluatee :
    ∃ result left events,
      evaluatee.ComesTo ⟨default, ⟨[⟨"audit", none⟩]⟩⟩
        (.submitCompletion (Id.random default) default "Done.") (.ok result) left events ∧
      result.isCompleted = true ∧ result.readAt = result.completedAt ∧
      asked.committed.Gains [.recipient result] left ∧
      events = [.revisionRead ⟨Id.random default, default, evaluatee.clock.head⟩,
        .revisionCompleted ⟨Id.random default, default, "Done.", evaluatee.clock.head⟩] := by
  have made : evaluatee.store.committed.Made := ⟨_, _, _, rfl⟩
  obtain ⟨result, left, events, updates, comes⟩ := (update_verdict
    ⟨default, ⟨[⟨"audit", none⟩]⟩⟩ made (by decide +kernel) (by decide +kernel)
    (Id.random default) default).2 "Done."
  have requested : ∃ request,
      evaluatee.store.committed.requests.get? (Id.random default) = some request :=
    Option.isSome_iff_exists.1 (by decide +kernel)
  have found : evaluatee.store.committed.recipients.get? (Id.random default, default) =
      some (.fresh (Id.random default) default .evaluatee) := by
    decide +kernel
  obtain ⟨request, requested⟩ := requested
  simp only [Updates, requested, found] at updates
  obtain ⟨rfl, -, gains, rfl⟩ := updates
  exact ⟨_, left, _, comes, rfl, rfl, gains, rfl⟩

end Solo

end Appraisal.Memory
