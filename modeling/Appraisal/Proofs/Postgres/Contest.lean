import Appraisal.Proofs.Postgres.Effort
import Appraisal.Proofs.Postgres.Reading
import Appraisal.Proofs.Postgres.Refusal

/-!
# Who completes the row

An update is refused if the committed row is completed.  So once it is completed, the server stays
as it is, whatever the clients do (`Lawful.run_of_completed`).

A client that completes the row returns it only after its own change was committed as the last one
(`Fair.won_of_returned`).  So at most one client does (`Fair.eq_of_returned`).
-/

namespace Appraisal.Postgres

open Workflow

/-! ## Completed rows -/

/-- The row is completed. -/
def Row.Completed (row : Row) : Prop := row.cell? "is_completed" = some (toCell true)

/-- The row is read. -/
def Row.IsRead (row : Row) : Prop := row.cell? "is_read" = some (toCell true)

instance (row : Row) : Decidable row.Completed := by
  unfold Row.Completed
  infer_instance

instance (row : Row) : Decidable row.IsRead := by
  unfold Row.IsRead
  infer_instance

theorem completed_recipientRow {r : RecipientRow} :
    (recipientRow r).Completed ↔ r.isCompleted = true := by
  show some (Cell.bool r.isCompleted) = some (Cell.bool true) ↔ _
  simp

theorem isRead_recipientRow {r : RecipientRow} :
    (recipientRow r).IsRead ↔ r.isRead = true := by
  show some (Cell.bool r.isRead) = some (Cell.bool true) ↔ _
  simp

theorem Change.not_completed {requestId : RevisionRequestId} {recipientId : EmployeeId}
    {loaded : Option RecipientRow} {found left : Row}
    (change : Change requestId recipientId loaded found left) : ¬ found.Completed := by
  obtain ⟨l, new, old, -, -, -, rfl, -, incomplete, -⟩ := change
  rw [completed_recipientRow, incomplete]
  simp

theorem Change.isRead {requestId : RevisionRequestId} {recipientId : EmployeeId}
    {loaded : Option RecipientRow} {found left : Row}
    (change : Change requestId recipientId loaded found left) : left.IsRead := by
  obtain ⟨l, new, old, -, -, decision, -, -, -, rfl⟩ := change
  exact isRead_recipientRow.2 decision.isRead

namespace Server

variable {ι : Type} [DecidableEq ι] {s s' : Server ι} {i : ι}

theorem Step.requests (step : s.Step i s') : s'.requests = s.requests := by
  cases step with
  | stay | hold => rfl
  | publish =>
    unfold Server.publish
    split <;> rfl
  | abandon =>
    unfold Server.abandon
    split <;> rfl

end Server

namespace World

variable {ι : Type} [DecidableEq ι] {world : World ι} {i : ι} {w : Outside}
  {request : Appraisal.Request WorkflowEvent}
  {next : request.Answer → Action WorkflowEvent (Except WorkflowError RecipientRow)}
  {requestId : RevisionRequestId} {recipientId : EmployeeId} {place first : Nat}

/-! ## The server of a completed row -/

/-- Nobody has changed a completed row. -/
theorem Lawful.free_of_completed (lawful : world.Lawful requestId recipientId place first)
    (completed : world.server.row.Completed) : world.server.pending = none := by
  cases pending : world.server.pending with
  | none => rfl
  | some p =>
    have held : world.server.heldBy p.1 = some p.2 := Server.heldBy_eq_some_iff.2 pending
    exact absurd completed ((lawful.sound p.1).change _ held).not_completed

/-- Nobody waits for a completed row. -/
theorem Lawful.proceeds_of_completed (lawful : world.Lawful requestId recipientId place first)
    (completed : world.server.row.Completed) (i : ι) (request : Appraisal.Request WorkflowEvent) :
    ¬ world.server.Waits i request := by
  unfold Server.Waits
  rw [lawful.free_of_completed completed]
  split <;> simp

theorem Lawful.respond_of_completed (lawful : world.Lawful requestId recipientId place first)
    (completed : world.server.row.Completed) (going : (world.clients i).rest = .call request next) :
    (world.respond i w request next).server = world.server ∧
      (world.respond i w request next).log = world.log := by
  have proceeds := lawful.proceeds_of_completed completed i request
  have free := lawful.free_of_completed completed
  have unheld : world.server.heldBy i = none := by rw [Server.heldBy, free]; rfl
  have lawful' := lawful.respond (w := w) going proceeds
  have step : world.server.Step i (world.respond i w request next).server :=
    (lawful.goes going proceeds).1
  have same : (world.respond i w request next).server = world.server := by
    generalize server : (world.respond i w request next).server = s' at step
    cases step with
    | stay => rfl
    | publish => exact Server.publish_of_free unheld
    | abandon => rw [Server.abandon, unheld]
    | hold row =>
      -- a row that is held is not completed
      have free' := lawful'.free_of_completed (by rw [server]; exact completed)
      rw [server] at free'
      cases free'
  exact ⟨same, by rw [log_respond, same, if_pos rfl]⟩

/-- Once the row is completed, the server stays as it is. -/
theorem Lawful.turn_of_completed (lawful : world.Lawful requestId recipientId place first)
    (completed : world.server.row.Completed) (t : ι × Outside) :
    (world.turn t).server = world.server ∧ (world.turn t).log = world.log := by
  rw [World.turn]
  cases going : (world.clients t.1).rest with
  | pure outcome => exact ⟨rfl, rfl⟩
  | call request next =>
    simp only [lawful.proceeds_of_completed completed, if_false]
    exact lawful.respond_of_completed completed going

theorem Lawful.run_of_completed (lawful : world.Lawful requestId recipientId place first)
    (completed : world.server.row.Completed) (turns : List (ι × Outside)) :
    (world.run turns).server = world.server ∧ (world.run turns).log = world.log := by
  induction turns generalizing world with
  | nil => exact ⟨rfl, rfl⟩
  | cons t turns ih =>
    obtain ⟨server, log⟩ := lawful.turn_of_completed completed t
    obtain ⟨server', log'⟩ := ih (lawful.turn t).1 (by rw [server]; exact completed)
    exact ⟨server'.trans server, log'.trans log⟩

/-! ## Who completed the row -/

/-- A transaction that had not changed the row has updated it. -/
theorem written_next {b : Standing} {request : Appraisal.Request WorkflowEvent}
    {answer : request.Answer} (clean : b.written = false)
    (written : (b.next request answer).written = true) :
    ∃ new, request = .session (.store (.updateRecipient new)) := by
  unfold Standing.next at written
  split at written
  case h_4 new => exact ⟨_, rfl⟩
  all_goals simp_all

/-- A client holds the row because it did before, or because it has updated it. -/
theorem Lawful.held_respond (lawful : world.Lawful requestId recipientId place first)
    (going : (world.clients i).rest = .call request next)
    (proceeds : ¬ world.server.Waits i request) {row : Row}
    (held : (world.respond i w request next).server.heldBy i = some row) :
    world.server.heldBy i = some row ∨ ∃ new old,
      request = .session (.store (.updateRecipient new)) ∧ row = recipientRow (new.over old) := by
  have goes := lawful.goes (w := w) going proceeds
  have step : world.server.Step i (world.respond i w request next).server := goes.1
  have sound := lawful.sound i
  cases before : world.server.heldBy i with
  | some row' =>
    left
    generalize (world.respond i w request next).server = s' at step held
    cases step with
    | stay => rw [← before, held]
    | hold row free => 
      rw [Server.heldBy, free] at before
      cases before
    | publish =>
      rw [Server.heldBy_publish] at held
      cases held
    | abandon =>
      rw [Server.heldBy_abandon] at held
      cases held
  | none =>
    right
    have clean : (world.clients i).standing.written = false := by
      rw [sound.written, before]
      rfl
    have written := goes.2.written.trans (congrArg Option.isSome held)
    obtain ⟨new, rfl⟩ := written_next clean written
    obtain ⟨owed, inOrder, -⟩ := lawful.ordered i
    rw [going] at inOrder
    obtain ⟨⟨opened, -, l, was, decision⟩, -⟩ := inOrder
    obtain ⟨old, stored, regular⟩ := lawful.stored
    have answered := sound.answer_updateRecipient (w := w) stored regular opened clean was decision
    refine ⟨new, old, rfl, ?_⟩
    have server : (world.respond i w _ next).server =
      (world.server.answer w i (world.clients i).session _).2.1 := rfl
    rw [server, answered] at held
    cases failure : w.failure with
    | some f =>
      rw [failure] at held
      cases before.symm.trans held
    | none =>
      rw [failure] at held
      cases incomplete : old.isCompleted with
      | true =>
        rw [incomplete] at held
        cases before.symm.trans held
      | false =>
        rw [incomplete] at held
        simpa [Server.heldBy, eq_comm] using held

/-- The client has completed the row. -/
def Won (world : World ι) (i : ι) : Prop :=
  world.server.row.Completed ∧ world.log.getLast?.map Publication.client = some i

/-- What holds in every turn, besides the rules of the server. -/
structure Fair (requestId : RevisionRequestId) (recipientId : EmployeeId) (first : Nat)
    (touches : ι → Touch) (qs : List RevisionRequest) (world : World ι) : Prop where
  lawful : world.Lawful requestId recipientId 0 first
  requests : world.server.requests = qs.map requestRow
  implied : world.server.row.Completed → world.server.row.IsRead
  decisive : ∀ i, (world.clients i).rest.Throughout (Decisive requestId recipientId (touches i))
  /-- Who completes the row has held a completed row only, and returns it only if they won. -/
  held : ∀ i, touches i ≠ .read → ∀ row, world.server.heldBy i = some row → row.Completed
  effort : ∀ i, touches i ≠ .read → ∃ done,
    (world.clients i).rest.Obeys Effort.rules Earned ⟨(world.clients i).standing, done⟩ ∧
      (done = true → world.Won i)

variable {touches : ι → Touch} {qs : List RevisionRequest}

theorem fair_start (services : ι → Service) {r : RecipientRow}
    (timed : r.isRead = r.readAt.isSome) (implied : r.isCompleted = true → r.isRead = true) :
    (start services r.requestId r.recipientId touches (qs.map requestRow) (recipientRow r)).Fair
      r.requestId r.recipientId (if r.isRead then 0 else 1) touches qs where
  lawful := lawful_start services touches _ ⟨⟨rfl, rfl⟩, timed⟩
  requests := rfl
  implied completed := isRead_recipientRow.2 (implied (completed_recipientRow.1 completed))
  decisive i := decisive_action (services i) (touches i)
  held i _ row held := by cases held
  effort i completes := by
    refine ⟨false, ?_, nofun⟩
    show ((touches i).action (services i) r.requestId r.recipientId).run.Obeys _ _ _
    cases touch : touches i with
    | read => exact absurd touch completes
    | complete comment => exact effort_obeys (services i) comment

/-- A commit that succeeds publishes what the client holds. -/
theorem Fair.won_of_commits (fair : world.Fair requestId recipientId first touches qs)
    (completes : touches i ≠ .read) (going : (world.clients i).rest = .call request next)
    (proceeds : ¬ world.server.Waits i request)
    (committed : commits request
      (world.server.answer w i (world.clients i).session request).1 = true)
    (written : (world.clients i).standing.written = true) :
    (world.respond i w request next).Won i := by
  obtain ⟨owed, inOrder, -⟩ := fair.lawful.ordered i
  rw [going] at inOrder
  have sound := fair.lawful.sound i
  obtain ⟨row, held⟩ : ∃ row, world.server.heldBy i = some row := by
    rw [sound.written] at written
    exact Option.isSome_iff_exists.1 written
  have request_eq : request = .session .commit := by
    unfold commits at committed
    split at committed
    · rfl
    · cases committed
  subst request_eq
  have answered : world.server.answer w i (world.clients i).session
      (.session .commit : Appraisal.Request WorkflowEvent) = _ :=
    Server.answer_commit (sound.connected inOrder.1.1)
  have published : (world.respond i w (.session .commit) next).server = world.server.publish i := by
    show (world.server.answer w i (world.clients i).session _).2.1 = _
    rw [answered] at committed ⊢
    cases failure : w.failure with
    | none => rfl
    | some f =>
      rw [failure] at committed
      cases committed
  rw [Won, log_respond, published, Server.publish_of_held held]
  refine ⟨fair.held i completes row held, ?_⟩
  rw [if_neg (Nat.succ_ne_self _), List.getLast?_concat]
  rfl

/-- A request of a client keeps what is fair. -/
theorem Fair.respond (fair : world.Fair requestId recipientId first touches qs)
    (going : (world.clients i).rest = .call request next)
    (proceeds : ¬ world.server.Waits i request) :
    (world.respond i w request next).Fair requestId recipientId first touches qs := by
  have goes := fair.lawful.goes (w := w) going proceeds
  have step : world.server.Step i (world.respond i w request next).server := goes.1
  have stays : ∀ j, world.Won j → (world.respond i w request next).Won j := by
    intro j won
    obtain ⟨server, log⟩ := fair.lawful.respond_of_completed (w := w) won.1 going
    rw [Won, server, log]
    exact won
  have decisive := fair.decisive i
  rw [going] at decisive
  refine ⟨fair.lawful.respond going proceeds, step.requests.trans fair.requests, ?_, fun j => ?_,
    fun j completes row held => ?_, fun j completes => ?_⟩
  · rcases step.row with ⟨-, row⟩ | ⟨-, held⟩
    · rw [row]
      exact fair.implied
    · exact fun _ => ((fair.lawful.sound i).change _ held).isRead
  · by_cases same : j = i
    · subst same
      rw [clients_respond_self]
      exact decisive.2 _
    · rw [clients_respond_of_ne same]
      exact fair.decisive j
  · by_cases same : j = i
    · subst same
      rcases fair.lawful.held_respond going proceeds held with held | ⟨new, old, rfl, rfl⟩
      · exact fair.held j completes row held
      · obtain ⟨done, obeys, -⟩ := fair.effort j completes
        rw [going] at obeys
        exact completed_recipientRow.2 obeys.1
    · rw [step.heldBy_of_ne same] at held
      exact fair.held j completes row held
  · obtain ⟨done, obeys, won⟩ := fair.effort j completes
    by_cases same : j = i
    · subst same
      rw [clients_respond_self]
      rw [going] at obeys
      refine ⟨_, obeys.2 _, fun gained => ?_⟩
      rcases Bool.or_eq_true_iff.1 gained with done | gained
      · exact stays j (won done)
      · obtain ⟨committed, written⟩ := Bool.and_eq_true_iff.1 gained
        exact fair.won_of_commits completes going proceeds committed written
    · rw [clients_respond_of_ne same]
      exact ⟨done, obeys, fun h => stays j (won h)⟩

theorem Fair.turn (fair : world.Fair requestId recipientId first touches qs) (t : ι × Outside) :
    (world.turn t).Fair requestId recipientId first touches qs := by
  rw [World.turn]
  cases going : (world.clients t.1).rest with
  | pure outcome => exact fair
  | call request next =>
    by_cases waits : world.server.Waits t.1 request
    · simpa [waits] using fair
    · simpa [waits] using fair.respond going waits

theorem Fair.run (fair : world.Fair requestId recipientId first touches qs)
    (turns : List (ι × Outside)) :
    (world.run turns).Fair requestId recipientId first touches qs := by
  induction turns generalizing world with
  | nil => exact fair
  | cons t turns ih => exact ih (fair.turn t)

theorem Fair.won_of_returned (fair : world.Fair requestId recipientId first touches qs)
    (completes : touches i ≠ .read) {r : RecipientRow}
    (returned : world.returned i = some (.ok r)) : world.Won i := by
  obtain ⟨done, obeys, won⟩ := fair.effort i completes
  rw [returned_iff.1 returned] at obeys
  exact won (obeys r rfl)

/-- At most one client completes the row. -/
theorem Fair.eq_of_returned (fair : world.Fair requestId recipientId first touches qs) {j : ι}
    {r r' : RecipientRow} (completes : touches i ≠ .read) (completes' : touches j ≠ .read)
    (returned : world.returned i = some (.ok r)) (returned' : world.returned j = some (.ok r')) :
    i = j := by
  have last := (fair.won_of_returned completes returned).2
  rw [(fair.won_of_returned completes' returned').2] at last
  exact (Option.some.inj last).symm

end World

end Appraisal.Postgres
