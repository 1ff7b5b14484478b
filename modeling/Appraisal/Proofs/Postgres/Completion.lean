import Appraisal.Proofs.Postgres.Contest

/-!
# One completion

Once the row is completed, every client that loads it finds it completed, and every update is
refused (`Settled.sealed`).  So what a call does from then on is settled by the requests on which
it decides (`Decisive`), and so is how soon it ends if it takes turns.

`completion_once` puts this together with what the server keeps.
-/

namespace Appraisal.Postgres

open Workflow

namespace World

section

variable {ι : Type} {world : World ι} {i : ι}
  {may : (request : Appraisal.Request WorkflowEvent) → request.Answer → Prop}
  {post : Except WorkflowError RecipientRow → Prop} {k : Nat}

theorem of_returned (ends : (world.clients i).rest.Ends may post k)
    {outcome : Except WorkflowError RecipientRow} (returned : world.returned i = some outcome) :
    post outcome := by
  rw [returned_iff.1 returned] at ends
  exact (Program.ends_pure _).1 ends

theorem exists_returned (ends : (world.clients i).rest.Ends may post 0) :
    ∃ outcome, world.returned i = some outcome ∧ post outcome := by
  obtain ⟨outcome, rest, holds⟩ := ends.pure_of_zero
  exact ⟨outcome, returned_iff.2 rest, holds⟩

end

variable {ι : Type} [DecidableEq ι] {world : World ι} {i : ι} {w : Outside}
  {request : Appraisal.Request WorkflowEvent}
  {next : request.Answer → Action WorkflowEvent (Except WorkflowError RecipientRow)}
  {requestId : RevisionRequestId} {recipientId : EmployeeId} {first : Nat}
  {touches : ι → Touch} {qs : List RevisionRequest} {r : RecipientRow}

/-! ## Answers -/

/-- The row is completed. -/
structure Settled (requestId : RevisionRequestId) (recipientId : EmployeeId) (first : Nat)
    (touches : ι → Touch) (qs : List RevisionRequest) (r : RecipientRow) (world : World ι) :
    Prop where
  fair : world.Fair requestId recipientId first touches qs
  row : world.server.row = recipientRow r
  regular : Regular requestId recipientId r
  completed : r.isCompleted = true

theorem Settled.rowCompleted (settled : world.Settled requestId recipientId first touches qs r) :
    world.server.row.Completed := by
  rw [settled.row]
  exact completed_recipientRow.2 settled.completed

theorem Settled.isRead (settled : world.Settled requestId recipientId first touches qs r) :
    r.isRead = true := by
  have read := settled.fair.implied settled.rowCompleted
  rw [settled.row] at read
  exact isRead_recipientRow.1 read

theorem Settled.answer_findRecipient {request : RevisionRequestId} {recipient : EmployeeId}
    {next : (.session (.store (.findRecipient request recipient)) :
      Appraisal.Request WorkflowEvent).Answer → _}
    (settled : world.Settled requestId recipientId first touches qs r)
    (going : (world.clients i).rest = .call (.session (.store (.findRecipient request recipient)))
      next) :
    (world.server.answer w i (world.clients i).session
      (.session (.store (.findRecipient request recipient)) :
        Appraisal.Request WorkflowEvent)).1 = w.failure.elim (.ok (some (kept r))) .error := by
  obtain ⟨owed, inOrder, -⟩ := settled.fair.lawful.ordered i
  rw [going] at inOrder
  obtain ⟨⟨opened, clean, rfl, rfl⟩, -⟩ := inOrder
  have sound := settled.fair.lawful.sound i
  rw [sound.answer_findRecipient settled.row settled.regular opened clean]

theorem Settled.answer_updateRecipient {new : RecipientRow}
    {next : (.session (.store (.updateRecipient new)) :
      Appraisal.Request WorkflowEvent).Answer → _}
    (settled : world.Settled requestId recipientId first touches qs r)
    (going : (world.clients i).rest = .call (.session (.store (.updateRecipient new))) next) :
    (world.server.answer w i (world.clients i).session
      (.session (.store (.updateRecipient new)) : Appraisal.Request WorkflowEvent)).1 =
        w.failure.elim (.ok false) .error := by
  obtain ⟨owed, inOrder, -⟩ := settled.fair.lawful.ordered i
  rw [going] at inOrder
  obtain ⟨⟨opened, clean, l, was, decision⟩, -⟩ := inOrder
  have sound := settled.fair.lawful.sound i
  rw [sound.answer_updateRecipient settled.row settled.regular opened clean was decision,
    settled.completed]
  cases w.failure <;> rfl

/-- A client gets the answers of a completed row. -/
theorem Settled.sealed (settled : world.Settled requestId recipientId first touches qs r)
    (going : (world.clients i).rest = .call request next) :
    Sealed (kept r) request (world.server.answer w i (world.clients i).session request).1 := by
  cases request with
  | session call => cases call with
    | store call => cases call with
      | findRecipient =>
        rw [settled.answer_findRecipient going]
        cases w.failure with
        | none => rfl
        | some f => trivial
      | updateRecipient =>
        rw [settled.answer_updateRecipient going]
        cases w.failure with
        | none => rfl
        | some f => trivial
      | _ => trivial
    | _ => trivial
  | _ => trivial

/-- If nothing fails, a client finds the request and the row, and commits. -/
theorem Settled.smooth (settled : world.Settled requestId recipientId first touches qs r)
    (asked : ∃ q ∈ qs, q.id = requestId) (going : (world.clients i).rest = .call request next)
    (calm : w.failure = none) :
    Smooth (kept r) request (world.server.answer w i (world.clients i).session request).1 := by
  obtain ⟨owed, inOrder, -⟩ := settled.fair.lawful.ordered i
  have decisive := settled.fair.decisive i
  rw [going] at inOrder decisive
  obtain ⟨may, -⟩ := inOrder
  have sound := settled.fair.lawful.sound i
  cases request with
  | session call => cases call with
    | commit =>
      have answered : world.server.answer w i (world.clients i).session
          (.session .commit : Appraisal.Request WorkflowEvent) = _ :=
        Server.answer_commit (sound.connected may.1)
      rw [answered, calm]
      rfl
    | release => exact Server.answer_release_of_calm (sound.connected may.1) calm
    | store call => cases call with
      | findRequest id =>
        obtain ⟨q, stored, of⟩ := asked
        obtain rfl : id = q.id := by
          rw [of]
          have decides := decisive.1
          cases touch : touches i <;> rw [touch] at decides <;> exact decides
        exact Server.answer_findRequest_of_mem (sound.connected may.1) settled.fair.requests stored
          calm
      | findRecipient =>
        rw [settled.answer_findRecipient going, calm]
        rfl
      | _ => trivial
    | _ => trivial
  | _ => trivial

/-! ## Turns -/

/-- In a turn, a client makes a request, unless it has returned. -/
theorem Settled.turn_eq (settled : world.Settled requestId recipientId first touches qs r)
    (t : ι × Outside) :
    world.turn t = match (world.clients t.1).rest with
      | .pure _ => world
      | .call request next => world.respond t.1 t.2 request next := by
  rw [World.turn]
  cases (world.clients t.1).rest with
  | pure outcome => rfl
  | call request next =>
    exact if_neg (settled.fair.lawful.proceeds_of_completed settled.rowCompleted t.1 request)

theorem Settled.turn (settled : world.Settled requestId recipientId first touches qs r)
    (t : ι × Outside) : (world.turn t).Settled requestId recipientId first touches qs r where
  fair := settled.fair.turn t
  row := by
    rw [(settled.fair.lawful.turn_of_completed settled.rowCompleted t).1]
    exact settled.row
  regular := settled.regular
  completed := settled.completed

theorem toldBy_respond {j : ι} (quiet : j = i → Quiet request) :
    (world.respond j w request next).toldBy i = world.toldBy i := by
  have told : (world.respond j w request next).told =
      world.told ++ ((telling request).map (j, ·)).toList := rfl
  rw [toldBy, told, List.filter_append]
  cases request with
  | deliver place event =>
    have other : j ≠ i := quiet
    simp [telling, other, toldBy]
  | _ => simp [telling, toldBy]

/-- A client that is quiet as long as it gets the answers of a completed row stays so. -/
theorem Settled.under_turn (settled : world.Settled requestId recipientId first touches qs r)
    (t : ι × Outside)
    (under : (world.clients i).rest.Under (Sealed (kept r)) Quiet (Shows (kept r))) :
    ((world.turn t).clients i).rest.Under (Sealed (kept r)) Quiet (Shows (kept r)) ∧
      (world.turn t).toldBy i = world.toldBy i := by
  rw [settled.turn_eq t]
  cases going : (world.clients t.1).rest with
  | pure outcome => exact ⟨under, rfl⟩
  | call request next =>
    by_cases own : t.1 = i
    · subst own
      rw [going] at under
      rw [clients_respond_self]
      exact ⟨under.2 _ (settled.sealed going), toldBy_respond fun _ => under.1⟩
    · rw [clients_respond_of_ne (Ne.symm own)]
      exact ⟨under, toldBy_respond fun same => absurd same own⟩

theorem Settled.under_run (settled : world.Settled requestId recipientId first touches qs r)
    (turns : List (ι × Outside))
    (under : (world.clients i).rest.Under (Sealed (kept r)) Quiet (Shows (kept r))) :
    ((world.run turns).clients i).rest.Under (Sealed (kept r)) Quiet (Shows (kept r)) ∧
      (world.run turns).toldBy i = world.toldBy i := by
  induction turns generalizing world with
  | nil => exact ⟨under, rfl⟩
  | cons t turns ih =>
    obtain ⟨under, told⟩ := settled.under_turn t under
    obtain ⟨under, told'⟩ := ih (settled.turn t) under
    exact ⟨under, told'.trans told⟩

section

variable {may : (request : Appraisal.Request WorkflowEvent) → request.Answer → Prop}
  {post : Except WorkflowError RecipientRow → Prop} {k : Nat}

/-- Each turn of a client brings it closer to its end. -/
theorem Settled.ends_turn (settled : world.Settled requestId recipientId first touches qs r)
    (t : ι × Outside)
    (known : t.1 = i → ∀ request next, (world.clients i).rest = .call request next →
      may request (world.server.answer t.2 i (world.clients i).session request).1)
    (ends : (world.clients i).rest.Ends may post k) :
    ((world.turn t).clients i).rest.Ends may post (k - if t.1 = i then 1 else 0) := by
  rw [settled.turn_eq t]
  by_cases own : t.1 = i
  · subst own
    rw [if_pos rfl]
    cases going : (world.clients t.1).rest with
    | pure outcome =>
      rw [going] at ends ⊢
      exact (Program.ends_pure _).2 ((Program.ends_pure _).1 ends)
    | call request next =>
      rw [going] at ends
      rw [clients_respond_self]
      exact ends.next (known rfl _ _ going)
  · rw [if_neg own]
    cases (world.clients t.1).rest with
    | pure outcome => exact ends
    | call request next =>
      rw [clients_respond_of_ne (Ne.symm own)]
      exact ends

theorem Settled.ends_run (settled : world.Settled requestId recipientId first touches qs r)
    (turns : List (ι × Outside))
    (known : ∀ world : World ι, world.Settled requestId recipientId first touches qs r →
      ∀ t ∈ turns, t.1 = i → ∀ request next, (world.clients i).rest = .call request next →
        may request (world.server.answer t.2 i (world.clients i).session request).1)
    (ends : (world.clients i).rest.Ends may post k) :
    ((world.run turns).clients i).rest.Ends may post (k - turns.countP (·.1 = i)) := by
  induction turns generalizing world k with
  | nil => exact ends
  | cons t turns ih =>
    have step := settled.ends_turn t (known world settled t List.mem_cons_self) ends
    have later := ih (settled.turn t)
      (fun world settled t mem => known world settled t (List.mem_cons_of_mem _ mem)) step
    rw [Nat.sub_sub, Nat.add_comm] at later
    show (((world.turn t).run turns).clients i).rest.Ends may post _
    simpa [List.countP_cons] using later

end

/-! ## Decisions -/

/-- The client decides on what it finds. -/
def Decides : Appraisal.Request WorkflowEvent → Prop
  | .session (.store (.findRecipient _ _)) | .session (.store (.updateRecipient _)) => True
  | _ => False

theorem Settled.turn_of_asks (settled : world.Settled requestId recipientId first touches qs r)
    (going : (world.clients i).rest = .call request next) :
    ((world.turn (i, w)).clients i).rest =
      next (world.server.answer w i (world.clients i).session request).1 := by
  rw [settled.turn_eq, going]
  exact congrArg Client.rest clients_respond_self

/-- The client writes what it decided. -/
def Updates : Appraisal.Request WorkflowEvent → Prop
  | .session (.store (.updateRecipient _)) => True
  | _ => False

instance : DecidablePred Updates := fun request => by
  unfold Updates
  split <;> infer_instance

/-- A client that is to complete the row finds it completed. -/
theorem Settled.ends_of_decides (settled : world.Settled requestId recipientId first touches qs r)
    (completes : touches i ≠ .read) (asked : request ∈ world.asks i) (decides : Decides request)
    (calm : w.failure = none) :
    ((world.turn (i, w)).clients i).rest.Ends (fun _ _ => True)
      (· = .error (.alreadyCompleted requestId recipientId)) 5 := by
  obtain ⟨next, going⟩ := call_of_asks asked
  obtain ⟨comment, touch⟩ : ∃ comment, touches i = .complete comment := by
    cases touch : touches i with
    | read => exact absurd touch completes
    | complete comment => exact ⟨comment, rfl⟩
  have decisive := settled.fair.decisive i
  rw [going, touch] at decisive
  rw [settled.turn_of_asks going]
  cases request with
  | session call => cases call with
    | store call => cases call with
      | findRecipient =>
        rw [settled.answer_findRecipient going, calm]
        exact decisive.1 (kept r) settled.completed
      | updateRecipient =>
        rw [settled.answer_updateRecipient going, calm]
        exact decisive.1
      | _ => exact decides.elim
    | _ => exact decides.elim
  | _ => exact decides.elim

/-- A client that is to mark the row read finds that it was completed in the meantime. -/
theorem Settled.of_updates (settled : world.Settled requestId recipientId first touches qs r)
    (reads : touches i = .read) (asked : request ∈ world.asks i) (updates : Updates request) :
    (world.clients i).rest.Under (Sealed (kept r)) Quiet (Shows (kept r)) ∧
      (w.failure = none →
        ((world.turn (i, w)).clients i).rest.Ends (Smooth (kept r)) (· = .ok (kept r)) 5) := by
  obtain ⟨next, going⟩ := call_of_asks asked
  obtain ⟨new, rfl⟩ : ∃ new, request = .session (.store (.updateRecipient new)) := by
    unfold Updates at updates
    split at updates
    · exact ⟨_, rfl⟩
    · exact updates.elim
  have decisive := settled.fair.decisive i
  rw [going, reads] at decisive
  obtain ⟨under, ends⟩ := decisive.1 (kept r) settled.isRead
  refine ⟨by rw [going]; exact under, fun calm => ?_⟩
  rw [settled.turn_of_asks going, settled.answer_updateRecipient going, calm]
  exact ends

/-! ## All calls -/

/-- Any number of clients read and complete a row.  Whatever they do, in whatever order, and
whatever fails:

* a committed row that is completed is read;
* at most one client returns from completing the row, and then the row is completed;
* once it is completed, it stays as it is.

A client that is to complete the row and decides after that ends with an error, whatever fails from
then on.  A client that is about to mark the row read writes nothing and hands on no event, and the
row that it returns is the completed one.  Both return once they have had their turns, the latter if
nothing fails for it. -/
theorem completion_once (services : ι → Service) (touches : ι → Touch) {qs : List RevisionRequest}
    {r : RecipientRow} (asked : ∃ q ∈ qs, q.id = r.requestId) (timed : r.isRead = r.readAt.isSome)
    (implied : r.isCompleted = true → r.isRead = true) (early : List (ι × Outside)) :
    let world := (start services r.requestId r.recipientId touches (qs.map requestRow)
      (recipientRow r)).run early
    (world.server.row.Completed → world.server.row.IsRead) ∧
      (∀ i j row row', touches i ≠ .read → touches j ≠ .read →
        world.returned i = some (.ok row) → world.returned j = some (.ok row') → i = j) ∧
      (∀ i row, touches i ≠ .read → world.returned i = some (.ok row) →
        world.server.row.Completed) ∧
      (world.server.row.Completed → ∀ late, (world.run late).server = world.server) ∧
      (world.server.row.Completed → ∀ i w late,
        let later := (world.turn (i, w)).run late
        (∀ request ∈ world.asks i, touches i ≠ .read → Decides request → w.failure = none →
            (∀ outcome, later.returned i = some outcome →
              outcome = .error (.alreadyCompleted r.requestId r.recipientId)) ∧
            (5 ≤ late.countP (·.1 = i) → ∃ outcome, later.returned i = some outcome)) ∧
        ∀ request ∈ world.asks i, touches i = .read → Updates request →
            later.toldBy i = world.toldBy i ∧
            (∀ row, later.returned i = some (.ok row) →
              readRecipient world.server.row = .ok row) ∧
            (w.failure = none → (∀ t ∈ late, t.1 = i → t.2.failure = none) →
              5 ≤ late.countP (·.1 = i) → ∃ row, later.returned i = some (.ok row))) := by
  intro world
  have fair : world.Fair r.requestId r.recipientId (if r.isRead then 0 else 1) touches qs :=
    (fair_start services timed implied).run early
  refine ⟨fair.implied, fun i j row row' => fair.eq_of_returned,
    fun i row completes returned => (fair.won_of_returned completes returned).1,
    fun completed late => (fair.lawful.run_of_completed completed late).1,
    fun completed i w late => ?_⟩
  intro later
  obtain ⟨row, stored, regular⟩ := fair.lawful.stored
  have settled : world.Settled r.requestId r.recipientId (if r.isRead then 0 else 1) touches qs
      row := ⟨fair, stored, regular, by rwa [stored, completed_recipientRow] at completed⟩
  have settled' := settled.turn (i, w)
  constructor
  · intro request asks completes decides calm
    have ends := settled'.ends_run late (fun _ _ _ _ _ _ _ _ => trivial)
      (settled.ends_of_decides completes asks decides calm)
    refine ⟨fun outcome returned => of_returned ends returned, fun enough => ?_⟩
    rw [Nat.sub_eq_zero_of_le enough] at ends
    obtain ⟨outcome, returned, -⟩ := exists_returned ends
    exact ⟨outcome, returned⟩
  · intro request asks reads updates
    obtain ⟨under, ends⟩ := settled.of_updates (w := w) reads asks updates
    obtain ⟨under, told⟩ := settled.under_turn (i, w) under
    obtain ⟨under, told'⟩ := settled'.under_run late under
    refine ⟨told'.trans told, fun row' returned => ?_, fun calm smooth enough => ?_⟩
    · rw [returned_iff.1 returned] at under
      rw [stored, readRecipient_recipientRow, under row' rfl]
    · have ends := settled'.ends_run late (fun world settled t mem own request next going =>
        settled.smooth asked going (smooth t mem own)) (ends calm)
      rw [Nat.sub_eq_zero_of_le enough] at ends
      obtain ⟨outcome, returned, rfl⟩ := exists_returned ends
      exact ⟨_, returned⟩

/-- A turn in which nothing fails. -/
def calmAt (seconds : Int) : Outside :=
  ⟨.ofNanos (seconds * 1000000000), default, .ok none, .ok (), none, false⟩

/-- A client loads the row before another one completes it, and writes it afterwards. -/
theorem completion_once_overtaken :
    let touches : Fin 2 → Touch := fun i => if i = 0 then .read else .complete "done"
    let world := (pair touches).run (turnsAt 0 6 1 ++ turnsAt 1 14 10)
    let later := (world.turn (0, calmAt 20)).run (turnsAt 0 5 20)
    world.server.row.Completed ∧ later.toldBy 0 = [] ∧
      ∃ row, later.returned 0 = some (.ok row) ∧ readRecipient world.server.row = .ok row := by
  intro touches world later
  have completed : world.server.row.Completed := by decide +kernel
  obtain ⟨request, asks, updates⟩ : ∃ request ∈ world.asks 0, Updates request := by decide +kernel
  have none : world.toldBy 0 = [] := by decide +kernel
  let q : RevisionRequest :=
    ⟨default, default, default, default, .criteria, "", default, .epoch⟩
  have asked : ∃ q' ∈ [q], q'.id = q.id := ⟨q, List.mem_singleton_self q, rfl⟩
  obtain ⟨-, -, -, -, decided⟩ := completion_once (fun _ => observed) touches
    (r := .fresh default default .evaluatee) asked rfl nofun (turnsAt 0 6 1 ++ turnsAt 1 14 10)
  obtain ⟨silent, shows, returns⟩ :=
    (decided completed 0 (calmAt 20) (turnsAt 0 5 20)).2 request asks rfl updates
  obtain ⟨row, returned⟩ := returns rfl (by decide +kernel) (by decide +kernel)
  exact ⟨completed, silent.trans none, row, returned, shows row returned⟩

end World

end Appraisal.Postgres
