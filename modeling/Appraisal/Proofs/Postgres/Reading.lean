import Mathlib.Data.List.Perm.Subperm
import Appraisal.Proofs.Postgres.Turns

/-!
# When a reading is kept

A call decides whether a row is read on the copy that it has loaded, and its update does not look at
the time of reading again.  So the time of reading is kept as long as no change is overtaken
(`Publication.Overtaken`), and there are no more events of a reading than the first one and the
changes that were overtaken (`reading_kept`).

The count goes from handlers to commits.  A client tells of no more readings than it committed on
rows that it had loaded unread (`Lawful.ordered`).  Each of these commits is the first one, or its
row had been read since it was loaded (`Change.pays`).

Changes do get overtaken: `reading_overwritten` is a run of two clients.
-/

namespace Appraisal.Postgres

open Workflow

/-! ## The time of reading -/

/-- How many first readings of a row are still to come. -/
def awaited (row : Row) : Nat := if readCell row = some .null then 1 else 0

section

variable {requestId : RevisionRequestId} {recipientId : EmployeeId} {ι : Type} {i : ι}
  {loaded : Option RecipientRow} {found left : Row}

theorem readCell_recipientRow (r : RecipientRow) :
    readCell (recipientRow r) = some (optionCell r.readAt) := rfl

theorem Regular.readCell {r : RecipientRow} (h : Regular requestId recipientId r) :
    readCell (recipientRow r) = some .null ↔ r.isRead = false := by
  rw [readCell_recipientRow, h.timed]
  cases r.readAt <;> simp [optionCell, CellType.toCell]

/-- A change leaves the row read. -/
theorem Change.set (change : Change requestId recipientId loaded found left) :
    readCell left ≠ some .null := by
  obtain ⟨l, new, old, -, regular, decision, -, keyed, -, rfl⟩ := change
  have regular := keyed.over (decision.timed regular.timed)
  rw [ne_eq, regular.readCell]
  intro none
  cases decision.isRead.symm.trans none

/-- A change that was not overtaken keeps the time of reading. -/
theorem Change.keeps (change : Change requestId recipientId loaded found left)
    (current : ¬ (⟨i, loaded, found⟩ : Publication ι).Overtaken)
    (read : readCell found ≠ some .null) : readCell left = readCell found := by
  obtain ⟨l, new, old, rfl, regular, decision, -, -, -, rfl⟩ := change
  have same : readCell (recipientRow l) = readCell found := by
    simpa [Publication.Overtaken] using current
  have isRead : l.isRead = true := by
    rw [← same, ne_eq, regular.readCell] at read
    simpa using read
  rw [← same, readCell_recipientRow, readCell_recipientRow]
  exact congrArg (fun t => some (optionCell t)) (decision.readAt isRead)

/-- A change of a row that was loaded unread is the first reading, or it was overtaken. -/
theorem Change.pays (change : Change requestId recipientId loaded found left) :
    (if unread loaded then 1 else 0) ≤
      awaited found + if (⟨i, loaded, found⟩ : Publication ι).Overtaken then 1 else 0 := by
  obtain ⟨l, new, old, rfl, regular, -⟩ := change
  by_cases current : (⟨i, some l, found⟩ : Publication ι).Overtaken
  · rw [if_pos current]
    split <;> omega
  · have same : readCell (recipientRow l) = readCell found := by
      simpa [Publication.Overtaken] using current
    have none := regular.readCell
    rw [same] at none
    cases isRead : l.isRead <;> simp [unread, awaited, isRead, none]

end

/-! ## Who tells of readings -/

namespace World

variable {ι : Type}

/-- The clients that told a handler of a reading, once for each time. -/
def heard (world : World ι) (place : Nat) : List ι :=
  (world.told.filter fun t => t.2.1 = place ∧ isReading t.2.2).map Prod.fst

/-- The clients that committed a change of a row that they had loaded unread. -/
def readers (world : World ι) : List ι :=
  (world.log.filter fun p => unread p.loaded).map Publication.client

/-- A time of reading was not cleared since then, and it was kept if no change was overtaken. -/
structure Keeps (world later : World ι) : Prop where
  set : readCell world.server.row ≠ some .null → readCell later.server.row ≠ some .null
  same : ∃ more, later.log = world.log ++ more ∧
    ((∀ p ∈ more, ¬ p.Overtaken) → readCell world.server.row ≠ some .null →
      readCell later.server.row = readCell world.server.row)

theorem Keeps.refl (world : World ι) : world.Keeps world :=
  ⟨id, [], (List.append_nil _).symm, fun _ _ => rfl⟩

theorem Keeps.trans {world next last : World ι} (h : world.Keeps next) (h' : next.Keeps last) :
    world.Keeps last := by
  obtain ⟨set, more, log, keeps⟩ := h
  obtain ⟨set', more', log', keeps'⟩ := h'
  refine ⟨set' ∘ set, more ++ more', by rw [log', log, List.append_assoc], fun current read => ?_⟩
  have same := keeps (fun p mem => current p (List.mem_append_left _ mem)) read
  have same' := keeps' (fun p mem => current p (List.mem_append_right _ mem)) (set read)
  rw [same', same]

variable [DecidableEq ι] {world : World ι} {i : ι} {w : Outside}
  {request : Appraisal.Request WorkflowEvent}
  {next : request.Answer → Action WorkflowEvent (Except WorkflowError RecipientRow)}

theorem heard_respond (place : Nat) :
    (world.respond i w request next).heard place =
      world.heard place ++ List.replicate (announces place request).toList.length i := by
  cases request with
  | deliver at_ event =>
    by_cases here : at_ = place ∧ isReading event <;>
      simp [heard, respond, telling, announces, here]
  | _ => simp [heard, respond, telling, announces]

/-- How many changes of rows that were loaded unread a request commits. -/
def gain (world : World ι) (i : ι) (w : Outside) (request : Appraisal.Request WorkflowEvent) :
    Nat :=
  let client := world.clients i
  if (world.server.answer w i client.session request).2.1.version = world.server.version then 0
  else if unread client.standing.loaded then 1 else 0

theorem log_respond :
    (world.respond i w request next).log =
      if (world.respond i w request next).server.version = world.server.version then world.log
      else world.log ++ [⟨i, (world.clients i).standing.loaded, world.server.row⟩] := rfl

theorem readers_respond :
    (world.respond i w request next).readers =
      world.readers ++ List.replicate (world.gain i w request) i := by
  have server : (world.respond i w request next).server =
      (world.server.answer w i (world.clients i).session request).2.1 := rfl
  rw [readers, log_respond, gain, server]
  split
  · simp [readers]
  · cases read : unread (world.clients i).standing.loaded <;> simp [readers, read]

/-! ## Invariants of all turns -/

/-- What holds of the world in every turn. -/
structure Lawful (requestId : RevisionRequestId) (recipientId : EmployeeId) (place first : Nat)
    (world : World ι) : Prop where
  stored : Stored requestId recipientId world.server
  sound : ∀ i, Sound requestId recipientId world.server i (world.clients i).standing
    (world.clients i).session
  /-- Every call keeps to the rules, and it told of no more readings than it committed. -/
  ordered : ∀ i, ∃ owed,
    InOrder requestId recipientId place (world.clients i).rest ⟨(world.clients i).standing, owed⟩ ∧
      (world.heard place).count i + owed ≤ world.readers.count i
  /-- Each change of a row that was loaded unread is the first reading, or it was overtaken. -/
  paid : world.readers.length + awaited world.server.row ≤
    first + world.log.countP fun p => p.Overtaken

variable {requestId : RevisionRequestId} {recipientId : EmployeeId} {place first : Nat}

theorem lawful_start (services : ι → Service) (touches : ι → Touch) (requests : List Row)
    {r : RecipientRow} (regular : Regular requestId recipientId r) :
    (start services requestId recipientId touches requests (recipientRow r)).Lawful requestId
      recipientId place (if r.isRead then 0 else 1) where
  stored := ⟨r, rfl, regular⟩
  sound i := .of_free rfl rfl nofun nofun
  ordered i := ⟨0, touch_obeys (services i) (touches i), Nat.zero_le _⟩
  paid := by
    have read := regular.readCell
    cases isRead : r.isRead <;> simp [start, readers, awaited, read, isRead]

/-- A request of a client leaves the committed row alone, or it commits a change. -/
theorem Lawful.respond_cases (lawful : world.Lawful requestId recipientId place first)
    (goes : Goes requestId recipientId world.server w i (world.clients i).standing
      (world.clients i).session request) :
    world.gain i w request = 0 ∧ (world.respond i w request next).log = world.log ∧
        (world.respond i w request next).server.row = world.server.row ∨
      world.gain i w request = (if unread (world.clients i).standing.loaded then 1 else 0) ∧
        (world.respond i w request next).log =
          world.log ++ [⟨i, (world.clients i).standing.loaded, world.server.row⟩] ∧
        Change requestId recipientId (world.clients i).standing.loaded world.server.row
          (world.respond i w request next).server.row := by
  rw [log_respond]
  rcases goes.1.row with ⟨version, row⟩ | ⟨version, held⟩
  · exact .inl ⟨if_pos version, if_pos version, row⟩
  · exact .inr ⟨if_neg version, if_neg version, (lawful.sound i).change _ held⟩

/-- A client that does not have to wait goes on as the rules say. -/
theorem Lawful.goes (lawful : world.Lawful requestId recipientId place first)
    (going : (world.clients i).rest = .call request next)
    (proceeds : ¬ world.server.Waits i request) :
    Goes requestId recipientId world.server w i (world.clients i).standing
      (world.clients i).session request := by
  obtain ⟨owed, inOrder, -⟩ := lawful.ordered i
  rw [going] at inOrder
  exact Sound.goes (a := ⟨_, owed⟩) (lawful.sound i) lawful.stored inOrder.1 proceeds

theorem Lawful.respond (lawful : world.Lawful requestId recipientId place first)
    (going : (world.clients i).rest = .call request next)
    (proceeds : ¬ world.server.Waits i request) :
    (world.respond i w request next).Lawful requestId recipientId place first := by
  obtain ⟨owed, inOrder, counted⟩ := lawful.ordered i
  rw [going] at inOrder
  obtain ⟨may, later⟩ := inOrder
  have sound := lawful.sound i
  let a : Account := ⟨(world.clients i).standing, owed⟩
  let answer := (world.server.answer w i (world.clients i).session request).1
  have goes := lawful.goes (w := w) going proceeds
  have gained : (a.next place request answer).owed + (announces place request).toList.length ≤
      owed + world.gain i w request := Sound.owed_next (w := w) (a := a) sound may
  have clients : ∀ j ≠ i, (world.respond i w request next).clients j = world.clients j :=
    fun j other => Function.update_of_ne other _ _
  have client : (world.respond i w request next).clients i = _ := Function.update_self _ _ _
  refine ⟨lawful.stored.step sound goes.1, fun j => ?_, fun j => ?_, ?_⟩
  · by_cases same : j = i
    · subst same
      rw [client]
      exact goes.2
    · rw [clients j same]
      exact (lawful.sound j).of_other goes.1 same
  · rw [heard_respond, readers_respond, List.count_append, List.count_append,
      List.count_replicate, List.count_replicate]
    by_cases same : j = i
    · subst same
      rw [client]
      refine ⟨(a.next place request answer).owed, later answer, ?_⟩
      simp only [beq_self_eq_true, if_true]
      omega
    · obtain ⟨owed, inOrder, counted⟩ := lawful.ordered j
      rw [clients j same]
      refine ⟨owed, inOrder, ?_⟩
      simpa [Ne.symm same] using counted
  · rw [readers_respond, List.length_append, List.length_replicate]
    have paid := lawful.paid
    rcases lawful.respond_cases goes with ⟨none, log, row⟩ | ⟨gain, log, change⟩
    · rw [none, log, row]
      exact paid
    · have pays := change.pays (i := i)
      rw [log, List.countP_append, List.countP_singleton, gain, awaited, if_neg change.set]
      simp only [decide_eq_true_eq]
      omega

/-- A turn keeps what is lawful, and it keeps the time of reading. -/
theorem Lawful.turn (lawful : world.Lawful requestId recipientId place first) (t : ι × Outside) :
    (world.turn t).Lawful requestId recipientId place first ∧ world.Keeps (world.turn t) := by
  rw [World.turn]
  cases going : (world.clients t.1).rest with
  | pure outcome => exact ⟨lawful, .refl world⟩
  | call request next =>
    by_cases waits : world.server.Waits t.1 request
    · simpa [waits] using ⟨lawful, .refl world⟩
    · simp only [waits, if_false]
      refine ⟨lawful.respond going waits, ?_⟩
      rcases lawful.respond_cases (lawful.goes (w := t.2) going waits) with
        ⟨-, log, row⟩ | ⟨-, log, change⟩
      · exact ⟨by rw [row]; exact id, [], by rw [log, List.append_nil], fun _ _ => by rw [row]⟩
      · exact ⟨fun _ => change.set, _, log,
          fun current => change.keeps (current _ List.mem_cons_self)⟩

theorem Lawful.run (lawful : world.Lawful requestId recipientId place first)
    (turns : List (ι × Outside)) :
    (world.run turns).Lawful requestId recipientId place first ∧ world.Keeps (world.run turns) := by
  induction turns generalizing world with
  | nil => exact ⟨lawful, .refl world⟩
  | cons t turns ih =>
    obtain ⟨lawful, keeps⟩ := lawful.turn t
    obtain ⟨lawful, keeps'⟩ := ih lawful
    exact ⟨lawful, keeps.trans keeps'⟩

/-- A handler is told of no more readings than were committed. -/
theorem Lawful.length_heard (lawful : world.Lawful requestId recipientId place first) :
    (world.heard place).length ≤ world.readers.length := by
  refine List.Subperm.length_le (List.subperm_ext_iff.2 fun i _ => ?_)
  obtain ⟨owed, -, counted⟩ := lawful.ordered i
  omega

/-! ## The two calls -/

/-- Whatever the clients do, in whatever order, and whatever fails: a time of reading is never
cleared, and it stays as long as no change is overtaken.  A handler is told of one reading at most
for a row that was not read at the start, and of one more for each change that was overtaken. -/
theorem reading_kept (services : ι → Service) (touches : ι → Touch) (requests : List Row)
    {r : RecipientRow} (consistent : r.isRead = r.readAt.isSome) (early late : List (ι × Outside))
    (place : Nat) :
    let world := (start services r.requestId r.recipientId touches requests (recipientRow r)).run
      early
    let later := world.run late
    (readCell world.server.row ≠ some .null → readCell later.server.row ≠ some .null ∧
        ((∀ p ∈ later.log.drop world.log.length, ¬ p.Overtaken) →
          readCell later.server.row = readCell world.server.row)) ∧
      later.told.countP (fun t => t.2.1 = place ∧ isReading t.2.2) ≤
        (if r.isRead then 0 else 1) + later.log.countP fun p => p.Overtaken := by
  intro world later
  have lawful : world.Lawful r.requestId r.recipientId place (if r.isRead then 0 else 1) :=
    ((lawful_start services touches requests ⟨⟨rfl, rfl⟩, consistent⟩).run early).1
  obtain ⟨lawful', set, more, log, keeps⟩ : later.Lawful r.requestId r.recipientId place
    (if r.isRead then 0 else 1) ∧ world.Keeps later := lawful.run late
  constructor
  · refine fun read => ⟨set read, fun current => ?_⟩
    have dropped : later.log.drop world.log.length = more := by
      rw [log, List.drop_left]
    rw [dropped] at current
    exact keeps current read
  · have told := lawful'.length_heard
    have paid := lawful'.paid
    rw [heard, List.length_map, ← List.countP_eq_length_filter] at told
    omega

/-! ### Two clients -/

/-- A service with one handler. -/
def observed : Service := ⟨default, ⟨[⟨"observer", none⟩]⟩⟩

/-- Turns of a client at a time, in seconds, in which nothing fails. -/
def turnsAt {ι : Type} (i : ι) (n : Nat) (seconds : Int) : List (ι × Outside) :=
  List.replicate n
    (i, ⟨.ofNanos (seconds * 1000000000), default, .ok none, .ok (), none, false⟩)

/-- Two clients and a row that is not read. -/
def pair (touches : Fin 2 → Touch) : World (Fin 2) :=
  start (fun _ => observed) default default touches
    [requestRow ⟨default, default, default, default, .criteria, "", default, .epoch⟩]
    (recipientRow (.fresh default default .evaluatee))

/-- A client reads the request before the other one begins to complete it. -/
theorem reading_kept_inTurn :
    let world := (pair fun i => if i = 0 then .read else .complete "done").run (turnsAt 0 11 10)
    let later := world.run (turnsAt 1 13 20)
    readCell world.server.row = some (toCell (Instant.ofNanos 10000000000)) ∧
      readCell later.server.row = some (toCell (Instant.ofNanos 10000000000)) ∧
      later.log.length = 2 ∧
      later.told.countP (fun t => t.2.1 = 0 ∧ isReading t.2.2) ≤ 1 := by
  intro world later
  have first : readCell world.server.row = some (toCell (Instant.ofNanos 10000000000)) := by
    decide +kernel
  obtain ⟨keeps, told⟩ := reading_kept (fun _ => observed)
    (fun i : Fin 2 => if i = 0 then .read else .complete "done")
    [requestRow ⟨default, default, default, default, .criteria, "", default, .epoch⟩]
    (r := .fresh default default .evaluatee) rfl (turnsAt 0 11 10) (turnsAt 1 13 20) 0
  have stays : readCell later.server.row = readCell world.server.row :=
    (keeps (by decide +kernel)).2 (by decide +kernel)
  have none : (later.log.countP fun p => p.Overtaken) = 0 := by decide +kernel
  refine ⟨first, stays.trans first, by decide +kernel, ?_⟩
  have told : _ ≤ 1 + later.log.countP fun p => p.Overtaken := told
  rw [none] at told
  exact told

/-- Both clients load the row before either of them writes it.  The second one overwrites the time
of reading, and both tell of a reading. -/
theorem reading_overwritten :
    let world := (pair fun _ => .read).run (turnsAt 0 5 1 ++ turnsAt 1 5 1 ++ turnsAt 0 8 10)
    let later := world.run (turnsAt 1 8 15)
    readCell world.server.row = some (toCell (Instant.ofNanos 10000000000)) ∧
      readCell later.server.row = some (toCell (Instant.ofNanos 15000000000)) ∧
      later.told.countP (fun t => t.2.1 = 0 ∧ isReading t.2.2) = 2 := by
  decide +kernel

end World

end Appraisal.Postgres
