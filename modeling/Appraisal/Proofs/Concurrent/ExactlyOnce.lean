import Mathlib.Algebra.Order.BigOperators.Group.Finset
import Appraisal.Proofs.Concurrent.EventLog
import Appraisal.Proofs.Workflow.Receipts

/-!
# Reading and completing once

However calls interfere, a recipient reads a request once and completes it once.  Several calls may
find the same unread row and several attempts may be made, but the calls stand in a line, and along
it the rows account for the events (`Linked.receipts`).  So the events that were heard of a
recipient are those that the committed row accounts for, no fewer and no more
(`System.exactly_once`).
-/

namespace Appraisal.Memory

open Workflow

/-! ## Along the line -/

section

variable {ι : Type} {span : ι → Option (Tables × Tables)} {a c : Tables} {is : List ι}

/-- What every call in a line preserves holds wherever one of them stands. -/
theorem Linked.invariant {P : Tables → Prop} (linked : Linked span a is c)
    (preserved : ∀ i ∈ is, ∀ x y, span i = some (x, y) → P x → P y) (start : P a) :
    P c ∧ ∀ i ∈ is, ∀ x y, span i = some (x, y) → P x := by
  induction linked with
  | nil => exact ⟨start, fun i hi => absurd hi List.not_mem_nil⟩
  | @skip a c i is none rest ih =>
    obtain ⟨last, all⟩ := ih (fun j hj => preserved j (List.mem_cons_of_mem _ hj)) start
    refine ⟨last, fun j hj x y span' => ?_⟩
    rcases List.mem_cons.1 hj with rfl | hj
    · rw [none] at span'
      cases span'
    · exact all j hj x y span'
  | @link a b c i is span rest ih =>
    obtain ⟨last, all⟩ := ih (fun j hj => preserved j (List.mem_cons_of_mem _ hj))
      (preserved i List.mem_cons_self a b span start)
    refine ⟨last, fun j hj x y span' => ?_⟩
    rcases List.mem_cons.1 hj with rfl | hj
    · rw [span] at span'
      cases span'
      exact start
    · exact all j hj x y span'

theorem Linked.receipts {events : ι → List WorkflowEvent} (linked : Linked span a is c)
    (unplaced : ∀ i ∈ is, span i = none → events i = [])
    (receipts : ∀ i ∈ is, ∀ x y, span i = some (x, y) → Receipts x y (events i)) :
    Receipts a c (is.flatMap events) := by
  induction linked with
  | nil => exact .refl _
  | skip none rest ih =>
    rw [List.flatMap_cons, unplaced _ List.mem_cons_self none]
    exact ih (fun j hj => unplaced j (List.mem_cons_of_mem _ hj))
      fun j hj => receipts j (List.mem_cons_of_mem _ hj)
  | link span rest ih =>
    rw [List.flatMap_cons]
    exact (receipts _ List.mem_cons_self _ _ span).trans
      (ih (fun j hj => unplaced j (List.mem_cons_of_mem _ hj))
        fun j hj => receipts j (List.mem_cons_of_mem _ hj))

end

/-! ## Calls that have returned -/

/-- How often a call has counted a completion. -/
def Progress.completions (b : Progress) : Nat :=
  ((b.account.turns.map Turn.request).filterMap completes).length

/-- The events that were heard from a call that has returned are receipts of what it did. -/
structure Vouched (place : Nat) (c : Call) (r : Except WorkflowError c.Value) (b : Progress) :
    Prop where
  receipts : ∀ base left, b.span = some (base, left) →
    left.Marked ∧ Receipts base left (b.heard place)
  /-- The completions among them were counted. -/
  counted : b.completions = (b.heard place).countP isCompletion
  /-- A completion is the one that was asked for, and it was returned. -/
  completion : ∀ d, .revisionCompleted d ∈ b.heard place →
    c = .submitCompletion d.requestId d.recipientId d.responseComment ∧
      ∃ v row, r = .ok v ∧ completedRow? c v = some row ∧
        row.responseComment = some d.responseComment ∧ row.completedAt = some d.completedAt
  /-- A completion that succeeded was heard. -/
  completed : ∀ requestId recipientId comment, c = .submitCompletion requestId recipientId comment →
    (∃ v, r = .ok v) →
      ∃ at_, .revisionCompleted ⟨requestId, recipientId, comment, at_⟩ ∈ b.heard place

section

variable {origin : Store} {s : Service} {c : Call} {r : Except WorkflowError c.Value}
  {b : Progress} {place : Nat}

theorem Progress.Hidden.vouched (hidden : b.Hidden) (neutral : b.Neutral)
    (failed : ∀ v, r ≠ .ok v)
    (stands : ∀ base left, b.span = some (base, left) → base.Marked) : Vouched place c r b := by
  have heard : b.heard place = [] := filterMap_of_silent (blind_hears place) hidden.requests
  have counted : b.completions = 0 :=
    congrArg List.length (filterMap_of_silent blind_completes hidden.requests)
  refine ⟨fun base left span => ?_, ?_, fun d mem => ?_, fun _ _ _ _ ⟨v, ok⟩ => absurd ok (failed v)⟩
  · obtain rfl := neutral hidden.unpublished base left span
    rw [heard]
    exact ⟨stands base base span, .refl base⟩
  · rw [heard, counted]
    rfl
  · rw [heard] at mem
    cases mem

theorem Tale.vouched (h : Tale origin s c (pure r) b) (neutral : b.Neutral)
    (observes : Observes s place) (mappings : ∀ id m, origin.findMapping id = some m → m.id = id)
    (stands : ∀ base left, b.span = some (base, left) →
      base.Keyed ∧ base.Attached ∧ base.Marked) : Vouched place c r b := by
  have marked := fun base left span => (stands base left span).2.2
  cases h with
  | unsettled hidden uncounted =>
    refine hidden.vouched neutral (fun v ok => ?_) marked
    have error := uncounted r rfl
    rw [ok] at error
    cases error
  | settled h =>
    cases h with
    | refused follows span hidden => exact hidden.vouched neutral nofun marked
    | @done _ _ plan prepared ready prepares outcome base left worked span published opened quiet
        made cleanUp turns silent cleans path =>
      obtain ⟨keyed, attached, marked⟩ := stands base left span
      obtain ⟨rows, deed, same⟩ := worked.deed (Follows.suits mappings prepares)
      obtain ⟨marked', receipts⟩ := deed.receipts keyed attached marked
      have recipients : left.recipients = (base.putAll rows).recipients :=
        Tables.recipients_eq_of_row same
      have heard : b.heard place = raised c outcome := by
        rw [Progress.heard, turns, filterMap_of_path (blind_hears place) silent cleans path]
        exact concluded_hears observes c outcome
      have counted : b.completions = (raised c outcome).countP isCompletion := by
        rw [Progress.completions, turns, filterMap_of_path blind_completes silent cleans path]
        exact worked.counted
      have returns : r = outcome.map (returned c) := returns_of_path path
      rw [← heard] at receipts counted
      refine ⟨fun base' left' span' => ?_, counted, fun d mem => ?_, fun id e comment own ok => ?_⟩
      · rw [span] at span'
        cases span'
        refine ⟨fun id e row found => marked' id e row ?_, receipts.congr recipients⟩
        rw [← recipients]
        exact found
      · rw [heard] at mem
        obtain ⟨asked, b, row, rfl, answer, comment, at_⟩ := worked.completion mem
        exact ⟨asked, returned c b, row, returns, answer, comment, at_⟩
      · subst own
        obtain ⟨v, rfl⟩ := ok
        cases outcome with
        | error e => cases returns
        | ok b =>
          rw [heard]
          exact worked.completed

end

/-! ## What a row accounts for -/

def isReading : WorkflowEvent → Bool
  | .revisionRead _ => true
  | _ => false

section

variable {requestId : RevisionRequestId} {recipientId : EmployeeId} {row? : Option RecipientRow}

theorem countP_isReading_storyOf (marked : ∀ row, row? = some row → row.Marked) :
    (storyOf requestId recipientId row?).countP isReading =
      if row?.any (·.isRead) then 1 else 0 := by
  cases row? with
  | none => rfl
  | some row =>
    have completion : (completionOf requestId recipientId row).countP isReading = 0 := by
      rw [completionOf]
      split <;> rfl
    rw [storyOf, List.countP_append, completion, Option.any_some, (marked row rfl).read, readingOf]
    cases row.readAt <;> rfl

theorem countP_isCompletion_storyOf (marked : ∀ row, row? = some row → row.Marked) :
    (storyOf requestId recipientId row?).countP isCompletion =
      if row?.any (·.isCompleted) then 1 else 0 := by
  cases row? with
  | none => rfl
  | some row =>
    have agrees := marked row rfl
    have reading : (readingOf requestId recipientId row).countP isCompletion = 0 := by
      rw [readingOf]
      split <;> rfl
    rw [storyOf, List.countP_append, reading, Nat.zero_add, Option.any_some]
    cases completed : row.isCompleted with
    | false =>
      obtain ⟨unset, -⟩ := agrees.eq_none_of_uncompleted completed
      rw [completionOf, unset]
      cases row.responseComment <;> rfl
    | true =>
      have set_ := agrees.completed.symm.trans completed
      obtain ⟨at_, same⟩ := Option.isSome_iff_exists.1 set_
      obtain ⟨comment, said⟩ := Option.isSome_iff_exists.1 (agrees.answered.trans set_)
      rw [completionOf, said, same]
      rfl

theorem readAt_of_mem_storyOf {d : RevisionRead}
    (mem : .revisionRead d ∈ storyOf requestId recipientId row?) :
    ∃ row, row? = some row ∧ row.readAt = some d.at_ := by
  cases row? with
  | none => cases mem
  | some row =>
    refine ⟨row, rfl, ?_⟩
    rcases List.mem_append.1 mem with reading | completion
    · rw [readingOf] at reading
      split at reading
      · rename_i at_ same
        cases List.mem_singleton.1 reading
        exact same
      · cases reading
    · rw [completionOf] at completion
      split at completion
      · cases List.mem_singleton.1 completion
      · cases completion

theorem completed_of_mem_storyOf {d : RevisionCompleted}
    (mem : .revisionCompleted d ∈ storyOf requestId recipientId row?) :
    ∃ row, row? = some row ∧ row.responseComment = some d.responseComment ∧
      row.completedAt = some d.completedAt := by
  cases row? with
  | none => cases mem
  | some row =>
    refine ⟨row, rfl, ?_⟩
    rcases List.mem_append.1 mem with reading | completion
    · rw [readingOf] at reading
      split at reading
      · cases List.mem_singleton.1 reading
      · cases reading
    · rw [completionOf] at completion
      split at completion
      · rename_i comment at_ said same
        cases List.mem_singleton.1 completion
        exact ⟨said, same⟩
      · cases completion

end

namespace System

variable {ι : Type} [DecidableEq ι] {calls : ι → Call} {service : ι → Service} {origin : Store}

/-! ## Calls that have all returned -/

omit [DecidableEq ι] in
/-- Calls that have all returned vouch for the rows that they leave. -/
theorem Ok.vouched {sys : System calls} (h : sys.Ok origin service)
    (mappings : ∀ id m, origin.findMapping id = some m → m.id = id)
    (empty : origin.committed = default) {place : ι → Nat}
    (observed : ∀ i, Observes (service i) (place i))
    {r : (i : ι) → Except WorkflowError (calls i).Value}
    (returned : ∀ i, (sys.clients i).rest = pure (r i)) :
    sys.store.committed.Marked ∧
      (∀ i, Vouched (place i) (calls i) (r i) (sys.clients i).progress) ∧
      Receipts default sys.store.committed (sys.log place sys.line) := by
  have tale : ∀ i, Tale origin (service i) (calls i) (pure (r i)) (sys.clients i).progress := by
    intro i
    rw [← returned i]
    exact (h.clients i).safe.tale
  have told := fun i => (tale i).told (h.clients i).neutral (observed i) mappings
  have vouched := fun i => (tale i).vouched (h.clients i).neutral (observed i) mappings
  have linked := h.linked
  rw [empty] at linked
  obtain ⟨⟨-, -, marked⟩, stands⟩ := linked.invariant
    (P := fun t => t.Keyed ∧ t.Attached ∧ t.Marked) (fun i _ x y span good => by
      have only : ∀ base left, (sys.clients i).progress.span = some (base, left) →
          base.Keyed ∧ base.Attached ∧ base.Marked := by
        intro base left span'
        rw [span] at span'
        cases span'
        exact good
      have effect := (told i fun base left span =>
        ⟨(only base left span).1, (only base left span).2.1⟩).effect x y span
      obtain ⟨revision, revised⟩ := effect.revised
      exact ⟨effect.keyed, revised.attached, ((vouched i only).receipts x y span).1⟩)
    ⟨keyed_default, attached_default, fun _ _ _ none => by cases none⟩
  have all : ∀ i, Vouched (place i) (calls i) (r i) (sys.clients i).progress := by
    refine fun i => vouched i fun base left span => ?_
    have placed : i ∈ sys.line := (h.placed i).2 (by rw [span]; nofun)
    exact stands i placed base left span
  refine ⟨marked, all, linked.receipts (fun i hi none => ?_) fun i _ x y span =>
    ((all i).receipts x y span).2⟩
  exact absurd none ((h.placed i).1 hi)

/-! ## Once each -/

/-- A call has returned a value. -/
def Succeeded (sys : System calls) (i : ι) : Prop := ∃ v, (sys.clients i).rest = pure (.ok v)

/-- How many of the events that were heard from all calls are as described. -/
def heardCount [Fintype ι] (sys : System calls) (place : ι → Nat) (p : WorkflowEvent → Bool) :
    Nat :=
  ∑ i, ((sys.clients i).progress.heard (place i)).countP p

/-- Requests were read and completed once for each recipient, or not at all. -/
structure ExactlyOnce [Fintype ι] (sys : System calls) (place : ι → Nat) : Prop where
  /-- Of the calls that complete a request for a recipient, at most one succeeds. -/
  unique : ∀ {i j requestId recipientId comment comment'},
    calls i = .submitCompletion requestId recipientId comment →
    calls j = .submitCompletion requestId recipientId comment' →
    sys.Succeeded i → sys.Succeeded j → i = j
  /-- A row that is completed was completed once. -/
  completions : ∀ requestId recipientId,
    sys.heardCount place (fun event => isCompletion event && concerns requestId recipientId event) =
      if (sys.store.committed.recipients.get? (requestId, recipientId)).any (·.isCompleted)
        then 1 else 0
  /-- A row that is read was read once. -/
  readings : ∀ requestId recipientId,
    sys.heardCount place (fun event => isReading event && concerns requestId recipientId event) =
      if (sys.store.committed.recipients.get? (requestId, recipientId)).any (·.isRead)
        then 1 else 0
  /-- It was read when it says. -/
  readAt : ∀ i d, .revisionRead d ∈ (sys.clients i).progress.heard (place i) →
    ∃ row, sys.store.committed.recipients.get? (d.requestId, d.recipientId) = some row ∧
      row.readAt = some d.at_
  /-- It was completed when it says and with what it says, which is what the call was given and what
  it returned. -/
  completed : ∀ i d, .revisionCompleted d ∈ (sys.clients i).progress.heard (place i) →
    (∃ row, sys.store.committed.recipients.get? (d.requestId, d.recipientId) = some row ∧
      row.responseComment = some d.responseComment ∧ row.completedAt = some d.completedAt) ∧
    calls i = .submitCompletion d.requestId d.recipientId d.responseComment ∧
    ∃ v answer, (sys.clients i).rest = pure (.ok v) ∧ completedRow? (calls i) v = some answer ∧
      answer.responseComment = some d.responseComment ∧ answer.completedAt = some d.completedAt
  /-- A completion that succeeds is heard of. -/
  told : ∀ {i requestId recipientId comment},
    calls i = .submitCompletion requestId recipientId comment → sys.Succeeded i →
      ∃ at_, .revisionCompleted ⟨requestId, recipientId, comment, at_⟩ ∈
        (sys.clients i).progress.heard (place i)
  /-- Completed rows are counted. -/
  counted : ∑ i, (sys.clients i).progress.completions = sys.store.committed.completed

theorem two_le_heardCount [Fintype ι] {sys : System calls} {place : ι → Nat} {i j : ι}
    (other : i ≠ j) {p : WorkflowEvent → Bool} {first second : WorkflowEvent}
    (mem : first ∈ (sys.clients i).progress.heard (place i)) (counts : p first = true)
    (mem' : second ∈ (sys.clients j).progress.heard (place j)) (counts' : p second = true) :
    2 ≤ sys.heardCount place p := by
  let count := fun k => ((sys.clients k).progress.heard (place k)).countP p
  have one : 0 < count i := List.countP_pos_iff.2 ⟨first, mem, counts⟩
  have another : 0 < count j := List.countP_pos_iff.2 ⟨second, mem', counts'⟩
  calc 2 ≤ count i + count j := by omega
    _ = ∑ k ∈ {i, j}, count k := (Finset.sum_pair other).symm
    _ ≤ ∑ k, count k := Finset.sum_le_sum_of_subset (Finset.subset_univ _)

theorem Ok.exactlyOnce [Fintype ι] {sys : System calls} (h : sys.Ok origin service)
    (mappings : ∀ id m, origin.findMapping id = some m → m.id = id)
    (empty : origin.committed = default) {place : ι → Nat}
    (observed : ∀ i, Observes (service i) (place i))
    (returned : ∀ i, ∃ r, (sys.clients i).rest = pure r) : sys.ExactlyOnce place := by
  choose r rest using returned
  obtain ⟨marked, vouched, receipts⟩ := h.vouched mappings empty observed rest
  obtain ⟨-, calls_⟩ := h.chronicle mappings (by rw [empty]; exact keyed_default)
    (by rw [empty]; exact attached_default) observed fun i => ⟨r i, rest i⟩
  have inLine : ∀ i, (sys.clients i).progress.heard (place i) ≠ [] → i ∈ sys.line := by
    intro i heard
    refine h.mem_line (rest i) ?_
    by_contra unpublished
    exact heard ((calls_ i).1.published (Bool.eq_false_iff.2 unpublished))
  -- the events of a recipient are those that the row accounts for
  have story : ∀ requestId recipientId,
      eventsOf requestId recipientId (sys.log place sys.line) =
        storyOf requestId recipientId
          (sys.store.committed.recipients.get? (requestId, recipientId)) :=
    fun requestId recipientId => (receipts.story requestId recipientId).symm
  have told : ∀ {i requestId recipientId event},
      event ∈ (sys.clients i).progress.heard (place i) →
      concerns requestId recipientId event = true →
      event ∈ storyOf requestId recipientId
        (sys.store.committed.recipients.get? (requestId, recipientId)) := by
    intro i requestId recipientId event mem about
    rw [← story]
    refine List.mem_filter.2 ⟨List.mem_flatMap.2 ⟨i, inLine i ?_, mem⟩, about⟩
    exact List.ne_nil_of_mem mem
  have counts : ∀ (p : WorkflowEvent → Bool) requestId recipientId,
      sys.heardCount place (fun event => p event && concerns requestId recipientId event) =
        (storyOf requestId recipientId
          (sys.store.committed.recipients.get? (requestId, recipientId))).countP p := by
    intro p requestId recipientId
    rw [heardCount, sum_countP_heard h.nodup inLine, ← story, eventsOf, List.countP_filter]
  have completions : ∀ requestId recipientId, sys.heardCount place
      (fun event => isCompletion event && concerns requestId recipientId event) =
        if (sys.store.committed.recipients.get? (requestId, recipientId)).any (·.isCompleted)
          then 1 else 0 :=
    fun requestId recipientId => (counts isCompletion requestId recipientId).trans
      (countP_isCompletion_storyOf fun row => marked requestId recipientId row)
  have successes : ∀ {i requestId recipientId comment},
      calls i = .submitCompletion requestId recipientId comment → sys.Succeeded i →
        ∃ at_, .revisionCompleted ⟨requestId, recipientId, comment, at_⟩ ∈
          (sys.clients i).progress.heard (place i) := by
    rintro i requestId recipientId comment own ⟨v, ok⟩
    refine (vouched i).completed requestId recipientId comment own ⟨v, ?_⟩
    exact Program.pure.inj ((rest i).symm.trans ok)
  refine
    { unique := fun {i j requestId recipientId comment comment'} own own' ok ok' => ?_
      completions := completions
      readings := fun requestId recipientId => (counts isReading requestId recipientId).trans
        (countP_isReading_storyOf fun row => marked requestId recipientId row)
      readAt := fun i d mem => readAt_of_mem_storyOf (told mem (by simp [concerns]))
      completed := fun i d mem => ⟨completed_of_mem_storyOf (told mem (by simp [concerns])), ?_⟩
      told := successes
      counted := ?_ }
  · by_contra other
    obtain ⟨at_, mem⟩ := successes own ok
    obtain ⟨at_', mem'⟩ := successes own' ok'
    have two := two_le_heardCount other
      (p := fun event => isCompletion event && concerns requestId recipientId event)
      mem (by simp [isCompletion, concerns]) mem' (by simp [isCompletion, concerns])
    rw [completions] at two
    split at two <;> omega
  · obtain ⟨own, v, row, ok, answer⟩ := (vouched i).completion d mem
    exact ⟨own, v, row, (rest i).trans (congrArg pure ok), answer⟩
  · have each : ∀ i, (sys.clients i).progress.completions =
        ((sys.clients i).progress.heard (place i)).countP isCompletion :=
      fun i => (vouched i).counted
    rw [Finset.sum_congr rfl fun i _ => each i, sum_countP_heard h.nodup inLine,
      receipts.completed]
    exact (Nat.zero_add _).symm

/-- Whatever calls run on a store that held only mappings, and however they interfere: once all have
returned, every request was read and completed once for each recipient whose row says so, and never
for another. -/
theorem exactly_once [Fintype ι] (service : ι → Service) (calls : ι → Call) (place : ι → Nat)
    (observed : ∀ i, Observes (service i) (place i)) (mappings : List EvaluationMapping)
    (faults : Faults) (happenings : List (Happening ι))
    (returned : ∀ i, ∃ r,
      (((start service calls (holding mappings faults)).run happenings).clients i).rest = pure r) :
    ((start service calls (holding mappings faults)).run happenings).ExactlyOnce place := by
  have empty := committed_holding mappings faults
  have began : (start service calls (holding mappings faults)).Ok (holding mappings faults)
      service := ok_start service calls (by rw [empty]; exact keyed_default)
  exact (ok_run began happenings).exactlyOnce (id_of_findMapping mappings faults) empty observed
    returned

/-- A request is created, completed by two calls at once and read by a third. -/
def completedTwice : Fin 4 → Call
  | 0 => .createRequest ⟨default, .criteria, "Please revise the criteria.", default, []⟩
  | 1 => .submitCompletion (Id.random default) default "Revised once."
  | 2 => .submitCompletion (Id.random default) default "Revised twice."
  | 3 => .markRead (Id.random default) default

/-- The others wait until the request is there. -/
def afterwards : List (Happening (Fin 4)) :=
  let w : Outside := ⟨default, default, .ok ()⟩
  List.replicate 30 (.turn 0 w) ++
    (List.replicate 40 [.turn 1 w, .turn 2 w, .turn 3 w]).flatten

/-- One of the completions finds the request completed, and the reader finds it read. -/
theorem exactly_once_completedTwice :
    ∃ final : System completedTwice,
      final = (start (fun _ => audited true) completedTwice
        (holding [.fresh default default default] default)).run afterwards ∧
      final.ExactlyOnce (fun _ => 0) ∧ final.store.stats.conflicts = 2 ∧
      final.store.committed.completed = 1 := by
  have returned : ∀ i, (((start (fun _ => audited true) completedTwice
      (holding [.fresh default default default] default)).run
        afterwards).clients i).rest.value?.isSome := by
    decide +kernel
  exact ⟨_, rfl, exactly_once (fun _ => audited true) completedTwice (fun _ => 0)
    (fun _ => ⟨_, rfl, rfl⟩) [.fresh default default default] default afterwards
    fun i => Program.eq_pure_of_isSome (returned i), by decide +kernel, by decide +kernel⟩

end System

end Appraisal.Memory
