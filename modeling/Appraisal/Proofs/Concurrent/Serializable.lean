import Mathlib.Data.Fintype.Basic
import Mathlib.Data.Finset.Dedup
import Appraisal.Proofs.Concurrent.Line
import Appraisal.Proofs.Memory.History

/-!
# Serializability

Concurrent calls can be made one at a time.  Take the calls that have published rows or returned a
value or an error of the application, in the order of the line: a call that published stands at its
commit, another one at the last begin of a transaction, and one without a transaction anywhere.
Made in this order, without failures, and with what the outside answered in the turns they have
kept, they leave the same committed tables, and each of them is left as it was
(`System.serializable`).

The store checks only that rows that a transaction wrote have not changed.  That is enough because
work that writes reads nothing else, except requests, which never change.
-/

namespace Appraisal.Memory

open Workflow

/-! ## Tables that can be reached -/

/-- The tables are what sessions have made of empty ones. -/
def Tables.Reached (t : Tables) : Prop :=
  ∃ (initial : Store) (moves : List (Move Nat)), initial.committed = default ∧
    ((History.start initial).run moves).store.committed = t

theorem keyed_default : (default : Tables).Keyed := by
  intro k r h
  cases k <;> cases h

theorem keyed_run {ι : Type} [DecidableEq ι] {store : Store} (keyed : store.committed.Keyed)
    (moves : List (Move ι)) : ((History.start store).run moves).store.committed.Keyed := by
  induction moves using List.reverseRecOn with
  | nil => exact keyed
  | append_singleton moves move ih =>
    rw [History.run, List.foldl_append]
    show (History.step ((History.start store).run moves) move).store.committed.Keyed
    cases move with
    | plan faults => exact ih
    | call i call =>
      exact Store.keyed_answer ((History.ok_run store moves).tracks i).sound ih call

theorem Tables.Reached.keyed {t : Tables} (h : t.Reached) : t.Keyed := by
  obtain ⟨initial, moves, empty, rfl⟩ := h
  refine keyed_run ?_ moves
  rw [empty]
  exact keyed_default

/-! ## Settled calls made alone -/

/-- A settled call can be made on the tables where it stands, and leaves those after it. -/
theorem Settled.alone {origin σ : Store} {s : Service} {c : Call}
    {p : Action WorkflowEvent (Except WorkflowError c.Value)} {b : Progress}
    (h : Settled origin s c p b) {base left : Tables}
    (stands : b.span = none ∧ left = base ∨ b.span = some (base, left))
    (quiet : Store.Quiet origin base σ) :
    ∃ σ', Goes (c.action s).run default σ b.account.kept p b.session σ' ∧
      Store.Quiet origin left σ' := by
  cases h with
  | refused follows span =>
    rcases stands with ⟨-, rfl⟩ | stands
    · exact follows.goes quiet
    · rw [span] at stands
      cases stands
  | done _ _ span _ _ _ _ _ _ _ alone =>
    rcases stands with ⟨none, -⟩ | stands
    · rw [span] at none
      cases none
    · rw [span] at stands
      cases stands
      exact alone σ quiet

/-- A call that counts is settled. -/
theorem Tale.settled_of_counts {origin : Store} {s : Service} {c : Call} {client : Client c.Value}
    (h : Tale origin s c client.rest client.progress) (counts : client.Counts) :
    Settled origin s c client.rest client.progress := by
  cases h with
  | settled h => exact h
  | unsettled hidden uncounted =>
    rcases counts with published | ⟨r, rest, counts⟩
    · rw [hidden.unpublished] at published
      cases published
    · rw [uncounted r rest] at counts
      cases counts

namespace System

variable {ι : Type} [DecidableEq ι] {calls : ι → Call}

/-! ## Calls made one at a time -/

theorem run_append (sys : System calls) (first second : List (Happening ι)) :
    sys.run (first ++ second) = (sys.run first).run second :=
  List.foldl_append

theorem step_turn {sys : System calls} {i : ι} (w : Outside) {request : Request WorkflowEvent}
    {next : request.Answer → Action WorkflowEvent (Except WorkflowError (calls i).Value)}
    (rest : (sys.clients i).rest = .call request next) :
    sys.step (.turn i w) = sys.respond i w request next := by
  simp only [step]
  split
  · rename_i r same
    rw [rest] at same
    cases same
  · rename_i request' next' same
    rw [rest] at same
    cases same
    rfl

/-- A call that has returned takes no more turns. -/
theorem step_of_returned {sys : System calls} {i : ι} (w : Outside)
    {r : Except WorkflowError (calls i).Value} (returned : (sys.clients i).rest = pure r) :
    sys.step (.turn i w) = sys := by
  simp only [step]
  split
  · rfl
  · rename_i request next same
    rw [returned] at same
    cases same

/-- The turns of one call, taken in a row. -/
theorem run_turns {i : ι} {p p' : Action WorkflowEvent (Except WorkflowError (calls i).Value)}
    {s s' : Session} {σ σ' : Store} {turns : List Turn} (goes : Goes p s σ turns p' s' σ')
    {sys : System calls} (rest : (sys.clients i).rest = p)
    (session : (sys.clients i).progress.session = s) (store : sys.store = σ) :
    let after := sys.run (turns.map fun turn => .turn i turn.outside)
    (after.clients i).rest = p' ∧ after.store = σ' ∧
      ∀ j, j ≠ i → after.clients j = sys.clients j := by
  induction goes generalizing sys with
  | refl => exact ⟨rest, store, fun _ _ => rfl⟩
  | @turn request next s s' σ σ' turns p' w later ih =>
    subst session store
    have own : (sys.respond i w request next).clients i =
        ⟨next (w.answer sys.store (sys.clients i).progress.session request).1,
          (sys.clients i).progress.next w sys.store request⟩ := Function.update_self ..
    obtain ⟨left, stored, others⟩ :=
      @ih (sys.respond i w request next) (by rw [own]) (by rw [own]; rfl) rfl
    show _ ∧ _ ∧ _
    simp only [List.map_cons, run, List.foldl_cons, step_turn w rest]
    refine ⟨left, stored, fun j other => (others j other).trans ?_⟩
    exact Function.update_of_ne other ..

/-- The calls of a list, made one at a time where each of them stands. -/
theorem run_calls {origin : Store} {service : ι → Service} {final : System calls}
    (settled : ∀ i, (final.clients i).Counts → Settled origin (service i) (calls i)
      (final.clients i).rest (final.clients i).progress)
    {order : List ι} (nodup : order.Nodup) (counts : ∀ i ∈ order, (final.clients i).Counts)
    {a c : Tables} (linked : Linked (fun i => (final.clients i).progress.span) a order c)
    {sys : System calls} (quiet : Store.Quiet origin a sys.store)
    (fresh : ∀ i ∈ order, sys.clients i = ⟨((calls i).action (service i)).run, default⟩) :
    let after := sys.run (order.flatMap fun i =>
      (final.clients i).progress.account.kept.map fun turn => .turn i turn.outside)
    Store.Quiet origin c after.store ∧
      (∀ i ∈ order, (after.clients i).rest = (final.clients i).rest) ∧
      ∀ i ∉ order, after.clients i = sys.clients i := by
  induction order generalizing a sys with
  | nil =>
    cases linked
    exact ⟨quiet, fun i h => absurd h List.not_mem_nil, fun _ _ => rfl⟩
  | cons i order ih =>
    obtain ⟨new, nodup⟩ := List.nodup_cons.1 nodup
    obtain ⟨b, stands, linked⟩ : ∃ b, ((final.clients i).progress.span = none ∧ b = a ∨
        (final.clients i).progress.span = some (a, b)) ∧
        Linked (fun i => (final.clients i).progress.span) b order c := by
      cases linked with
      | skip none rest => exact ⟨a, .inl ⟨none, rfl⟩, rest⟩
      | link some rest => exact ⟨_, .inr some, rest⟩
    obtain ⟨σ, goes, quiet'⟩ :=
      (settled i (counts i List.mem_cons_self)).alone stands quiet
    have own := fresh i List.mem_cons_self
    obtain ⟨left, stored, others⟩ := run_turns goes (by rw [own]) (by rw [own]; rfl) rfl
    rw [← stored] at quiet'
    obtain ⟨last, rests, untouched⟩ := ih nodup (fun j hj => counts j (List.mem_cons_of_mem _ hj))
      linked quiet' fun j hj => by
        rw [others j (by rintro rfl; exact new hj)]
        exact fresh j (List.mem_cons_of_mem _ hj)
    show _ ∧ _ ∧ _
    rw [List.flatMap_cons, run_append]
    refine ⟨last, fun j hj => ?_, fun j hj => ?_⟩
    · rcases List.mem_cons.1 hj with rfl | hj
      · rw [untouched j new]
        exact left
      · exact rests j hj
    · rw [List.mem_cons, not_or] at hj
      exact (untouched j hj.2).trans (others j hj.1)

/-! ## Serial orders -/

/-- There is a serial order of finitely many calls. -/
theorem exists_serialOrder [Fintype ι] {origin : Store} {service : ι → Service}
    {sys : System calls} (ok : sys.Ok origin service) : ∃ order, sys.SerialOrder order := by
  classical
  let placed := sys.line.filter fun i => (sys.clients i).Counts
  let others := (Finset.univ.filter fun i => (sys.clients i).Counts ∧ i ∉ sys.line).toList
  refine ⟨placed ++ others, ?_, fun i => ?_, ?_⟩
  · refine List.Nodup.append (ok.nodup.filter _) (Finset.nodup_toList _) fun i hp ho => ?_
    simp only [placed, others, List.mem_filter, Finset.mem_toList, Finset.mem_filter] at hp ho
    exact ho.2.2 hp.1
  · simp only [placed, others, List.mem_append, List.mem_filter, Finset.mem_toList,
      Finset.mem_filter, Finset.mem_univ, decide_eq_true_eq, true_and]
    by_cases hi : i ∈ sys.line <;> simp [hi]
  · have placed_line : placed.filter (· ∈ sys.line) = placed :=
      List.filter_eq_self.2 fun i hi => decide_eq_true (List.mem_filter.1 hi).1
    have others_line : others.filter (· ∈ sys.line) = [] := by
      refine List.filter_eq_nil_iff.2 fun i hi => ?_
      simp only [others, Finset.mem_toList, Finset.mem_filter] at hi
      simp [hi.2.2]
    rw [List.filter_append, placed_line, others_line, List.append_nil]
    refine List.filter_congr fun i hi => ?_
    simp [placed, others, hi]

/-- Calls that run concurrently can be made one at a time, in every order that follows the line. -/
theorem serializable [Fintype ι] (service : ι → Service) (calls : ι → Call) (store : Store)
    (reached : store.committed.Reached) (happenings : List (Happening ι)) :
    let final := (start service calls store).run happenings
    (∃ order, final.SerialOrder order) ∧
      ∀ order, final.SerialOrder order →
        let serial := (start service calls store).run (final.serially order)
        serial.store.committed = final.store.committed ∧
          ∀ i ∈ order, (serial.clients i).rest = (final.clients i).rest := by
  intro final
  have ok : final.Ok store service := ok_run (ok_start service calls reached.keyed) happenings
  refine ⟨exists_serialOrder ok, fun order serialOrder => ?_⟩
  have settled : ∀ i, (final.clients i).Counts → Settled store (service i) (calls i)
      (final.clients i).rest (final.clients i).progress := fun i counts =>
    (ok.clients i).safe.tale.settled_of_counts counts
  have linked : Linked (fun i => (final.clients i).progress.span) store.committed order
      final.store.committed := by
    have follows : Linked (fun i => (final.clients i).progress.span) store.committed
        (order.filter (· ∈ final.line)) final.store.committed := by
      rw [serialOrder.line]
      refine ok.linked.filter _ fun i _ uncounted => (ok.clients i).neutral ?_
      refine Bool.eq_false_iff.2 fun published => of_decide_eq_false uncounted ?_
      exact (serialOrder.mem i).2 (.inl published)
    refine follows.of_filter fun i _ unplaced => ?_
    by_contra stands
    exact of_decide_eq_false unplaced ((ok.placed i).2 stands)
  let planned : System calls := (start service calls store).step (.plan [] [])
  have quiet : Store.Quiet store store.committed planned.store :=
    ⟨⟨rfl, rfl, rfl⟩, rfl, rfl, rfl⟩
  obtain ⟨last, rests, -⟩ := run_calls settled serialOrder.nodup
    (fun i hi => (serialOrder.mem i).1 hi) linked quiet fun i _ => rfl
  exact ⟨last.committed_eq, rests⟩

/-- Two changes to one mapping, at different steps. -/
def twoChanges (i : Bool) : Call :=
  .setStepStatus ⟨default, if i then .criteria else .primary, .approved, default, none, []⟩

/-- They are made with the usual settings and nobody hears of them. -/
def usual (_ : Bool) : Service := ⟨default, default⟩

/-- A store with the mapping. -/
def oneMapping : Store := (default : Store).insertMapping (.fresh default default default)

/-- They take turns. -/
def inTurns : List (Happening Bool) :=
  let w : Outside := ⟨default, default, .ok ()⟩
  (List.replicate 30 [.turn true w, .turn false w]).flatten

/-- The second change comes too late with its commit and is made again, after the first one. -/
theorem serializable_twoChanges :
    ∃ final serial : System twoChanges,
      final = (start usual twoChanges oneMapping).run inTurns ∧
      serial = (start usual twoChanges oneMapping).run (final.serially [true, false]) ∧
      final.store.stats.conflicts = 1 ∧ final.SerialOrder [true, false] ∧
      serial.store.committed = final.store.committed ∧
      ∀ i, (serial.clients i).rest = (final.clients i).rest := by
  have published : ∀ i,
      (((start usual twoChanges oneMapping).run inTurns).clients i).progress.published = true := by
    decide +kernel
  have order : ((start usual twoChanges oneMapping).run inTurns).SerialOrder [true, false] := by
    refine ⟨by decide, fun i => ⟨fun _ => .inl (published i), fun _ => ?_⟩, by decide +kernel⟩
    cases i <;> decide
  have all := serializable usual twoChanges oneMapping ⟨default, [], rfl, rfl⟩ inTurns
  have same := all.2 [true, false] order
  exact ⟨_, _, rfl, rfl, by decide +kernel, order, same.1,
    fun i => same.2 i (by cases i <;> decide)⟩

end System

end Appraisal.Memory
