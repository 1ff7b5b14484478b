import Appraisal.Proofs.Concurrent.EventLog
import Appraisal.Proofs.Concurrent.Footing
import Appraisal.Proofs.Workflow.Consistent

/-!
# What always holds of the committed tables

Any number of calls run on a store that starts empty.  Meanwhile mappings may be registered and
failures of any kind may be planned and called off.  As long as the clock does not go back, the
committed tables are consistent at any time (`System.consistent_always`), and they only grow
(`System.extends_always`).

`System.Lawful` is the invariant.  Every open transaction has a snapshot that was consistent, held
no later time than its begin, and has grown into the committed tables.  A commit publishes the rows
of a deed (`keeps_call`), and only if these rows are as the snapshot has them.
-/

namespace Appraisal.Memory

open Workflow

/-! ## Incidents -/

/-- What may happen to calls and to the store that they run on. -/
inductive Incident (ι : Type)
  | turn (i : ι) (w : Outside)
  | plan (faults : Faults)
  | register (mapping : EvaluationMapping)

/-- What the clock shows. -/
def Incident.now? {ι : Type} : Incident ι → Option Instant
  | .turn _ w => some w.now
  | .plan _ | .register _ => none

/-- The times that the clock shows while some things happen. -/
def clock {ι : Type} (incidents : List (Incident ι)) : List Instant :=
  incidents.filterMap Incident.now?

/-- The clock does not go back. -/
def Forward {ι : Type} (incidents : List (Incident ι)) : Prop :=
  (clock incidents).Pairwise (· ≤ ·)

instance {ι : Type} (incidents : List (Incident ι)) : Decidable (Forward incidents) :=
  inferInstanceAs (Decidable ((clock incidents).Pairwise (· ≤ ·)))

namespace System

variable {ι : Type} [DecidableEq ι] {calls : ι → Call}

/-- The system after something happened. -/
def undergo (sys : System calls) : Incident ι → System calls
  | .turn i w => sys.step (.turn i w)
  | .plan faults => { sys with store.faults := faults }
  | .register mapping => { sys with store := sys.store.insertMapping mapping }

/-- The system after some things happened. -/
def undergoes (sys : System calls) (incidents : List (Incident ι)) : System calls :=
  incidents.foldl undergo sys

end System

/-! ## Snapshots -/

/-- The snapshot of a transaction that is open, seen from the committed tables. -/
structure Snapshot (base committed : Tables) (begun now : Instant) : Prop where
  consistent : base.Consistent
  /-- It holds no time later than the begin of the transaction. -/
  dated : base.Dated begun
  before : begun ≤ now
  evolves : base.Evolves committed
  grows : base.Extends committed

theorem Snapshot.later {base committed committed' : Tables} {begun now now' : Instant}
    (h : Snapshot base committed begun now) (evolves : committed.Evolves committed')
    (grows : committed.Extends committed') (le : now ≤ now') :
    Snapshot base committed' begun now' :=
  ⟨h.consistent, h.dated, h.before.trans le, h.evolves.trans evolves, h.grows.trans grows⟩

/-- A call works on a copy of its snapshot. -/
structure Footing.Grounded (f : Footing) (committed : Tables) (now : Instant) : Prop where
  sound : f.session.Sound f.base
  snapshot : f.session.working.isSome → Snapshot f.base committed f.begun now

/-- What an answer makes of the committed tables. -/
structure Advances (committed committed' : Tables) (now : Instant) : Prop where
  evolves : committed.Evolves committed'
  grows : committed.Extends committed'
  consistent : committed'.Consistent
  dated : committed'.Dated now

theorem Advances.refl {committed : Tables} {now : Instant} (consistent : committed.Consistent)
    (dated : committed.Dated now) : Advances committed committed now :=
  ⟨.refl _, .refl _, consistent, dated⟩

section

variable {f : Footing} {store : Store} {since now : Instant}

/-- A commit of a deed lets the committed tables advance. -/
theorem Snapshot.advances {base committed : Tables} {begun : Instant} {rows : List Row}
    (snapshot : Snapshot base committed begun since) (timely : Timely base begun since rows)
    (copied : ((Transaction.start base).putAll rows).Over base)
    (can : ((Transaction.start base).putAll rows).canCommit committed = true)
    (consistent : committed.Consistent) (dated : committed.Dated now) (le : since ≤ now) :
    Advances committed
      (committed.publish ((Transaction.start base).putAll rows).tables
        ((Transaction.start base).putAll rows).writes) now := by
  have keyed := snapshot.consistent.keyed
  have attached := snapshot.consistent.attached
  have merged := merged_of_canCommit copied snapshot.evolves can
  have grows := merged.grows (timely.attached keyed attached)
    (timely.grows keyed attached snapshot.consistent.marked snapshot.dated)
  refine ⟨copied.evolves_publish snapshot.evolves can, grows, ?_, ?_⟩
  · exact merged.consistent consistent (timely.consistent snapshot.consistent snapshot.dated)
      grows snapshot.grows
  · exact merged.dated dated ((timely.dated keyed snapshot.dated snapshot.before).mono le)
      (le_refl now)

theorem Footing.Grounded.advances (h : f.Grounded store.committed since)
    {request : Request WorkflowEvent} (ready : f.Ready since request)
    (consistent : store.committed.Consistent) (dated : store.committed.Dated now)
    (le : since ≤ now) (w : Outside) :
    Advances store.committed (w.answer store f.session request).2.1.committed now := by
  have stays : (w.answer store f.session request).2.1.committed = store.committed →
      Advances store.committed (w.answer store f.session request).2.1.committed now := by
    intro same
    rw [same]
    exact .refl consistent dated
  cases request with
  | session call =>
    rcases store.committed_answer_cases f.session call with
      same | ⟨rfl, t, working, writable, can, after⟩
    · exact stays same
    · obtain ⟨rows, rfl, timely⟩ := ready writable t working
      have copied := h.sound.working _ working
      have snapshot := h.snapshot (by rw [working]; rfl)
      show Advances store.committed (store.answer f.session .commit).2.1.committed now
      rw [after]
      exact snapshot.advances timely copied can consistent dated le
  | _ => exact stays rfl

theorem Footing.session_next (f : Footing) (w : Outside) (store : Store)
    (request : Request WorkflowEvent) :
    (f.next w store request).session = (w.answer store f.session request).2.2 := by
  rw [Footing.next]
  split <;> rfl

theorem Footing.Grounded.next (h : f.Grounded store.committed since) (w : Outside)
    (request : Request WorkflowEvent) (le : since ≤ w.now)
    (dated : store.committed.Dated w.now) (consistent : store.committed.Consistent)
    (advances : Advances store.committed (w.answer store f.session request).2.1.committed w.now) :
    (f.next w store request).Grounded (w.answer store f.session request).2.1.committed w.now := by
  have base : (f.next w store request).base =
      if Session.begins f.session (w.answer store f.session request).2.2 then store.committed
      else f.base := by
    rw [Footing.next]
    split <;> rfl
  constructor
  · rw [Footing.session_next, base]
    cases request with
    | session call => exact h.sound.step (store.step_answer f.session call)
    | openSession => exact Session.sound_default _
    | _ => simpa [Outside.answer] using h.sound
  · intro opened
    rw [Footing.session_next] at opened
    by_cases begins : Session.begins f.session (w.answer store f.session request).2.2 = true
    · rw [Footing.next, if_pos begins]
      exact ⟨consistent, dated, le_refl _, advances.evolves, advances.grows⟩
    · rw [Footing.next, if_neg begins]
      refine (h.snapshot ?_).later advances.evolves advances.grows le
      cases working : f.session.working with
      | some t => rfl
      | none =>
        rw [Session.begins, working, opened] at begins
        exact absurd rfl begins

end

/-! ## The invariant -/

/-- A call stands on a snapshot and will commit only deeds, as of its last turn. -/
def Client.Lawful {V : Type} (client : Client V) (committed : Tables) (now : Instant) : Prop :=
  ∃ (f : Footing) (since : Instant), f.session = client.progress.session ∧ since ≤ now ∧
    f.Grounded committed since ∧ KeepsOn client.rest f since

theorem Client.Lawful.later {V : Type} {client : Client V} {committed committed' : Tables}
    {now now' : Instant} (h : client.Lawful committed now) (evolves : committed.Evolves committed')
    (grows : committed.Extends committed') (le : now ≤ now') : client.Lawful committed' now' := by
  obtain ⟨f, since, session, before, grounded, keeps⟩ := h
  refine ⟨f, since, session, before.trans le, ⟨grounded.sound, fun opened => ?_⟩, keeps⟩
  exact (grounded.snapshot opened).later evolves grows (le_refl _)

namespace System

variable {ι : Type} [DecidableEq ι] {calls : ι → Call} {sys : System calls} {now : Instant}

/-- The invariant of concurrent calls under a clock that does not go back. -/
structure Lawful (sys : System calls) (now : Instant) : Prop where
  consistent : sys.store.committed.Consistent
  dated : sys.store.committed.Dated now
  mappings : ∀ id m, sys.store.findMapping id = some m → m.id = id
  clients : ∀ i, (sys.clients i).Lawful sys.store.committed now

omit [DecidableEq ι] in
theorem lawful_start (service : ι → Service) (calls : ι → Call) (now : Instant) :
    (start service calls default).Lawful now where
  consistent := consistent_default
  dated := fun k r found => by cases k <;> cases found
  mappings := fun id m none => by cases none
  clients i := ⟨⟨default, default, now⟩, now, rfl, le_refl now,
    ⟨Session.sound_default _, nofun⟩, keeps_call (service i) (calls i) _ now⟩

theorem Lawful.turn (h : sys.Lawful now) (i : ι) (w : Outside) (le : now ≤ w.now) :
    (sys.step (.turn i w)).Lawful w.now ∧
      sys.store.committed.Extends (sys.step (.turn i w)).store.committed := by
  cases rest : (sys.clients i).rest with
  | pure r =>
    rw [step_of_returned w rest]
    exact ⟨⟨h.consistent, h.dated.mono le, h.mappings, fun j =>
      (h.clients j).later (.refl _) (.refl _) le⟩, .refl _⟩
  | call request next =>
    obtain ⟨f, since, session, before, grounded, keeps⟩ := h.clients i
    rw [rest] at keeps
    rw [step_turn w rest]
    let answered := w.answer sys.store (sys.clients i).progress.session request
    have finds : Finds f sys.store := ⟨grounded.sound, h.mappings⟩
    have le' := before.trans le
    have advances := grounded.advances keeps.1 h.consistent (h.dated.mono le) le' w
    have grounded' := grounded.next w request le' (h.dated.mono le) h.consistent advances
    have keeps' := keeps.2 w sys.store le' finds
    rw [session] at advances grounded' keeps'
    refine ⟨⟨advances.consistent, advances.dated, fun id m found => ?_, fun j => ?_⟩,
      advances.grows⟩
    · have same := (w.like_answer sys.store (sys.clients i).progress.session request).mappings
      rw [Store.findMapping] at found
      exact h.mappings id m (by rw [Store.findMapping, ← same]; exact found)
    · by_cases other : j = i
      · subst other
        refine ⟨f.next w sys.store request, w.now, ?_, le_refl _, grounded', ?_⟩
        · simp only [respond, Function.update_self]
          rw [Footing.session_next, session]
          rfl
        · simp only [respond, Function.update_self]
          exact keeps'
      · have same : (sys.respond i w request next).clients j = sys.clients j := by
          simp only [respond, Function.update_of_ne other]
        rw [same]
        exact (h.clients j).later advances.evolves advances.grows le

/-- The invariant holds whatever happens, and the committed tables grow. -/
theorem Lawful.undergoes (h : sys.Lawful now) (incidents : List (Incident ι))
    (forward : (now :: clock incidents).Pairwise (· ≤ ·)) :
    (∃ later ∈ now :: clock incidents, (sys.undergoes incidents).Lawful later) ∧
      sys.store.committed.Extends (sys.undergoes incidents).store.committed := by
  induction incidents generalizing sys now with
  | nil => exact ⟨⟨now, List.mem_cons_self, h⟩, .refl _⟩
  | cons incident incidents ih =>
    cases incident with
    | turn i w =>
      have forward' : (now :: w.now :: clock incidents).Pairwise (· ≤ ·) := forward
      obtain ⟨after, later⟩ := List.pairwise_cons.1 forward'
      obtain ⟨lawful, grows⟩ := h.turn i w (after _ List.mem_cons_self)
      obtain ⟨⟨time, mem, last⟩, grown⟩ := ih lawful later
      exact ⟨⟨time, List.mem_cons_of_mem _ mem, last⟩, grows.trans grown⟩
    | plan faults => exact ih ⟨h.consistent, h.dated, h.mappings, h.clients⟩ forward
    | register mapping =>
      exact ih ⟨h.consistent, h.dated, id_of_insertMapping h.mappings mapping, h.clients⟩ forward

/-! ## What always holds -/

/-- The clock has shown a first time, at the start or later. -/
theorem exists_first {times : List Instant} (forward : times.Pairwise (· ≤ ·)) :
    ∃ now, (now :: times).Pairwise (· ≤ ·) := by
  cases times with
  | nil => exact ⟨default, List.pairwise_singleton _ _⟩
  | cons first times =>
    refine ⟨first, List.pairwise_cons.2 ⟨fun time mem => ?_, forward⟩⟩
    rcases List.mem_cons.1 mem with rfl | mem
    · exact le_refl _
    · exact (List.pairwise_cons.1 forward).1 time mem

/-- Whatever calls run on an empty store, whatever else happens, and however they interfere: as long
as the clock does not go back, the committed tables are consistent. -/
theorem consistent_always (service : ι → Service) (calls : ι → Call)
    (incidents : List (Incident ι)) (forward : Forward incidents) :
    ((start service calls default).undergoes incidents).store.committed.Consistent := by
  obtain ⟨now, forward⟩ := exists_first forward
  obtain ⟨⟨later, -, lawful⟩, -⟩ := (lawful_start service calls now).undergoes incidents forward
  exact lawful.consistent

/-- Somebody is asked to revise a step, and completes the revision. -/
def askThenComplete (i : Bool) : Call :=
  if i then .submitCompletion (Id.random default) default "I have revised the criteria."
  else .setStepStatus ⟨default, .criteria, .revisionRequested, default,
    some "Please revise the criteria.", []⟩

/-- A call takes some turns, one each second. -/
def eachSecond (i : Bool) (from_ turns : Nat) : List (Incident Bool) :=
  (List.range' from_ turns).map fun second =>
    .turn i ⟨{ Instant.epoch with seconds := second }, default, .ok ()⟩

/-- A mapping is registered, and a revision asked for. -/
def asking : List (Incident Bool) :=
  .register (.fresh default default default) :: eachSecond false 0 30

/-- The first commit fails, and so does every release. -/
def completing : List (Incident Bool) :=
  .plan ⟨[], [concurrentUpdate], false, true⟩ :: eachSecond true 30 60

theorem consistent_always_askThenComplete :
    ∃ final : System askThenComplete,
      final = (start audited askThenComplete default).undergoes (asking ++ completing) ∧
      final.store.committed.Consistent ∧ final.store.committed.completed = 1 ∧
      (final.store.committed.state default .criteria).status = .revisionRequested :=
  ⟨_, rfl, consistent_always audited askThenComplete (asking ++ completing) (by decide +kernel),
    by decide +kernel, by decide +kernel⟩

/-- As long as the clock does not go back, what was committed once is there for good. -/
theorem extends_always (service : ι → Service) (calls : ι → Call)
    (first second : List (Incident ι)) (forward : Forward (first ++ second)) :
    ((start service calls default).undergoes first).store.committed.Extends
      ((start service calls default).undergoes (first ++ second)).store.committed := by
  have split : clock (first ++ second) = clock first ++ clock second := List.filterMap_append
  rw [Forward, split] at forward
  obtain ⟨now, forward⟩ := exists_first forward
  rw [← List.cons_append, List.pairwise_append] at forward
  obtain ⟨before, after, between⟩ := forward
  obtain ⟨⟨middle, mem, lawful⟩, -⟩ := (lawful_start service calls now).undergoes first before
  have run : (start service calls default).undergoes (first ++ second) =
      ((start service calls default).undergoes first).undergoes second := List.foldl_append
  rw [run]
  exact (lawful.undergoes second
    (List.pairwise_cons.2 ⟨fun time later => between middle mem time later, after⟩)).2

theorem extends_always_askThenComplete :
    ∃ middle final : System askThenComplete,
      middle = (start audited askThenComplete default).undergoes asking ∧
      final = (start audited askThenComplete default).undergoes (asking ++ completing) ∧
      middle.store.committed.Extends final.store.committed ∧
      middle.store.committed.completed = 0 ∧ final.store.committed.completed = 1 :=
  ⟨_, _, rfl, rfl, extends_always audited askThenComplete asking completing (by decide +kernel),
    by decide +kernel, by decide +kernel⟩

end System

end Appraisal.Memory
