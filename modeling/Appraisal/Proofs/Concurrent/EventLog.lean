import Mathlib.Algebra.BigOperators.Group.Finset.Basic
import Appraisal.Proofs.Concurrent.Serializable
import Appraisal.Proofs.Workflow.Effect

/-!
# The log of events

Concurrent calls hand on the events of what they did.  Put in the order of the commits
(`System.commits`), the changes of a step form an unbroken chain from its first status to its last
one, which is the one that is stored (`System.log_agrees`).  So attempts that failed have left no
event behind, and no change starts from a status that the step no longer had.
-/

namespace Appraisal.Memory

open Workflow

/-! ## Calls that have returned -/

/-- The events that a handler has heard from a call. -/
def Progress.heard (place : Nat) (b : Progress) : List WorkflowEvent :=
  (b.account.turns.map Turn.request).filterMap (hears place)

/-- The labels by which a call has counted changes of status. -/
def Progress.counted (b : Progress) : List (List (String × String)) :=
  (b.account.turns.map Turn.request).filterMap tallies

/-- The events that were heard from a call agree with what it did. -/
structure Told (place : Nat) (b : Progress) : Prop where
  /-- The changes among them are those that were counted. -/
  counted : b.counted = tallied (b.heard place)
  /-- There are none if no row was published. -/
  published : b.published = false → b.heard place = []
  /-- They say what became of the tables where the call stands. -/
  effect : ∀ base left, b.span = some (base, left) → Effect base left (b.heard place)

theorem Progress.Hidden.told {b : Progress} (hidden : b.Hidden) (neutral : b.Neutral)
    {place : Nat}
    (stands : ∀ base left, b.span = some (base, left) → base.Keyed ∧ base.Attached) :
    Told place b := by
  have heard : b.heard place = [] := filterMap_of_silent (blind_hears place) hidden.requests
  have counted : b.counted = [] := filterMap_of_silent blind_tallies hidden.requests
  refine ⟨?_, fun _ => heard, fun base left span => ?_⟩
  · rw [heard, counted]
    rfl
  · obtain rfl := neutral hidden.unpublished base left span
    obtain ⟨keyed, attached⟩ := stands base base span
    rw [heard]
    exact .refl keyed attached

/-- What the end of a call stands for, after some silent requests and a silent clean-up. -/
theorem filterMap_of_path {X : Type} {f : Request WorkflowEvent → Option X} (blind : Blind f)
    {s : Service} {c : Call} {plan : c.Plan} {outcome : Except WorkflowError c.Result}
    {quiet made : List (Request WorkflowEvent)} {cleanUp : Action WorkflowEvent Unit}
    {r : Except WorkflowError c.Value} (silent : ∀ request ∈ quiet, Silent request)
    (cleans : cleanUp.Within (fun request => Calm request ∧ Silent request) fun _ => True)
    (path : (cleanUp >>= fun _ => (c.job s plan).conclude outcome).Path made (pure r)) :
    (quiet ++ made).filterMap f = concluded f s c outcome := by
  have quiets : cleanUp.Emits f [] :=
    .of_within (cleans.mono (fun request h => blind request h.2) fun _ h => h)
  have all := (quiets.bind fun _ => emits_conclude blind s c plan outcome).of_path path
  rw [List.filterMap_append, filterMap_of_silent blind silent]
  exact all

/-- What was heard from a call that has returned agrees with what it did. -/
theorem Tale.told {origin : Store} {s : Service} {c : Call} {r : Except WorkflowError c.Value}
    {b : Progress} (h : Tale origin s c (pure r) b) (neutral : b.Neutral) {place : Nat}
    (observes : Observes s place)
    (mappings : ∀ id m, origin.findMapping id = some m → m.id = id)
    (stands : ∀ base left, b.span = some (base, left) → base.Keyed ∧ base.Attached) :
    Told place b := by
  cases h with
  | unsettled hidden => exact hidden.told neutral stands
  | settled h =>
    cases h with
    | refused follows span hidden => exact hidden.told neutral stands
    | @done _ _ plan prepared ready prepares outcome base left worked span published opened quiet
        made cleanUp turns silent cleans path =>
      obtain ⟨keyed, attached⟩ := stands base left span
      obtain ⟨effect, counts⟩ := worked.effect keyed attached mappings prepares
      have heard : b.heard place = raised c outcome := by
        rw [Progress.heard, turns, filterMap_of_path (blind_hears place) silent cleans path]
        exact concluded_hears observes c outcome
      have counted : b.counted = tallied (raised c outcome) := by
        rw [Progress.counted, turns, filterMap_of_path blind_tallies silent cleans path]
        exact counts
      rw [← heard] at effect counted
      refine ⟨counted, fun unpublished => effect.silent ?_, fun base' left' span' => ?_⟩
      · by_contra changed
        rw [published.2 changed] at unpublished
        cases unpublished
      · rw [span] at span'
        cases span'
        exact effect

/-! ## Chains of changes -/

/-- Each change starts from the status that the one before it left, and leaves another one. -/
def Unbroken : Status → List StepStatusChanged → Prop
  | _, [] => True
  | status, d :: ds => d.before = status ∧ d.before ≠ d.after ∧ Unbroken d.after ds

/-- The state of a step after some changes, the last of which decides. -/
def stateAfter (state : StepState) (changes : List StepStatusChanged) : StepState :=
  (changes.getLast?.map leftBy).getD state

theorem stateAfter_cons (state : StepState) (d : StepStatusChanged)
    (ds : List StepStatusChanged) : stateAfter state (d :: ds) = stateAfter (leftBy d) ds := by
  rw [stateAfter, stateAfter, List.getLast?_cons]
  cases ds.getLast? <;> rfl

/-- Some events tell how one state of the tables became another. -/
structure Chronicle (base left : Tables) (events : List WorkflowEvent) : Prop where
  /-- The changes of a step start from the status that it had. -/
  unbroken : ∀ id step, Unbroken (base.state id step).status (changesOf id step events)
  /-- Its state is what they leave. -/
  state : ∀ id step,
    left.state id step = stateAfter (base.state id step) (changesOf id step events)
  /-- What was stored of revisions is there. -/
  requested : ∀ {d r}, Requested base d r → Requested left d r

theorem Chronicle.refl (base : Tables) : Chronicle base base [] :=
  ⟨fun _ _ => trivial, fun _ _ => rfl, id⟩

theorem Effect.chronicle {base middle left : Tables} {events later : List WorkflowEvent}
    (effect : Effect base middle events) (rest : Chronicle middle left later) :
    Chronicle base left (events ++ later) := by
  obtain ⟨revision, revised⟩ := effect.revised
  refine ⟨fun id step => ?_, fun id step => ?_, fun h => rest.requested (h.of_revised revised)⟩
  · rw [changesOf_append]
    have unbroken := rest.unbroken id step
    rcases effect.state id step with ⟨none, same⟩ | ⟨d, one, before, changed, state⟩
    · rw [none, List.nil_append, ← same]
      exact unbroken
    · rw [state] at unbroken
      rw [one]
      exact ⟨before, changed, unbroken⟩
  · rw [changesOf_append, rest.state]
    rcases effect.state id step with ⟨none, same⟩ | ⟨d, one, before, changed, state⟩
    · rw [none, List.nil_append, same]
    · rw [one, state]
      exact (stateAfter_cons _ _ _).symm

/-- What the calls of a line tell of it. -/
theorem Linked.chronicle {ι : Type} {progress : ι → Progress} {place : ι → Nat} {a c : Tables}
    {is : List ι} (linked : Linked (fun i => (progress i).span) a is c)
    (spans : ∀ i ∈ is, (progress i).span ≠ none)
    (told : ∀ i ∈ is,
      (∀ base left, (progress i).span = some (base, left) → base.Keyed ∧ base.Attached) →
        Told (place i) (progress i))
    (keyed : a.Keyed) (attached : a.Attached) :
    Chronicle a c (is.flatMap fun i => (progress i).heard (place i)) ∧
      ∀ i ∈ is, Told (place i) (progress i) ∧
        ∀ d, .stepStatusChanged d ∈ (progress i).heard (place i) →
          d.after = .revisionRequested →
            ∃ r, (progress i).heard (place i) = [.stepStatusChanged d, .revisionRequested r] ∧
              Requested c d r := by
  induction linked with
  | nil => exact ⟨.refl _, fun i h => absurd h List.not_mem_nil⟩
  | skip none rest ih => exact absurd none (spans _ List.mem_cons_self)
  | @link a b c i is span rest ih =>
    have own : Told (place i) (progress i) := by
      refine told i List.mem_cons_self fun base left span' => ?_
      rw [span] at span'
      cases span'
      exact ⟨keyed, attached⟩
    have effect := own.effect a b span
    obtain ⟨revision, revised⟩ := effect.revised
    obtain ⟨chronicle, later⟩ := ih (fun j hj => spans j (List.mem_cons_of_mem _ hj))
      (fun j hj => told j (List.mem_cons_of_mem _ hj)) effect.keyed revised.attached
    rw [List.flatMap_cons]
    refine ⟨effect.chronicle chronicle, fun j hj => ?_⟩
    rcases List.mem_cons.1 hj with rfl | hj
    · refine ⟨own, fun d mem asks => ?_⟩
      obtain ⟨r, events, requested⟩ := effect.requested d mem asks
      exact ⟨r, events, chronicle.requested requested⟩
    · exact later j hj

namespace System

variable {ι : Type} [DecidableEq ι] {calls : ι → Call} {service : ι → Service} {origin : Store}

/-! ## Commits -/

/-- The calls that publish rows while some things happen, in the order of their commits. -/
def commits (sys : System calls) : List (Happening ι) → List ι
  | [] => []
  | .plan onBegin onCommit :: later => (sys.step (.plan onBegin onCommit)).commits later
  | .turn i w :: later =>
    let after := sys.step (.turn i w)
    (if after.store.committed = sys.store.committed then [] else [i]) ++ after.commits later

/-- The calls in the line that have published rows. -/
def published (sys : System calls) : List ι :=
  sys.line.filter fun i => (sys.clients i).progress.published

theorem Ok.published_respond {sys : System calls} (h : sys.Ok origin service) (i : ι) (w : Outside)
    {request : Request WorkflowEvent}
    {next : request.Answer → Action WorkflowEvent (Except WorkflowError (calls i).Value)}
    (rest : (sys.clients i).rest = .call request next) :
    (sys.respond i w request next).published = sys.published ++
      if (sys.respond i w request next).store.committed = sys.store.committed then [] else [i] := by
  let b := (sys.clients i).progress
  let after := sys.respond i w request next
  have ok : Client.Ok origin (service i) (calls i) sys.store.committed ⟨.call request next, b⟩ := by
    rw [← rest]
    exact h.clients i
  have others : ∀ j, j ≠ i → (after.clients j).progress.published =
      (sys.clients j).progress.published := by
    intro j other
    simp only [after, System.respond, Function.update_of_ne other]
  have own : (after.clients i).progress.published =
      (b.published || decide (after.store.committed ≠ sys.store.committed)) := by
    simp only [after, System.respond, Function.update_self]
    rfl
  show after.line.filter _ = sys.line.filter _ ++ _
  -- a call goes to the end of the line when it begins, too, but not after it has published
  by_cases moves : Moves sys.store b.session w request
  · have line : after.line = sys.line.erase i ++ [i] := if_pos moves
    have unpublished : b.published = false :=
      ok.safe.tale.unpublished (ok.admits h.like h.keyed) moves
    rw [line, List.filter_append, h.nodup.erase_eq_filter, List.filter_filter]
    refine congrArg₂ (· ++ ·) (List.filter_congr fun j _ => ?_) ?_
    · by_cases other : j = i
      · subst other
        simpa using unpublished.symm
      · rw [bne_iff_ne.2 other, Bool.and_true]
        exact others j other
    · rw [List.filter_singleton, own, unpublished]
      by_cases same : after.store.committed = sys.store.committed
      · simp [after, same]
      · simp [after, same]
  · have line : after.line = sys.line := if_neg moves
    have same : after.store.committed = sys.store.committed :=
      (Progress.span_next_of_stays moves).2
    rw [line, if_pos same, List.append_nil]
    refine List.filter_congr fun j _ => ?_
    by_cases other : j = i
    · subst other
      rw [own, same]
      simp [b]
    · exact others j other

/-- Calls that publish rows stand in the line in the order of their commits. -/
theorem Ok.published_run {sys : System calls} (h : sys.Ok origin service)
    (happenings : List (Happening ι)) :
    (sys.run happenings).published = sys.published ++ sys.commits happenings := by
  induction happenings generalizing sys with
  | nil => exact (List.append_nil _).symm
  | cons happening happenings ih =>
    have later := ih (h.step happening)
    cases happening with
    | plan onBegin onCommit => exact later
    | turn i w =>
      have first : (sys.step (.turn i w)).published = sys.published ++
          if (sys.step (.turn i w)).store.committed = sys.store.committed then [] else [i] := by
        cases rest : (sys.clients i).rest with
        | pure r =>
          rw [step_of_returned w rest, if_pos rfl, List.append_nil]
        | call request next =>
          rw [step_turn w rest]
          exact h.published_respond i w rest
      rw [first, List.append_assoc] at later
      exact later

/-! ## Calls that have all returned -/

theorem flatMap_filter_of_nil {α β : Type} {keep : α → Bool} {f : α → List β} {as : List α}
    (nil : ∀ a ∈ as, keep a = false → f a = []) :
    (as.filter keep).flatMap f = as.flatMap f := by
  induction as with
  | nil => rfl
  | cons a as ih =>
    have later := ih fun b hb => nil b (List.mem_cons_of_mem _ hb)
    cases kept : keep a with
    | true => rw [List.filter_cons_of_pos kept, List.flatMap_cons, List.flatMap_cons, later]
    | false =>
      rw [List.filter_cons_of_neg (by simp [kept]), List.flatMap_cons,
        nil a List.mem_cons_self kept, later, List.nil_append]

omit [DecidableEq ι] in
/-- A call that has published stands in the line. -/
theorem Ok.mem_line {sys : System calls} (h : sys.Ok origin service) {i : ι}
    {r : Except WorkflowError (calls i).Value} (rest : (sys.clients i).rest = pure r)
    (published : (sys.clients i).progress.published = true) : i ∈ sys.line := by
  rw [h.placed]
  intro none
  have tale := (h.clients i).safe.tale
  rw [rest] at tale
  cases tale with
  | unsettled hidden =>
    rw [hidden.unpublished] at published
    cases published
  | settled settled =>
    cases settled with
    | refused follows span hidden =>
      rw [hidden.unpublished] at published
      cases published
    | done prepares worked span =>
      rw [none] at span
      cases span

/-- What was heard of calls that have all returned, in the order of their commits. -/
theorem Ok.chronicle {sys : System calls} (h : sys.Ok origin service)
    (mappings : ∀ id m, origin.findMapping id = some m → m.id = id)
    (keyed : origin.committed.Keyed) (attached : origin.committed.Attached) {place : ι → Nat}
    (observed : ∀ i, Observes (service i) (place i))
    (returned : ∀ i, ∃ r, (sys.clients i).rest = pure r) :
    Chronicle origin.committed sys.store.committed
        (sys.published.flatMap fun i => (sys.clients i).progress.heard (place i)) ∧
      ∀ i, Told (place i) (sys.clients i).progress ∧
        ∀ d, .stepStatusChanged d ∈ (sys.clients i).progress.heard (place i) →
          d.after = .revisionRequested →
            ∃ r, (sys.clients i).progress.heard (place i) =
                [.stepStatusChanged d, .revisionRequested r] ∧
              Requested sys.store.committed d r := by
  have told : ∀ i, (∀ base left, (sys.clients i).progress.span = some (base, left) →
      base.Keyed ∧ base.Attached) → Told (place i) (sys.clients i).progress := by
    intro i stands
    obtain ⟨r, rest⟩ := returned i
    have tale := (h.clients i).safe.tale
    rw [rest] at tale
    exact tale.told (h.clients i).neutral (observed i) mappings stands
  obtain ⟨chronicle, line⟩ := Linked.chronicle h.linked (fun i hi => (h.placed i).1 hi)
    (fun i _ => told i) keyed attached
  have same : (sys.published.flatMap fun i => (sys.clients i).progress.heard (place i)) =
      sys.line.flatMap fun i => (sys.clients i).progress.heard (place i) :=
    flatMap_filter_of_nil fun i hi unpublished => (line i hi).1.published unpublished
  rw [same]
  refine ⟨chronicle, fun i => ?_⟩
  by_cases placed : i ∈ sys.line
  · exact line i placed
  · have none : (sys.clients i).progress.span = none := by
      by_contra stands
      exact placed ((h.placed i).2 stands)
    have unpublished : (sys.clients i).progress.published = false := by
      obtain ⟨r, rest⟩ := returned i
      exact Bool.eq_false_iff.2 fun published => placed (h.mem_line rest published)
    have own : Told (place i) (sys.clients i).progress := by
      refine told i fun base left span => ?_
      rw [none] at span
      cases span
    refine ⟨own, fun d mem => ?_⟩
    rw [own.published unpublished] at mem
    cases mem

/-! ## The log -/

/-- A change of a step to a status. -/
def isChange (step : Step) (status : Status) : WorkflowEvent → Bool
  | .stepStatusChanged d => d.step = step && d.after = status
  | _ => false

theorem changeLabels_inj {step step' : Step} {status status' : Status} :
    changeLabels step status = changeLabels step' status' ↔ step = step' ∧ status = status' := by
  constructor
  · intro same
    simp only [changeLabels, List.cons.injEq, Prod.mk.injEq, true_and, and_true] at same
    exact ⟨Literal.text_inj same.1, Literal.text_inj same.2⟩
  · rintro ⟨rfl, rfl⟩
    rfl

theorem count_tallied (events : List WorkflowEvent) (step : Step) (status : Status) :
    (tallied events).count (changeLabels step status) = events.countP (isChange step status) := by
  induction events with
  | nil => rfl
  | cons event events ih =>
    cases event with
    | stepStatusChanged d =>
      show (changeLabels d.step d.after :: tallied events).count _ = _
      rw [List.count_cons, List.countP_cons, ih]
      simp [isChange, changeLabels_inj]
    | _ => exact ih

/-- The events that were heard from some calls, one call after the other. -/
def log (sys : System calls) (place : ι → Nat) (order : List ι) : List WorkflowEvent :=
  order.flatMap fun i => (sys.clients i).progress.heard (place i)

/-- How often all calls have counted a change of a step to a status. -/
def changeCount [Fintype ι] (sys : System calls) (step : Step) (status : Status) : Nat :=
  ∑ i, (sys.clients i).progress.counted.count (changeLabels step status)

/-- The log of some calls agrees with what is stored. -/
structure LogAgrees [Fintype ι] (sys : System calls) (place : ι → Nat) (order : List ι) : Prop where
  /-- Calls of which something was heard are in the log, and none is there twice. -/
  complete : order.Nodup ∧ ∀ i, (sys.clients i).progress.heard (place i) ≠ [] → i ∈ order
  /-- The changes of a step lead from one status to the next. -/
  unbroken : ∀ id step, Unbroken .pending (changesOf id step (sys.log place order))
  /-- The last one is stored. -/
  state : ∀ id step,
    sys.store.committed.state id step = stateAfter default (changesOf id step (sys.log place order))
  /-- They are counted. -/
  counted : ∀ step status,
    sys.changeCount step status = (sys.log place order).countP (isChange step status)
  /-- A revision that is asked for is stored, and its event follows at once. -/
  requested : ∀ i d, .stepStatusChanged d ∈ (sys.clients i).progress.heard (place i) →
    d.after = .revisionRequested →
      ∃ r, (sys.clients i).progress.heard (place i) =
          [.stepStatusChanged d, .revisionRequested r] ∧ Requested sys.store.committed d r

/-- What is counted call by call is what is counted in the log. -/
theorem sum_countP_heard [Fintype ι] {sys : System calls} {place : ι → Nat} {order : List ι}
    (nodup : order.Nodup)
    (complete : ∀ i, (sys.clients i).progress.heard (place i) ≠ [] → i ∈ order)
    (p : WorkflowEvent → Bool) :
    ∑ i, ((sys.clients i).progress.heard (place i)).countP p = (sys.log place order).countP p := by
  calc ∑ i, ((sys.clients i).progress.heard (place i)).countP p
      = ∑ i ∈ order.toFinset, ((sys.clients i).progress.heard (place i)).countP p := by
        refine (Finset.sum_subset (Finset.subset_univ _) fun i _ absent => ?_).symm
        have unheard : (sys.clients i).progress.heard (place i) = [] := by
          by_contra heard
          exact absent (List.mem_toFinset.2 (complete i heard))
        rw [unheard]
        rfl
    _ = (sys.log place order).countP p := by
        rw [List.sum_toFinset _ nodup, log, List.countP_flatMap]
        rfl

theorem changeCount_eq [Fintype ι] {sys : System calls} {place : ι → Nat} {order : List ι}
    (told : ∀ i, Told (place i) (sys.clients i).progress) (nodup : order.Nodup)
    (complete : ∀ i, (sys.clients i).progress.heard (place i) ≠ [] → i ∈ order)
    (step : Step) (status : Status) :
    sys.changeCount step status = (sys.log place order).countP (isChange step status) := by
  rw [← sum_countP_heard nodup complete]
  refine Finset.sum_congr rfl fun i _ => ?_
  rw [(told i).counted, count_tallied]

/-! ## Stores with mappings -/

/-- A store that holds some mappings and no row, and that fails as planned. -/
def holding (mappings : List EvaluationMapping) (faults : Faults) : Store :=
  mappings.foldl Store.insertMapping { (default : Store) with faults }

theorem committed_holding (mappings : List EvaluationMapping) (faults : Faults) :
    (holding mappings faults).committed = default := by
  have all : ∀ store : Store,
      (mappings.foldl Store.insertMapping store).committed = store.committed := by
    induction mappings with
    | nil => exact fun _ => rfl
    | cons m ms ih => exact fun store => ih _
  exact all _

/-- Mappings stand under their own identifiers when one more is registered. -/
theorem id_of_insertMapping {store : Store}
    (h : ∀ id m, store.findMapping id = some m → m.id = id) (mapping : EvaluationMapping)
    (id : MappingId) (m : EvaluationMapping)
    (found : (store.insertMapping mapping).findMapping id = some m) : m.id = id := by
  rw [Store.findMapping, Store.insertMapping, Table.get?_insert] at found
  split at found
  · rename_i same
    cases found
    exact Ranked.rank_inj same
  · exact h id m found

theorem id_of_findMapping (mappings : List EvaluationMapping) (faults : Faults) :
    ∀ id m, (holding mappings faults).findMapping id = some m → m.id = id := by
  have all : ∀ store : Store, (∀ id m, store.findMapping id = some m → m.id = id) →
      ∀ id m, (mappings.foldl Store.insertMapping store).findMapping id = some m → m.id = id := by
    induction mappings with
    | nil => exact fun _ h => h
    | cons first mappings ih => exact fun store h => ih _ (id_of_insertMapping h first)
  exact all _ fun id m none => by cases none

/-! ## Agreement -/

/-- The calls that have published, in the order of the line, are a log that agrees. -/
theorem Ok.logAgrees [Fintype ι] {sys : System calls} (h : sys.Ok origin service)
    (mappings : ∀ id m, origin.findMapping id = some m → m.id = id)
    (empty : origin.committed = default) {place : ι → Nat}
    (observed : ∀ i, Observes (service i) (place i))
    (returned : ∀ i, ∃ r, (sys.clients i).rest = pure r) :
    sys.LogAgrees place sys.published := by
  obtain ⟨chronicle, calls⟩ := h.chronicle mappings (by rw [empty]; exact keyed_default)
    (by rw [empty]; exact attached_default) observed returned
  rw [empty] at chronicle
  have nodup : sys.published.Nodup := h.nodup.filter _
  have complete : ∀ i, (sys.clients i).progress.heard (place i) ≠ [] → i ∈ sys.published := by
    intro i heard
    have published : (sys.clients i).progress.published = true := by
      by_contra unpublished
      exact heard ((calls i).1.published (Bool.eq_false_iff.2 unpublished))
    obtain ⟨r, rest⟩ := returned i
    exact List.mem_filter.2 ⟨h.mem_line rest published, published⟩
  exact
    { complete := ⟨nodup, complete⟩
      unbroken := fun id step => chronicle.unbroken id step
      state := fun id step => chronicle.state id step
      counted := changeCount_eq (fun i => (calls i).1) nodup complete
      requested := fun i => (calls i).2 }

/-- Whatever calls run on a store that held only mappings, and however they interfere: once all have
returned, their events, in the order of the commits, agree with what is stored. -/
theorem log_agrees [Fintype ι] (service : ι → Service) (calls : ι → Call) (place : ι → Nat)
    (observed : ∀ i, Observes (service i) (place i)) (mappings : List EvaluationMapping)
    (faults : Faults) (happenings : List (Happening ι))
    (returned : ∀ i, ∃ r,
      (((start service calls (holding mappings faults)).run happenings).clients i).rest = pure r) :
    ((start service calls (holding mappings faults)).run happenings).LogAgrees place
      ((start service calls (holding mappings faults)).commits happenings) := by
  have empty := committed_holding mappings faults
  have began : (start service calls (holding mappings faults)).Ok (holding mappings faults)
      service := ok_start service calls (by rw [empty]; exact keyed_default)
  have order := began.published_run happenings
  have agrees := (ok_run began happenings).logAgrees (id_of_findMapping mappings faults) empty
    observed returned
  rw [order] at agrees
  exact agrees

/-- Two changes to one step.  One asks for a revision and the other approves. -/
def askAndApprove (i : Bool) : Call :=
  .setStepStatus ⟨default, .criteria, if i then .approved else .revisionRequested, default,
    if i then none else some "Please add one more criterion.", []⟩

/-- Somebody hears of them. -/
def audited (_ : Bool) : Service := ⟨default, ⟨[⟨"audit", none⟩]⟩⟩

/-- The request for a revision comes too late with its commit, and when it is made again it finds
the step approved. -/
theorem log_agrees_askAndApprove :
    ∃ final : System askAndApprove,
      final = (start audited askAndApprove (holding [.fresh default default default] default)).run
        (inTurns ++ inTurns) ∧
      final.LogAgrees (fun _ => 0) [true, false] ∧ final.store.stats.conflicts = 1 ∧
      (changesOf default .criteria (final.log (fun _ => 0) [true, false])).map
          (fun d => (d.before, d.after)) =
        [(.pending, .approved), (.approved, .revisionRequested)] := by
  have returned : ∀ i, (((start audited askAndApprove
      (holding [.fresh default default default] default)).run
        (inTurns ++ inTurns)).clients i).rest.value?.isSome := by
    decide +kernel
  have order : (start audited askAndApprove
      (holding [.fresh default default default] default)).commits (inTurns ++ inTurns) =
        [true, false] := by
    decide +kernel
  have agrees := log_agrees audited askAndApprove (fun _ => 0) (fun _ => ⟨_, rfl, rfl⟩)
    [.fresh default default default] default (inTurns ++ inTurns)
    fun i => Program.eq_pure_of_isSome (returned i)
  rw [order] at agrees
  exact ⟨_, rfl, agrees, by decide +kernel, by decide +kernel⟩

end System

end Appraisal.Memory
