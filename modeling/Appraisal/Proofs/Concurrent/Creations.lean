import Mathlib.Algebra.GroupWithZero.Nat
import Appraisal.Proofs.Concurrent.EventLog
import Appraisal.Proofs.Workflow.Receipts

/-!
# Counting new requests

A request is stored by a call that creates one, and by a change of status that asks for a revision.
The first is counted among the new requests and the second among the changes, each once its
transaction has committed and not before (`Worked.requestCount`).

So the requests that are stored for a step are those that were counted in one way or the other,
whatever the calls did to each other (`System.requestCount_eq`).  The counter of new requests falls
short by those that came with a change (`System.uncounted_request`).
-/

namespace Appraisal.Memory

open Workflow

/-! ## Requests that are stored -/

/-- How many requests are stored for a step. -/
def Tables.requestCount (t : Tables) (step : Step) : Nat :=
  t.requests.values.countP fun request => request.step = step

theorem Tables.requests_putAll_createdRows (t : Tables) (request : RevisionRequest)
    (recipients : List Recipient) :
    (t.putAll (createdRows request recipients)).requests =
      t.requests.insert request.id request := by
  have all : ∀ (rs : List Recipient) (u : Tables),
      (u.putAll ((freshRows request.id rs).map .recipient)).requests = u.requests := by
    intro rs
    induction rs with
    | nil => exact fun _ => rfl
    | cons r rs ih => exact fun u => ih _
  exact all _ (t.put (.request request))

/-- A revision adds its request. -/
theorem Tables.requestCount_revisionRows {t : Tables} {revision : Option PreparedRevision}
    (new : ∀ p, revision = some p → t.row (.request p.request.id) = none) (step : Step) :
    (t.putAll (revisionRows revision)).requestCount step =
      t.requestCount step + if revision.any (·.request.step = step) then 1 else 0 := by
  cases revision with
  | none => rfl
  | some p =>
    have absent : t.requests.get? p.request.id = none := by
      have none_ := new p rfl
      rw [Tables.row] at none_
      exact Option.map_eq_none_iff.1 none_
    have count := Table.countP_values_insert (fun request : RevisionRequest => request.step = step)
      t.requests p.request.id p.request
    rw [absent] at count
    rw [requestCount, revisionRows, requests_putAll_createdRows]
    simpa [requestCount] using count

/-! ## Requests that are counted -/

theorem creationLabels_inj {step step' : Step} :
    creationLabels step = creationLabels step' ↔ step = step' := by
  constructor
  · intro same
    simp only [creationLabels, List.cons.injEq, Prod.mk.injEq, true_and, and_true] at same
    exact Literal.text_inj same
  · rintro rfl
    rfl

/-- The labels by which a call has counted new requests. -/
def Progress.creations (b : Progress) : List (List (String × String)) :=
  (b.account.turns.map Turn.request).filterMap creates

/-- How many requests for a step are among some that were counted as new, and among some changes. -/
def requestsAmong (step : Step) (creations changes : List (List (String × String))) : Nat :=
  creations.count (creationLabels step) + changes.count (changeLabels step .revisionRequested)

section

variable {origin : Store} {s : Service} {base left : Tables}

/-- Reading and completing a request adds none. -/
theorem Updated.requestCount {requestId : RevisionRequestId} {recipientId : EmployeeId}
    {update : RowUpdate} {v : WithEvents RecipientRow} {u : Session} {turns : List Turn}
    (h : Updated (.start base) requestId recipientId (.opened base) update v u turns)
    (step : Step) : (u.leaves base).requestCount step = base.requestCount step := by
  cases h with
  | same => rfl
  | @stored update turns now shown request requested row found new read =>
    rw [Tables.requestCount, Tables.requests_eq_of_row (row_leaves_plus base _)]
    rfl

/-- A call counts the request that it adds. -/
theorem Worked.requestCount {c : Call} {plan : c.Plan} {prepared : List Turn} {ready : Session}
    (prepares : Follows origin c.prepare.run default prepared (pure (.ok plan)) ready)
    {outcome : Except WorkflowError c.Result}
    (worked : Worked origin (c.job s plan) base outcome left) (step : Step) :
    left.requestCount step = base.requestCount step +
      requestsAmong step (concluded creates s c outcome) (concluded tallies s c outcome) := by
  have opened : (Session.opened base).working = some (.start base) := rfl
  cases worked with
  | failed => cases c <;> rfl
  | read readOnly =>
    cases c with
    | listForRecipient | countUnread | getRequest | getRecord => rfl
    | _ => cases readOnly
  | @wrote turns u b writes follows =>
    cases c with
    | setStepStatus change =>
      obtain ⟨now, changed⟩ := Follows.applyChange opened follows
      cases changed with
      | same =>
        simp [concluded, handed_tallies, handed_creates, requestsAmong]
        rfl
      | moved turns shown status new read =>
        obtain ⟨mapping, -, asks, about⟩ := Follows.prepareChange_cases prepares
        have added :=
          (base.put (.approval (changedRecord base change now))).requestCount_revisionRows new step
        have one : (if plan.any (·.request.step = step) then 1 else 0) =
            [changeLabels change.step change.status].count
              (changeLabels step .revisionRequested) := by
          rw [List.count_singleton]
          refine if_congr ?_ rfl rfl
          rw [beq_iff_eq, System.changeLabels_inj]
          cases plan with
          | none => simpa using fun _ => asks.symm
          | some p => simp [about p rfl, asks.1 rfl]
        rw [Tables.requestCount, Tables.requests_eq_of_row (row_leaves_plus base _)]
        refine added.trans ?_
        rw [one]
        simp [concluded, handed_tallies, handed_creates, requestsAmong, creates, tallies]
        rfl
    | createRequest new =>
      obtain ⟨rfl, rfl, absent, -⟩ := Follows.createRecorded opened follows
      have about := Follows.prepareRequest_step prepares
      have new : ∀ p : PreparedRevision, some ⟨plan.request, plan.recipients⟩ = some p →
          base.row (.request p.request.id) = none := by
        rintro _ ⟨⟩
        exact absent
      have added := base.requestCount_revisionRows new step
      rw [Tables.requestCount, Tables.requests_eq_of_row (row_leaves_plus base _)]
      refine added.trans ?_
      simp [concluded, handed_tallies, handed_creates, requestsAmong, creates, tallies, about,
        List.count_singleton, creationLabels_inj]
    | markRead requestId recipientId =>
      rw [(Follows.markReadIn opened follows).requestCount]
      simp [concluded, handed_tallies, handed_creates, requestsAmong]
    | submitCompletion requestId recipientId comment =>
      rw [(Follows.completeIn opened follows).requestCount]
      simp [concluded, handed_tallies, handed_creates, requestsAmong, creates, tallies]
    | _ => cases writes

end

/-! ## Calls that have returned -/

/-- How many requests for a step a call has counted. -/
def Progress.requestsCounted (b : Progress) (step : Step) : Nat :=
  requestsAmong step b.creations b.counted

section

variable {origin : Store} {s : Service} {c : Call} {r : Except WorkflowError c.Value}
  {b : Progress}

theorem Progress.Hidden.requestsCounted (hidden : b.Hidden) (step : Step) :
    b.requestsCounted step = 0 := by
  have creations : b.creations = [] := filterMap_of_silent blind_creates hidden.requests
  have changes : b.counted = [] := filterMap_of_silent blind_tallies hidden.requests
  rw [Progress.requestsCounted, creations, changes]
  rfl

/-- A call that has returned counted the requests by which it moved the tables, and none if it
stands nowhere in the line. -/
theorem Tale.requestCount (h : Tale origin s c (pure r) b) (neutral : b.Neutral) (step : Step) :
    (b.span = none → b.requestsCounted step = 0) ∧
      ∀ base left, b.span = some (base, left) →
        left.requestCount step = base.requestCount step + b.requestsCounted step := by
  have quiet : b.Hidden → (b.span = none → b.requestsCounted step = 0) ∧
      ∀ base left, b.span = some (base, left) →
        left.requestCount step = base.requestCount step + b.requestsCounted step := by
    refine fun hidden => ⟨fun _ => hidden.requestsCounted step, fun base left span => ?_⟩
    obtain rfl := neutral hidden.unpublished base left span
    rw [hidden.requestsCounted]
    rfl
  cases h with
  | unsettled hidden => exact quiet hidden
  | settled h =>
    cases h with
    | refused follows span hidden => exact quiet hidden
    | @done _ _ plan prepared ready prepares outcome base left worked span published opened silents
        made cleanUp turns silent cleans path =>
      have creations : b.creations = concluded creates s c outcome := by
        rw [Progress.creations, turns, filterMap_of_path blind_creates silent cleans path]
      have changes : b.counted = concluded tallies s c outcome := by
        rw [Progress.counted, turns, filterMap_of_path blind_tallies silent cleans path]
      refine ⟨fun none => ?_, fun base' left' span' => ?_⟩
      · rw [span] at none
        cases none
      · rw [span] at span'
        cases span'
        rw [Progress.requestsCounted, creations, changes]
        exact worked.requestCount prepares step

end

/-- Along the line, the requests that are stored are those that were counted. -/
theorem Linked.requestCount {ι : Type} {progress : ι → Progress} {a c : Tables} {is : List ι}
    (linked : Linked (fun i => (progress i).span) a is c) (step : Step)
    (each : ∀ i, ((progress i).span = none → (progress i).requestsCounted step = 0) ∧
      ∀ base left, (progress i).span = some (base, left) →
        left.requestCount step = base.requestCount step + (progress i).requestsCounted step) :
    c.requestCount step =
      a.requestCount step + (is.map fun i => (progress i).requestsCounted step).sum := by
  induction linked with
  | nil => rfl
  | @skip a c i is none rest ih =>
    rw [ih, List.map_cons, List.sum_cons, (each i).1 none, Nat.zero_add]
  | @link a b c i is span rest ih =>
    rw [ih, (each i).2 a b span, List.map_cons, List.sum_cons, Nat.add_assoc]

namespace System

variable {ι : Type} [DecidableEq ι]

/-- How often all calls have counted a new request for a step. -/
def creationCount [Fintype ι] {calls : ι → Call} (sys : System calls) (step : Step) : Nat :=
  ∑ i, (sys.clients i).progress.creations.count (creationLabels step)

/-- Whatever calls run on a store without requests, and however they interfere: once all have
returned, the requests that are stored for a step are those that were counted as new, and those that
came with a change of status, which was counted as one. -/
theorem requestCount_eq [Fintype ι] (service : ι → Service) (calls : ι → Call) (store : Store)
    (reached : store.committed.Reached) (none : store.committed.requests = .empty)
    (happenings : List (Happening ι)) (step : Step) :
    let final := (start service calls store).run happenings
    (∀ i, ∃ r, (final.clients i).rest = pure r) →
      final.store.committed.requestCount step =
        final.creationCount step + final.changeCount step .revisionRequested := by
  intro final returned
  have ok : final.Ok store service := ok_run (ok_start service calls reached.keyed) happenings
  choose r rest using returned
  have tale : ∀ i, Tale store (service i) (calls i) (pure (r i)) (final.clients i).progress := by
    intro i
    rw [← rest i]
    exact (ok.clients i).safe.tale
  have each := fun i => (tale i).requestCount (ok.clients i).neutral step
  have start : store.committed.requestCount step = 0 := by
    rw [Tables.requestCount, none]
    rfl
  calc final.store.committed.requestCount step
      = (final.line.map fun i => (final.clients i).progress.requestsCounted step).sum := by
        rw [ok.linked.requestCount step each, start, Nat.zero_add]
    _ = ∑ i ∈ final.line.toFinset, (final.clients i).progress.requestsCounted step :=
        (List.sum_toFinset _ ok.nodup).symm
    _ = ∑ i, (final.clients i).progress.requestsCounted step := by
        refine Finset.sum_subset (Finset.subset_univ _) fun i _ absent => (each i).1 ?_
        by_contra stands
        exact absent (List.mem_toFinset.2 ((ok.placed i).2 stands))
    _ = final.creationCount step + final.changeCount step .revisionRequested :=
        Finset.sum_add_distrib

/-- A new request and a change of status that asks for another one, for the same step. -/
def createAndAsk (i : Bool) : Call :=
  if i then .createRequest ⟨default, .criteria, "Please add one more criterion.", default, []⟩
  else .setStepStatus ⟨default, .criteria, .revisionRequested, default,
    some "Please add one more criterion.", []⟩

/-- They take turns, and each has random bits of its own. -/
def withOwnBits : List (Happening Bool) :=
  (List.replicate 30
    [.turn true ⟨default, ⟨1⟩, .ok ()⟩, .turn false ⟨default, ⟨2⟩, .ok ()⟩]).flatten

/-- One of the two requests is counted as new. -/
theorem requestCount_eq_createAndAsk :
    ∃ final : System createAndAsk, final = (start usual createAndAsk oneMapping).run withOwnBits ∧
      final.store.committed.requestCount .criteria =
        final.creationCount .criteria + final.changeCount .criteria .revisionRequested ∧
      final.store.committed.requestCount .criteria = 2 ∧ final.creationCount .criteria = 1 := by
  have reached : oneMapping.committed.Reached := ⟨default, [], rfl, rfl⟩
  have returned : ∀ i, (((start usual createAndAsk oneMapping).run
      withOwnBits).clients i).rest.value?.isSome := by
    decide +kernel
  exact ⟨_, rfl, requestCount_eq usual createAndAsk oneMapping reached rfl withOwnBits .criteria
    fun i => Program.eq_pure_of_isSome (returned i), by decide +kernel, by decide +kernel⟩

/-- A change of status that asks for a revision. -/
def askAlone (_ : Unit) : Call := createAndAsk false

/-- Its request is stored and not counted as new. -/
theorem uncounted_request :
    ∃ final : System askAlone,
      final = (start (fun _ => ⟨default, default⟩) askAlone oneMapping).run
        (List.replicate 20 (.turn () ⟨default, default, .ok ()⟩)) ∧
      (∃ r, (final.clients ()).rest = pure r) ∧
      final.store.committed.requestCount .criteria = 1 ∧ final.creationCount .criteria = 0 := by
  have returned : (((start (fun _ => ⟨default, default⟩) askAlone oneMapping).run
      (List.replicate 20 (.turn () ⟨default, default, .ok ()⟩))).clients
        ()).rest.value?.isSome := by
    decide +kernel
  exact ⟨_, rfl, Program.eq_pure_of_isSome returned, by decide +kernel, by decide +kernel⟩

end System

end Appraisal.Memory
