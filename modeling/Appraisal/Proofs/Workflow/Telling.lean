import Appraisal.Proofs.Concurrent.Settling

/-!
# What a call tells others

What follows the attempts of a call hands events on and counts.  `emits_conclude` says which of its
requests matter to an observer, on every path to its end.  An observer that is a registered handler
hears the events of the value (`handed_hears`), and the counters of changes of status, of new
requests and of completed revisions count what was done.
-/

namespace Appraisal.Memory

open Workflow

/-- Silent requests do not matter. -/
def Blind {X : Type} (f : Request WorkflowEvent → Option X) : Prop :=
  ∀ request, Silent request → f request = none

section

variable {X : Type} {f : Request WorkflowEvent → Option X}

theorem filterMap_of_silent (blind : Blind f) {requests : List (Request WorkflowEvent)}
    (silent : ∀ request ∈ requests, Silent request) : requests.filterMap f = [] :=
  List.filterMap_eq_nil_iff.2 fun request h => blind request (silent request h)

theorem emits_silent {α : Type} (blind : Blind f) {request : Request WorkflowEvent}
    {next : request.Answer → Action WorkflowEvent α} {xs : List X} (silent : Silent request)
    (later : ∀ r, (next r).Emits f xs) : Program.Emits f (.call request next) xs :=
  ⟨xs, by rw [blind request silent]; rfl, later⟩

/-! ## Events that are handed on -/

/-- What handing an event to some handlers stands for. -/
def handedTo (f : Request WorkflowEvent → Option X) (event : WorkflowEvent) :
    Nat → List (Handler WorkflowEvent) → List X
  | _, [] => []
  | place, h :: hs =>
    (if h.entry?.isNone then (f (.deliver place event)).toList else []) ++
      handedTo f event (place + 1) hs

/-- What handing events on stands for. -/
def handed (f : Request WorkflowEvent → Option X) (s : Service) (events : List WorkflowEvent) :
    List X :=
  events.flatMap fun event => handedTo f event 0 s.dispatcher.handlers

theorem emits_deliverTo (blind : Blind f) (sink : DiagnosticSink) (context : String)
    (event : WorkflowEvent) (place : Nat) (h : Handler WorkflowEvent) :
    (Dispatcher.deliverTo sink context event place h).Emits f
      (if h.entry?.isNone then (f (.deliver place event)).toList else []) := by
  have reacts : (Dispatcher.react place h event).Emits f
      (if h.entry?.isNone then (f (.deliver place event)).toList else []) := by
    rw [Dispatcher.react]
    cases h.entry? with
    | none => exact ⟨[], (List.append_nil _).symm, fun _ => rfl⟩
    | some entry => exact emits_silent blind trivial fun _ => rfl
  refine reacts.bind_nil fun answer => ?_
  cases answer with
  | ok u => rfl
  | error reason =>
    have reported : Silent (.signal (sink.signal
        ⟨context, .eventDispatch, s!"handler '{h.name}' failed: {reason}"⟩)) := by
      cases sink <;> trivial
    exact emits_silent blind (silent_count (by decide)) fun _ =>
      emits_silent blind reported fun _ => rfl

theorem emits_deliverFrom (blind : Blind f) (sink : DiagnosticSink) (context : String)
    (event : WorkflowEvent) (place : Nat) (hs : List (Handler WorkflowEvent)) :
    (Dispatcher.deliverFrom sink context event place hs).Emits f (handedTo f event place hs) := by
  induction hs generalizing place with
  | nil => rfl
  | cons h hs ih =>
    exact (emits_deliverTo blind sink context event place h).bind fun _ =>
      (ih (place + 1)).bind_nil fun _ => rfl

theorem emits_dispatch (blind : Blind f) (s : Service) (sink : DiagnosticSink) (context : String)
    (events : List WorkflowEvent) :
    (s.dispatcher.dispatch sink context events).Emits f (handed f s events) := by
  have all : (s.dispatcher.deliverAll sink context events).Emits f (handed f s events) := by
    induction events with
    | nil => rfl
    | cons event events ih =>
      exact (emits_deliverFrom blind sink context event 0 s.dispatcher.handlers).bind fun _ =>
        ih.bind_nil fun _ => rfl
  exact all.bind_nil fun _ => emits_silent blind trivial fun _ => rfl

theorem emits_announce {α : Type} (blind : Blind f) (s : Service) (context : String)
    (r : WithEvents α) : (announce s context r).Emits f (handed f s r.pending) := by
  rw [announce]
  split
  · rename_i empty
    rw [List.isEmpty_iff.1 empty]
    rfl
  · exact (emits_dispatch blind s _ context r.pending).bind_nil fun _ => rfl

/-! ## What follows the attempts -/

/-- The labels by which a change of status is counted. -/
def changeLabels (step : Step) (status : Status) : List (String × String) :=
  [("step", step.text), ("status", status.text)]

/-- The labels by which a new request is counted. -/
def creationLabels (step : Step) : List (String × String) := [("step", step.text)]

/-- What the end of a call stands for. -/
def concluded (f : Request WorkflowEvent → Option X) (s : Service) :
    (c : Call) → Except WorkflowError c.Result → List X
  | _, .error _ => []
  | .setStepStatus change, .ok r =>
    handed f s r.pending ++
      if r.value.changed then
        (f (.signal (.count "step_status_changes_total"
          (changeLabels change.step change.status)))).toList
      else []
  | .createRequest new, .ok r =>
    handed f s r.pending ++
      (f (.signal (.count "revision_requests_created_total" (creationLabels new.step)))).toList
  | .markRead .., .ok r => handed f s r.pending
  | .submitCompletion .., .ok r =>
    handed f s r.pending ++ (f (.signal (.count "revision_completions_total" []))).toList
  | .listForRecipient .., .ok _ | .countUnread _, .ok _ | .getRequest _, .ok _
  | .getRecord _, .ok _ => []

theorem emits_conclude (blind : Blind f) (s : Service) (c : Call) (plan : c.Plan)
    (outcome : Except WorkflowError c.Result) :
    ((c.job s plan).conclude outcome).Emits f (concluded f s c outcome) := by
  refine emits_silent blind trivial fun _ => ?_
  cases outcome with
  | error e =>
    cases c <;> rfl
  | ok r =>
    have finish : ((c.job s plan).finish r).Emits f (concluded f s c (.ok r)) := by
      cases c with
      | setStepStatus change =>
        refine (emits_announce blind s _ r).bind fun _ => ?_
        split
        · exact ⟨[], (List.append_nil _).symm, fun _ => emits_silent blind trivial fun _ => rfl⟩
        · rfl
      | createRequest new =>
        exact (emits_announce blind s _ r).bind fun _ => ⟨[], (List.append_nil _).symm, fun _ => rfl⟩
      | markRead requestId recipientId =>
        exact (emits_announce blind s _ r).bind_nil fun _ => rfl
      | submitCompletion requestId recipientId comment =>
        exact (emits_announce blind s _ r).bind fun _ => ⟨[], (List.append_nil _).symm, fun _ => rfl⟩
      | _ => rfl
    exact finish.bind_nil fun _ => rfl

end

/-! ## Observers -/

/-- What a handler hears. -/
def hears (place : Nat) : Request WorkflowEvent → Option WorkflowEvent
  | .deliver at_ event => if at_ = place then some event else none
  | _ => none

/-- The labels of a change of status that is counted. -/
def tallies : Request WorkflowEvent → Option (List (String × String))
  | .signal (.count name labels) => if name = "step_status_changes_total" then some labels else none
  | _ => none

/-- The labels of a new request that is counted. -/
def creates : Request WorkflowEvent → Option (List (String × String))
  | .signal (.count name labels) =>
    if name = "revision_requests_created_total" then some labels else none
  | _ => none

/-- A completion that is counted. -/
def completes : Request WorkflowEvent → Option Unit
  | .signal (.count name _) => if name = "revision_completions_total" then some () else none
  | _ => none

theorem blind_hears (place : Nat) : Blind (hears place) := by
  intro request silent
  cases request with
  | deliver => exact silent.elim
  | _ => rfl

theorem blind_tallies : Blind tallies := by
  intro request silent
  cases request with
  | signal signal =>
    cases signal with
    | count name labels => exact if_neg silent.1
    | _ => rfl
  | _ => rfl

theorem blind_completes : Blind completes := by
  intro request silent
  cases request with
  | signal signal =>
    cases signal with
    | count name labels => exact if_neg silent.2.1
    | _ => rfl
  | _ => rfl

theorem blind_creates : Blind creates := by
  intro request silent
  cases request with
  | signal signal =>
    cases signal with
    | count name labels => exact if_neg silent.2.2
    | _ => rfl
  | _ => rfl

/-- A handler at a place hears every event, unless it only writes to the log. -/
def Observes (s : Service) (place : Nat) : Prop :=
  ∃ h, s.dispatcher.handlers[place]? = some h ∧ h.entry? = none

/-- Nothing is heard at a place of handlers that come after it. -/
theorem handedTo_eq_nil {X : Type} {f : Request WorkflowEvent → Option X} {place : Nat}
    (deaf : ∀ at_ event, at_ ≠ place → f (.deliver at_ event) = none) (event : WorkflowEvent)
    (hs : List (Handler WorkflowEvent)) {start : Nat} (after : place < start) :
    handedTo f event start hs = [] := by
  induction hs generalizing start with
  | nil => rfl
  | cons h hs ih =>
    simp [handedTo, ih (Nat.lt_succ_of_lt after), deaf start event (Nat.ne_of_gt after)]

/-- A place hears of an event once at most. -/
theorem length_handedTo {X : Type} {f : Request WorkflowEvent → Option X} {place : Nat}
    (deaf : ∀ at_ event, at_ ≠ place → f (.deliver at_ event) = none) (event : WorkflowEvent)
    (hs : List (Handler WorkflowEvent)) (start : Nat) :
    (handedTo f event start hs).length ≤ (f (.deliver place event)).toList.length := by
  induction hs generalizing start with
  | nil => exact Nat.zero_le _
  | cons h hs ih =>
    by_cases here : start = place
    · subst here
      rw [handedTo, handedTo_eq_nil deaf event hs (Nat.lt_succ_self _), List.append_nil]
      split
      · exact Nat.le_refl _
      · exact Nat.zero_le _
    · simpa [handedTo, deaf start event here] using ih (start + 1)

theorem handed_hears {s : Service} {place : Nat} (observes : Observes s place)
    (events : List WorkflowEvent) : handed (hears place) s events = events := by
  obtain ⟨h, found, open_⟩ := observes
  have deaf : ∀ at_ event, at_ ≠ place → hears place (.deliver at_ event) = none :=
    fun _ _ other => if_neg other
  have once : ∀ event (hs : List (Handler WorkflowEvent)) start, start ≤ place →
      hs[place - start]? = some h → handedTo (hears place) event start hs = [event] := by
    intro event hs
    induction hs with
    | nil => intro start _ found; cases found
    | cons h' hs ih =>
      intro start le found
      by_cases here : start = place
      · subst here
        rw [Nat.sub_self] at found
        cases found
        rw [handedTo, handedTo_eq_nil deaf event hs (Nat.lt_succ_self _), open_, hears, if_pos rfl]
        rfl
      · rw [show place - start = place - (start + 1) + 1 by omega] at found
        simp [handedTo, hears, here, ih (start + 1) (by omega) found]
  induction events with
  | nil => rfl
  | cons event events ih =>
    show handedTo _ event 0 _ ++ handed _ s events = _
    rw [once event _ 0 (Nat.zero_le _) found, ih]
    rfl

/-- An observer of no event takes nothing from events that are handed on. -/
theorem handed_eq_nil {X : Type} {f : Request WorkflowEvent → Option X}
    (deaf : ∀ place event, f (.deliver place event) = none) (s : Service)
    (events : List WorkflowEvent) : handed f s events = [] := by
  have none : ∀ event (hs : List (Handler WorkflowEvent)) start,
      handedTo f event start hs = [] := by
    intro event hs
    induction hs with
    | nil => intros; rfl
    | cons h hs ih =>
      intro start
      simp [handedTo, ih, deaf]
  simp [handed, none]

theorem handed_tallies (s : Service) (events : List WorkflowEvent) :
    handed tallies s events = [] := handed_eq_nil (fun _ _ => rfl) s events

theorem handed_creates (s : Service) (events : List WorkflowEvent) :
    handed creates s events = [] := handed_eq_nil (fun _ _ => rfl) s events

theorem handed_completes (s : Service) (events : List WorkflowEvent) :
    handed completes s events = [] := handed_eq_nil (fun _ _ => rfl) s events

end Appraisal.Memory
