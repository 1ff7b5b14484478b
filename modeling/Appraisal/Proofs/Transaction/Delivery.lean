import Appraisal.Dispatch
import Appraisal.Proofs.Transaction.Rounds

/-!
# Delivery after the commit

What a run delivers is decided by its value.  Every event of the value goes to every handler in
turn, and a handler that fails changes nothing but what is counted and reported
(`runWithEventsUsing_delivers`).  The events of a value stand in the order in which they were
recorded (`Recorded.drain_foldl_record`), and the handlers in the order in which they were
registered (`Dispatcher.getElem?_foldl_register`).

A delivery is one event handed to one handler, with how that went.  The requests of `dispatch` are
those of the deliveries in order, then a log entry (`runs_dispatch`).
-/

namespace Appraisal

open Coordinator

variable {ε : Type}

/-! ## Deliveries -/

/-- An event handed to a handler. -/
structure Delivery (ε : Type) where
  event : ε
  /-- The place of the handler among the registered ones. -/
  place : Nat
  handler : Handler ε
  result : Except String Unit

namespace Delivery

/-- What is asked for first. -/
def reaction (d : Delivery ε) : Transcript ε :=
  match d.handler.entry? with
  | some entry => [sent (.log (entry d.event))]
  | none => [⟨.deliver d.place d.event, d.result⟩]

/-- What is counted and reported of a delivery. -/
def complaint (sink : DiagnosticSink) (context : String) (d : Delivery ε) : Transcript ε :=
  match d.result with
  | .ok () => []
  | .error reason =>
    [ sent (.count "event_dispatch_failures_total" [("handler", d.handler.name)]),
      sent (sink.signal
        ⟨context, .eventDispatch, s!"handler '{d.handler.name}' failed: {reason}"⟩)]

/-- The requests of a delivery. -/
def transcript (sink : DiagnosticSink) (context : String) (d : Delivery ε) : Transcript ε :=
  d.reaction ++ d.complaint sink context

/-- The delivery failed. -/
def failed (d : Delivery ε) : Bool :=
  match d.result with
  | .ok () => false
  | .error _ => true

/-- What is delivered, and to whom. -/
def target (d : Delivery ε) : ε × Handler ε × Nat := (d.event, d.handler, d.place)

/-- A handler that only writes to the log does not fail. -/
def Sound (d : Delivery ε) : Prop := d.handler.entry?.isSome → d.result = .ok ()

end Delivery

/-- An event goes to every handler in the order of registration. -/
def rota (handlers : List (Handler ε)) (place : Nat) (event : ε) : List (ε × Handler ε × Nat) :=
  (handlers.zipIdx place).map fun h => (event, h)

namespace Dispatcher

variable {sink : DiagnosticSink} {context : String} {event : ε} {events : List ε} {place : Nat}
  {h : Handler ε} {hs : List (Handler ε)} {d : Dispatcher ε} {trace : Transcript ε} {n : Nat}

theorem runs_react {result : Except String Unit} (ran : (react place h event).Runs trace result) :
    trace = (⟨event, place, h, result⟩ : Delivery ε).reaction ∧
      (⟨event, place, h, result⟩ : Delivery ε).Sound := by
  unfold react at ran
  cases entry : h.entry? with
  | some write =>
    simp only [entry] at ran
    obtain ⟨rest, rfl, ended⟩ := runs_signal ran
    cases ended
    simp [Delivery.reaction, Delivery.Sound, entry]
  | none =>
    simp only [entry] at ran
    obtain ⟨_, _, rfl, ended⟩ := Program.runs_call_iff.1 ran
    cases ended
    simp [Delivery.reaction, Delivery.Sound, entry]

theorem runs_deliverTo (ran : (deliverTo sink context event place h).Runs trace n) :
    ∃ result, trace = (⟨event, place, h, result⟩ : Delivery ε).transcript sink context ∧
      (⟨event, place, h, result⟩ : Delivery ε).Sound ∧
      n = [(⟨event, place, h, result⟩ : Delivery ε)].countP Delivery.failed := by
  obtain ⟨_, result, rest, rfl, reacted, told⟩ := Program.runs_bind_iff.1 ran
  obtain ⟨rfl, sound⟩ := runs_react reacted
  cases result with
  | ok u =>
    cases told
    exact ⟨.ok (), rfl, sound, rfl⟩
  | error reason =>
    obtain ⟨rest, rfl, reported⟩ := runs_signal told
    obtain ⟨rest, rfl, ended⟩ := runs_signal reported
    cases ended
    exact ⟨.error reason, rfl, sound, rfl⟩

/-- Deliveries that were made in order. -/
structure Made (sink : DiagnosticSink) (context : String) (targets : List (ε × Handler ε × Nat))
    (deliveries : List (Delivery ε)) (trace : Transcript ε) (failures : Nat) : Prop where
  targets : deliveries.map Delivery.target = targets
  sound : ∀ d ∈ deliveries, d.Sound
  requests : trace = deliveries.flatMap (Delivery.transcript sink context)
  failures : failures = deliveries.countP Delivery.failed

theorem Made.append {targets targets' : List (ε × Handler ε × Nat)} {trace' : Transcript ε}
    {m : Nat} {ds ds' : List (Delivery ε)} (first : Made sink context targets ds trace n)
    (second : Made sink context targets' ds' trace' m) :
    Made sink context (targets ++ targets') (ds ++ ds') (trace ++ trace') (n + m) where
  targets := by rw [List.map_append, first.targets, second.targets]
  sound d mem := (List.mem_append.1 mem).elim (first.sound d) (second.sound d)
  requests := by rw [List.flatMap_append, ← first.requests, ← second.requests]
  failures := by rw [List.countP_append, ← first.failures, ← second.failures]

theorem runs_deliverFrom (ran : (deliverFrom sink context event place hs).Runs trace n) :
    ∃ deliveries, Made sink context (rota hs place event) deliveries trace n := by
  induction hs generalizing place trace n with
  | nil =>
    cases ran
    exact ⟨[], rfl, by simp, rfl, rfl⟩
  | cons h hs ih =>
    obtain ⟨_, failed, _, rfl, delivered, ran⟩ := Program.runs_bind_iff.1 ran
    obtain ⟨_, failures, _, rfl, later, ended⟩ := Program.runs_bind_iff.1 ran
    cases ended
    obtain ⟨result, requests, sound, count⟩ := runs_deliverTo delivered
    obtain ⟨deliveries, made⟩ := ih later
    have one : Made sink context [(event, h, place)] [⟨event, place, h, result⟩] _ failed :=
      ⟨rfl, by simpa using sound, by simpa using requests, count⟩
    rw [List.append_nil]
    exact ⟨_, one.append made⟩

theorem runs_deliverAll (ran : (d.deliverAll sink context events).Runs trace n) :
    ∃ deliveries, Made sink context (events.flatMap (rota d.handlers 0)) deliveries trace n := by
  induction events generalizing trace n with
  | nil =>
    cases ran
    exact ⟨[], rfl, by simp, rfl, rfl⟩
  | cons event events ih =>
    obtain ⟨_, failed, _, rfl, delivered, ran⟩ := Program.runs_bind_iff.1 ran
    obtain ⟨_, failures, _, rfl, later, ended⟩ := Program.runs_bind_iff.1 ran
    cases ended
    obtain ⟨deliveries, made⟩ := runs_deliverFrom delivered
    obtain ⟨deliveries', made'⟩ := ih later
    rw [List.append_nil, List.flatMap_cons]
    exact ⟨_, made.append made'⟩

/-- The entry that ends a delivery, if there was anything to deliver. -/
def closing (context : String) (events : List ε) (failures : Nat) : Transcript ε :=
  if events.isEmpty then []
  else [sent (.log ⟨.debug, "domain events dispatched", [("context", .text context),
    ("events", .number events.length), ("failures", .number failures)]⟩)]

/-- The events went to every handler in turn, and nothing else was asked for. -/
def Delivered (sink : DiagnosticSink) (context : String) (d : Dispatcher ε) (events : List ε)
    (trace : Transcript ε) : Prop :=
  ∃ deliveries : List (Delivery ε),
    deliveries.map Delivery.target = events.flatMap (rota d.handlers 0) ∧
    (∀ delivery ∈ deliveries, delivery.Sound) ∧
    trace = deliveries.flatMap (Delivery.transcript sink context) ++
      closing context events (deliveries.countP Delivery.failed)

theorem delivered_nil : Delivered sink context d [] [] :=
  ⟨[], rfl, by simp, rfl⟩

theorem runs_dispatch (some : events.isEmpty = false)
    (ran : (d.dispatch sink context events).Runs trace n) :
    Delivered sink context d events trace := by
  obtain ⟨_, failures, _, rfl, made, ran⟩ := Program.runs_bind_iff.1 ran
  obtain ⟨rest, rfl, ended⟩ := runs_signal ran
  cases ended
  obtain ⟨deliveries, made⟩ := runs_deliverAll made
  refine ⟨deliveries, made.targets, made.sound, ?_⟩
  rw [made.requests, made.failures]
  simp [closing, some]

end Dispatcher

/-! ## Runs that deliver -/

namespace Coordinator

variable {E α β : Type} [WorkError E] {c : Coordinator} {context : String}
  {o : TransactionOptions} {d : Dispatcher ε} {trace : Transcript ε}

theorem runs_withEvents [EventSource ε α] {work : Work ε E α} {r : Except E α}
    (ran : (c.runWithEventsUsing context o d work).run.Runs trace r) :
    ∃ before came after, trace = before ++ after ∧
      (c.runWith context o work).run.Runs before came ∧ r = came.map (fun v => (drain v).2) ∧
      (∀ e, came = .error e → after = []) ∧
      ∀ v, came = .ok v → Dispatcher.Delivered c.sink context d (drain v).1 after := by
  obtain ⟨before, came, after, rfl, did, ran⟩ := Program.runs_bind_iff.1 ran
  refine ⟨before, came, after, rfl, did, ?_⟩
  cases came with
  | error e =>
    obtain ⟨rfl, rfl⟩ := Program.runs_pure_iff.1 ran
    exact ⟨rfl, fun _ _ => rfl, nofun⟩
  | ok v =>
    dsimp only at ran
    cases none : (drain v).1.isEmpty with
    | true =>
      simp only [none] at ran
      obtain ⟨rfl, rfl⟩ := Program.runs_pure_iff.1 ran
      refine ⟨rfl, nofun, ?_⟩
      rintro _ ⟨⟩
      rw [List.isEmpty_iff.1 none]
      exact Dispatcher.delivered_nil
    | false =>
      simp only [none] at ran
      obtain ⟨first, _, _, rfl, dispatched, ended⟩ := Program.runs_bind_iff.1 ran
      obtain ⟨rfl, rfl⟩ := Program.runs_pure_iff.1 ended
      refine ⟨rfl, nofun, ?_⟩
      rintro _ ⟨⟩
      rw [List.append_nil]
      exact Dispatcher.runs_dispatch none dispatched

/-- What comes to a value has committed it. -/
theorem Row.committed {work : Work ε E α} {number : Nat} {rounds : List (Round ε E α)}
    {last : Round ε E α} {v : α} (row : c.Row context o work number rounds last (.ok v)) :
    Succeeded last.moves .commit ∧ Returned last.moves (.ok v) := by
  have follows := row.protocol last (by simp)
  cases row.concluded with
  | value _ came silent => exact (follows.returned v).1 came

/-- Whatever answers the requests of a run with events, and whatever its handlers do: only the
value of a committed attempt has its events delivered, each of them to every handler in turn.
Other handlers or other answers of theirs do not change the outcome. -/
theorem runWithEventsUsing_delivers [EventSource ε α] (work : Work ε E α) {σ : Type}
    (answer : (request : Request ε) → σ → request.Answer × σ) (s : σ) :
    (∃ (rounds : List (Round ε E α)) (last : Round ε E α) (came : Except E α)
        (after : Transcript ε),
      let (trace, outcome) := Program.record answer (c.runWithEventsUsing context o d work).run s
      let before := sent (.count "transactions_total" []) ::
        (rounds ++ [last]).flatMap (Round.transcript c.sink) ++
          [sent (.sample "transaction_duration_seconds")]
      trace = before ++ after ∧
      c.Row context o work 1 rounds last came ∧
      outcome = came.map (fun v => (drain v).2) ∧
      (∀ e, came = .error e → after = []) ∧
      (∀ v, came = .ok v → Succeeded last.moves .commit ∧ Returned last.moves (.ok v) ∧
        Dispatcher.Delivered c.sink context d (drain v).1 after) ∧
      ∀ d' after' outcome', (c.runWithEventsUsing context o d' work).run.Runs (before ++ after')
        outcome' → outcome' = outcome) ∧
    (∀ r : Recorded ε β, drain r = (r.pending, .ofValue r.value) ∧ (drain r).2.pending = []) ∧
    ∀ rs : List (Recorded ε β),
      drain rs = (rs.flatMap (·.pending), rs.map fun r => .ofValue r.value) ∧
        ∀ r ∈ (drain rs).2, r.pending = [] := by
  refine ⟨?_, fun r => ⟨rfl, rfl⟩, fun rs => ?_⟩
  · have ran := Program.runs_record answer (c.runWithEventsUsing context o d work).run s
    generalize Program.record answer (c.runWithEventsUsing context o d work).run s = run at ran
    obtain ⟨trace, outcome⟩ := run
    obtain ⟨before, came, after, rfl, did, rfl, silent, delivered⟩ := runs_withEvents ran
    obtain ⟨rounds, last, rfl, row⟩ := runWith_rounds did
    refine ⟨rounds, last, came, after, rfl, row, rfl, silent, ?_, ?_⟩
    · rintro v rfl
      exact ⟨row.committed.1, row.committed.2, delivered v rfl⟩
    · intro d' after' outcome' other
      obtain ⟨before', came', _, same, did', rfl, _⟩ := runs_withEvents other
      rw [(did.eq_of_append did' same).2]
  · have drained : drain rs = (rs.flatMap (·.pending), rs.map fun r => .ofValue r.value) :=
      drainAll_recorded rs
    refine ⟨drained, fun r mem => ?_⟩
    rw [drained] at mem
    obtain ⟨r, _, rfl⟩ := List.mem_map.1 mem
    rfl

end Coordinator

end Appraisal
