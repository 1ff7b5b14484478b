import Appraisal.Recorded
import Appraisal.Transaction.Coordinator

/-!
# Delivering events

Events are delivered after the transaction that raised them has committed.  Every event goes to
every handler in the order of registration before the next event goes to any.  A handler that fails
is counted and reported.  It holds up nothing, and nothing is delivered again.

A handler is known to the surroundings by its place among the registered ones
(`getElem?_foldl_register`).  One that only writes to the log says what it writes.
-/

namespace Appraisal

/-- Something that reacts to events. -/
structure Handler (ε : Type) where
  /-- The name by which its failures are counted and reported. -/
  name : String
  /-- The entry it writes for an event, if writing to the log is all it does. -/
  entry? : Option (ε → LogEntry)

/-- The registered handlers, the first one first. -/
structure Dispatcher (ε : Type) where
  /-- The handlers. -/
  handlers : List (Handler ε)

namespace Dispatcher

variable {ε : Type}

/-- The dispatcher without handlers. -/
instance : Inhabited (Dispatcher ε) := ⟨⟨[]⟩⟩

/-- The dispatcher with one more handler, last. -/
def register (d : Dispatcher ε) (h : Handler ε) : Dispatcher ε := ⟨d.handlers ++ [h]⟩

@[simp] theorem handlers_register (d : Dispatcher ε) (h : Handler ε) :
    (d.register h).handlers = d.handlers ++ [h] := rfl

theorem handlers_foldl_register (d : Dispatcher ε) (hs : List (Handler ε)) :
    (hs.foldl register d).handlers = d.handlers ++ hs := by
  induction hs generalizing d with
  | nil => exact (List.append_nil _).symm
  | cons h hs ih =>
    rw [List.foldl_cons, ih, handlers_register, List.append_assoc, List.singleton_append]

/-- The place of a handler is how many were registered before it. -/
theorem getElem?_foldl_register (hs : List (Handler ε)) (place : Nat) :
    (hs.foldl register default).handlers[place]? = hs[place]? := by
  rw [handlers_foldl_register]
  rfl

/-- Lets a handler react to an event. -/
def react (place : Nat) (h : Handler ε) (event : ε) : Action ε (Except String Unit) :=
  match h.entry? with
  | some entry => do
    Action.signal (.log (entry event))
    return .ok ()
  | none => Action.deliver place event

/-- Delivers an event to one handler and says how many deliveries failed. -/
def deliverTo (sink : DiagnosticSink) (context : String) (event : ε) (place : Nat)
    (h : Handler ε) : Action ε Nat := do
  match ← react place h event with
  | .ok () => return 0
  | .error reason =>
    Action.signal (.count "event_dispatch_failures_total" [("handler", h.name)])
    Action.signal (sink.signal
      ⟨context, .eventDispatch, s!"handler '{h.name}' failed: {reason}"⟩)
    return 1

/-- Delivers an event to handlers, the first of which has the given place. -/
def deliverFrom (sink : DiagnosticSink) (context : String) (event : ε) :
    Nat → List (Handler ε) → Action ε Nat
  | _, [] => return 0
  | place, h :: hs => do
    let failed ← deliverTo sink context event place h
    return failed + (← deliverFrom sink context event (place + 1) hs)

/-- Delivers events to all handlers. -/
def deliverAll (d : Dispatcher ε) (sink : DiagnosticSink) (context : String) :
    List ε → Action ε Nat
  | [] => return 0
  | event :: events => do
    let failed ← deliverFrom sink context event 0 d.handlers
    return failed + (← deliverAll d sink context events)

/-- Delivers events to all handlers, and says how many deliveries failed. -/
def dispatch (d : Dispatcher ε) (sink : DiagnosticSink) (context : String) (events : List ε) :
    Action ε Nat := do
  let failures ← d.deliverAll sink context events
  Action.log .debug "domain events dispatched" [
    ("context", .text context), ("events", .number events.length),
    ("failures", .number failures)]
  return failures

end Dispatcher

namespace Coordinator

variable {ε E α : Type} [WorkError E] [EventSource ε α]

/-- Runs work and then delivers the events that its value carries. -/
def runWithEventsUsing (c : Coordinator) (context : String) (options : TransactionOptions)
    (dispatcher : Dispatcher ε) (work : Work ε E α) : Work ε E α :=
  ExceptT.mk do
    match ← (c.runWith context options work).run with
    | .error e => return .error e
    | .ok a =>
      let (events, rest) := drain a
      unless events.isEmpty do
        let _ ← dispatcher.dispatch c.sink context events
      return .ok rest

/-- Runs work at the default isolation level and then delivers the events of its value. -/
def runWithEvents (c : Coordinator) (context : String) (dispatcher : Dispatcher ε)
    (work : Work ε E α) : Work ε E α :=
  c.runWithEventsUsing context default dispatcher work

end Coordinator

end Appraisal
