import Appraisal.Json.Exchanged

/-!
# Planned handlers

A rehearsal delivers events of any kind: those of the workflow, and values that are handed on as
they were written down.  Its handlers either remember what they get or fail as planned.  A third
kind writes events of the workflow to the log, and has no place where other events are delivered.
-/

namespace Appraisal.Rehearsal

/-! ## Events -/

/-- An event of any kind. -/
inductive AnyEvent
  /-- An event of the workflow. -/
  | workflow (event : WorkflowEvent)
  /-- A value as it was written down. -/
  | written (value : Json)

namespace AnyEvent

/-- The value that stands for an event. -/
def form : AnyEvent → Json
  | workflow event => toJson event
  | written value => value

/-- The type of an event.  A text is its own type, a value that reads as an event of the workflow
has the type of that event, and other values have an empty one. -/
def type : AnyEvent → String
  | workflow event => event.name
  | written (.string (some text)) => text
  | written value => ((Form.ofJson? value : Option WorkflowEvent).map WorkflowEvent.name).getD ""

end AnyEvent

/-! ## Handlers -/

/-- What a handler does. -/
inductive HandlerPlan
  /-- It remembers events. -/
  | remember (name : String)
  /-- It fails with a message, for events of some types or for all. -/
  | fail (name message : String) (types : Option (List String))
  /-- It writes events of the workflow to the log. -/
  | log

namespace HandlerPlan

/-- The name of a handler. -/
def name : HandlerPlan → String
  | remember name => name
  | fail name _ _ => name
  | log => WorkflowEvent.loggingHandler.name

/-- The handler takes events of any kind. -/
def isGeneral : HandlerPlan → Bool
  | log => false
  | _ => true

/-- The handler fails for an event, with a message. -/
def failure? (event : AnyEvent) : HandlerPlan → Option String
  | fail _ message none => some message
  | fail _ message (some types) => if event.type ∈ types then some message else none
  | _ => none

/-- The handler remembers what it gets. -/
def remembers : HandlerPlan → Bool
  | remember _ => true
  | _ => false

/-- The handler as it is registered for events of the workflow. -/
def forWorkflow : HandlerPlan → Handler WorkflowEvent
  | log => WorkflowEvent.loggingHandler
  | plan => ⟨plan.name, none⟩

end HandlerPlan

/-- The dispatcher of events of the workflow. -/
def workflowDispatcher (plans : List HandlerPlan) : Dispatcher WorkflowEvent :=
  ⟨plans.map HandlerPlan.forWorkflow⟩

/-- The dispatcher of events of any kind. -/
def generalDispatcher {ε : Type} (plans : List HandlerPlan) : Dispatcher ε :=
  ⟨(plans.filter HandlerPlan.isGeneral).map fun plan => ⟨plan.name, none⟩⟩

end Appraisal.Rehearsal
