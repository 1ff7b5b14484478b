import Appraisal.Dispatch
import Appraisal.Proofs.Program

/-!
# Failures that come too late

Rolling back and giving a session back may fail, and so may the handlers of events.  None of it
matters to what the coordinator asks for next, reports apart.

`Coupled` relates two actions that make the same requests, reports apart.  Where an answer depends
on these failures, the two go on from different answers.  Otherwise they go on from the same one.
Every definition of the coordinator and of the dispatcher is coupled with itself, if its work is
firm (`coupled_runWith`, `coupled_runWithEventsUsing`).  The values of coordinated runs are equal.
What the dispatcher counts is not, and shows in the last entry that it writes.
-/

namespace Appraisal.Memory

open Coordinator Dispatcher

variable {ε E α β γ δ : Type}

/-! ## Reports -/

/-- A signal without what it reports of failed clean-ups and of failed deliveries. -/
def essence : Signal → Option Signal
  | .diagnostic _ => none
  | .count name labels =>
    if name = "event_dispatch_failures_total" then none else some (.count name labels)
  | .log ⟨level, message, fields⟩ =>
    if message = "cleanup failed" then none
    else if message = "domain events dispatched" then
      some (.log ⟨level, message, fields.filter fun field => field.1 != "failures"⟩)
    else some (.log ⟨level, message, fields⟩)
  | .sample name => some (.sample name)

/-- A request without reports. -/
def unreported : Request ε → Option (Request ε)
  | .signal s => (essence s).map .signal
  | request => some request

/-- The answer depends on whether clean-up fails or on a handler. -/
def Fickle : Request ε → Prop
  | .session .rollback | .session .release | .deliver _ _ => True
  | _ => False

/-- The answer is the same however clean-up and handlers fail. -/
def Firm (request : Request ε) : Prop := ¬ Fickle request

theorem essence_report (sink : DiagnosticSink) (d : Diagnostic) :
    essence (sink.signal d) = none := by
  cases sink <;> rfl

/-! ## Coupled actions -/

/-- The two actions make the same requests, reports apart, and end with values that are related.
After a fickle request they may go on from different answers. -/
inductive Coupled (R : α → β → Prop) : Action ε α → Action ε β → Prop
  /-- Both have ended. -/
  | done {a : α} {b : β} (related : R a b) : Coupled R (.pure a) (.pure b)
  /-- Both make a request that gets the same answer. -/
  | firm {request : Request ε} {next : request.Answer → Action ε α}
    {next' : request.Answer → Action ε β} (firm : Firm request)
    (later : ∀ answer, Coupled R (next answer) (next' answer)) :
    Coupled R (.call request next) (.call request next')
  /-- Both make a request that may get different answers. -/
  | fickle {request : Request ε} {next : request.Answer → Action ε α}
    {next' : request.Answer → Action ε β}
    (later : ∀ answer answer', Coupled R (next answer) (next' answer')) :
    Coupled R (.call request next) (.call request next')
  /-- Both send signals that differ in what they report. -/
  | signals {s s' : Signal} {next : Unit → Action ε α} {next' : Unit → Action ε β}
    (same : essence s = essence s') (later : Coupled R (next ()) (next' ())) :
    Coupled R (.call (.signal s) next) (.call (.signal s') next')
  /-- Only the first one reports. -/
  | left {s : Signal} {next : Unit → Action ε α} {q : Action ε β} (report : essence s = none)
    (later : Coupled R (next ()) q) : Coupled R (.call (.signal s) next) q
  /-- Only the second one reports. -/
  | right {s : Signal} {p : Action ε α} {next : Unit → Action ε β} (report : essence s = none)
    (later : Coupled R p (next ())) : Coupled R p (.call (.signal s) next)

namespace Coupled

theorem bind {R : α → β → Prop} {Q : γ → δ → Prop} {p : Action ε α} {q : Action ε β}
    {f : α → Action ε γ} {g : β → Action ε δ} (h : Coupled R p q)
    (hf : ∀ a b, R a b → Coupled Q (f a) (g b)) : Coupled Q (p >>= f) (q >>= g) := by
  induction h with
  | done related => exact hf _ _ related
  | firm firm later ih => exact .firm firm ih
  | fickle later ih => exact .fickle ih
  | signals same later ih => exact .signals same ih
  | left report later ih => exact .left report ih
  | right report later ih => exact .right report ih

/-- An action that makes only firm requests is coupled with itself. -/
theorem refl {p : Action ε α} (h : p.Within Firm fun _ => True) : Coupled Eq p p := by
  induction p with
  | pure a => exact .done rfl
  | call request next ih => exact .firm h.1 fun answer => ih answer (h.2 answer)

theorem signal (s : Signal) : Coupled Eq (Action.signal s : Action ε Unit) (Action.signal s) :=
  .signals rfl (.done rfl)

end Coupled

/-! ## The coordinator -/

section

variable [WorkError E] {c : Coordinator} {context : String} {options : TransactionOptions}
  {work : Work ε E α}

/-- However two clean-ups go, they differ only in what they report. -/
theorem coupled_report (stage : CleanupStage) (answer answer' : Except Failure Unit) :
    Coupled Eq
      (match answer with
        | .ok () => pure ()
        | .error f => c.report context stage f : Action ε Unit)
      (match answer' with
        | .ok () => pure ()
        | .error f => c.report context stage f) := by
  cases answer with
  | ok =>
    cases answer' with
    | ok => exact .done rfl
    | error f => exact .right (essence_report c.sink _) (.done rfl)
  | error f =>
    cases answer' with
    | ok => exact .left (essence_report c.sink _) (.done rfl)
    | error f' =>
      exact .left (essence_report c.sink _) (.right (essence_report c.sink _) (.done rfl))

theorem coupled_rollBack : Coupled Eq (c.rollBack context : Action ε Unit) (c.rollBack context) :=
  .fickle fun answer answer' => coupled_report .rollback answer answer'

theorem coupled_release :
    Coupled Eq (c.cleanUp context .release (Action.session .release) : Action ε Unit)
      (c.cleanUp context .release (Action.session .release)) :=
  .fickle fun answer answer' => coupled_report .release answer answer'

theorem firm_inSavepoint (name : String) (firm : work.run.Within Firm fun _ => True) :
    (c.inSavepoint context name work).run.Within Firm fun _ => True := by
  refine ⟨id, fun answer => ?_⟩
  cases answer with
  | error f => trivial
  | ok =>
    refine firm.bind fun outcome _ => ?_
    cases outcome with
    | ok a =>
      refine ⟨id, fun answer => ?_⟩
      cases answer <;> trivial
    | error e =>
      refine ⟨id, fun answer => ?_⟩
      cases answer with
      | ok => trivial
      | error f => exact ⟨id, fun _ => trivial⟩

theorem firm_body (firm : work.run.Within Firm fun _ => True) :
    (c.body context options work).run.Within Firm fun _ => True := by
  have inside : (c.inOptionalSavepoint context options work).run.Within Firm fun _ => True := by
    rw [inOptionalSavepoint]
    split
    · exact firm_inSavepoint _ firm
    · exact firm
  rw [body]
  split
  · refine ⟨id, fun answer => ?_⟩
    cases answer with
    | ok => exact inside
    | error f => trivial
  · exact inside

/-- A transaction comes to the same outcome however its rollback goes. -/
theorem coupled_transaction (firm : work.run.Within Firm fun _ => True) :
    Coupled Eq (c.transaction context options work).run
      (c.transaction context options work).run := by
  refine .firm id fun answer => ?_
  cases answer with
  | error f => exact .done rfl
  | ok =>
    refine (Coupled.refl (firm_body firm)).bind ?_
    rintro outcome _ rfl
    cases outcome with
    | error e => exact coupled_rollBack.bind fun _ _ _ => .done rfl
    | ok a =>
      refine .firm id fun answer => ?_
      cases answer with
      | ok => exact .done rfl
      | error f => exact coupled_rollBack.bind fun _ _ _ => .done rfl

theorem coupled_attempt (firm : work.run.Within Firm fun _ => True) :
    Coupled Eq (c.attempt context options work).run (c.attempt context options work).run := by
  refine .firm id fun answer => ?_
  cases answer with
  | error f => exact .done rfl
  | ok =>
    refine (coupled_transaction firm).bind ?_
    rintro outcome _ rfl
    exact coupled_release.bind fun _ _ _ => .done rfl

theorem firm_giveUp (number : Nat) (f : Failure) :
    (giveUp context number f : Action ε E).Within Firm fun _ => True :=
  ⟨id, fun _ => ⟨id, fun _ => trivial⟩⟩

theorem firm_backOff (policy : RetryPolicy) (number : Nat) (f : Failure) :
    (backOff policy number f : Action ε Unit).Within Firm fun _ => True :=
  ⟨id, fun _ => ⟨id, fun _ => ⟨id, fun _ => trivial⟩⟩⟩

theorem coupled_attempts (firm : work.run.Within Firm fun _ => True) (left number : Nat) :
    Coupled Eq (c.attempts context options work left number).run
      (c.attempts context options work left number).run := by
  have gaveUp : ∀ (number : Nat) (f : Failure), Coupled (ε := ε) (Eq (α := Except E α))
      (do return .error (← giveUp context number f))
      (do return .error (← giveUp context number f)) := fun number f => by
    refine (Coupled.refl (firm_giveUp number f)).bind ?_
    rintro e _ rfl
    exact .done rfl
  induction left generalizing number with
  | zero =>
    rw [attempts, ExceptT.run_mk]
    refine (coupled_attempt firm).bind ?_
    rintro outcome _ rfl
    cases outcome with
    | ok a => exact .done rfl
    | error e =>
      cases raw : WorkError.failure? e with
      | none => simpa only [raw] using .done rfl
      | some f => simpa only [raw] using gaveUp number f
  | succ left ih =>
    rw [attempts, ExceptT.run_mk]
    refine (coupled_attempt firm).bind ?_
    rintro outcome _ rfl
    cases outcome with
    | ok a => exact .done rfl
    | error e =>
      cases raw : WorkError.failure? e with
      | none => simpa only [raw] using .done rfl
      | some f =>
        simp only [raw]
        split
        · exact (Coupled.refl (firm_backOff _ number f)).bind fun _ _ _ => ih (number + 1)
        · exact gaveUp number f

theorem coupled_runWith (firm : work.run.Within Firm fun _ => True) :
    Coupled Eq (c.runWith context options work).run (c.runWith context options work).run := by
  refine (Coupled.signal _).bind fun _ _ _ => (coupled_attempts firm _ 1).bind ?_
  rintro outcome _ rfl
  exact (Coupled.signal _).bind fun _ _ _ => .done rfl

end

/-! ## The dispatcher -/

section

variable {sink : DiagnosticSink} {context : String}

/-- A handler that only writes to the log does the same in both. -/
theorem coupled_react (place : Nat) (h : Handler ε) (event : ε) :
    Coupled (fun _ _ => True) (react place h event) (react place h event) := by
  rw [react]
  split
  · exact (Coupled.signal _).bind fun _ _ _ => .done trivial
  · exact .fickle fun _ _ => .done trivial

theorem coupled_deliverTo (event : ε) (place : Nat) (h : Handler ε) :
    Coupled (fun _ _ => True) (deliverTo sink context event place h)
      (deliverTo sink context event place h) := by
  refine (coupled_react place h event).bind fun result result' _ => ?_
  cases result with
  | ok =>
    cases result' with
    | ok => exact .done trivial
    | error reason' => exact .right rfl (.right (essence_report sink _) (.done trivial))
  | error reason =>
    cases result' with
    | ok => exact .left rfl (.left (essence_report sink _) (.done trivial))
    | error reason' =>
      exact .signals rfl (.left (essence_report sink _) (.right (essence_report sink _)
        (.done trivial)))

theorem coupled_deliverFrom (event : ε) (place : Nat) (hs : List (Handler ε)) :
    Coupled (fun _ _ => True) (deliverFrom sink context event place hs)
      (deliverFrom sink context event place hs) := by
  induction hs generalizing place with
  | nil => exact .done trivial
  | cons h hs ih =>
    exact (coupled_deliverTo event place h).bind fun _ _ _ =>
      (ih (place + 1)).bind fun _ _ _ => .done trivial

theorem coupled_deliverAll (d : Dispatcher ε) (events : List ε) :
    Coupled (fun _ _ => True) (d.deliverAll sink context events)
      (d.deliverAll sink context events) := by
  induction events with
  | nil => exact .done trivial
  | cons event events ih =>
    exact (coupled_deliverFrom event 0 d.handlers).bind fun _ _ _ =>
      ih.bind fun _ _ _ => .done trivial

/-- How many deliveries failed shows in the last entry only. -/
theorem coupled_dispatch (d : Dispatcher ε) (events : List ε) :
    Coupled (fun _ _ => True) (d.dispatch sink context events)
      (d.dispatch sink context events) :=
  (coupled_deliverAll d events).bind fun _ _ _ => .signals rfl (.done trivial)

theorem coupled_runWithEventsUsing [WorkError E] [EventSource ε α] {c : Coordinator}
    {options : TransactionOptions} {work : Work ε E α} (d : Dispatcher ε)
    (firm : work.run.Within Firm fun _ => True) :
    Coupled Eq (c.runWithEventsUsing context options d work).run
      (c.runWithEventsUsing context options d work).run := by
  refine (coupled_runWith firm).bind ?_
  rintro outcome _ rfl
  cases outcome with
  | error e => exact .done rfl
  | ok a =>
    dsimp only
    cases (drain a).1.isEmpty with
    | true => exact .done rfl
    | false => exact (coupled_dispatch d _).bind fun _ _ _ => .done rfl

end

end Appraisal.Memory
