import Appraisal.Proofs.Transaction.Ending
import Appraisal.Proofs.Workflow.Failing
import Appraisal.Proofs.Workflow.Receipts
import Appraisal.Proofs.Workflow.Rule

/-!
# Which failures calls report

The work of every call is *forthright*: it is put together from store calls, requests away from the
store, values and errors of the application, and it goes on only from a value (`Forthright.work`).
So it hands on every failure of the store, and the coordinator judges it.

The preparation is not run by the coordinator.  A failure to look a mapping up is returned as it is,
and this is the only way for a raw failure to get out (`errors_of_failures`).
-/

namespace Appraisal.Workflow

open Memory Coordinator

/-! ## Forthright work -/

/-- The request goes to the clock, the source of random bits, the log or a handler. -/
def Away : Request WorkflowEvent → Prop
  | .openSession | .session _ | .findMapping _ => False
  | _ => True

theorem Away.undecided {request : Request WorkflowEvent} (away : Away request) :
    ¬ Decides request := by
  cases request with
  | openSession | session call | findMapping id => exact away.elim
  | _ => exact id

/-- Work that goes on only from what it was answered without a failure. -/
inductive Forthright : {α : Type} → WorkflowWork α → Prop
  | value {α : Type} (a : α) : Forthright (pure a)
  | reject {α : Type} {e : WorkflowError} (application : isApplication e = true) :
    Forthright (throw e : WorkflowWork α)
  | store (call : StoreCall) : Forthright (Work.store call)
  | perform {α : Type} {action : Action WorkflowEvent α}
    (away : action.Within Away fun _ => True) : Forthright (Work.perform action)
  | bind {α β : Type} {work : WorkflowWork α} {next : α → WorkflowWork β}
    (first : Forthright work) (rest : ∀ a, Forthright (next a)) : Forthright (work >>= next)

namespace Forthright

theorem now : Forthright (Work.perform Action.now) := .perform ⟨trivial, fun _ => trivial⟩

theorem log (level : LogLevel) (message : String) (fields : List (String × LogValue)) :
    Forthright (Work.perform (Action.log level message fields)) :=
  .perform ⟨trivial, fun _ => trivial⟩

theorem insertRows (requestId : RevisionRequestId) (recipients : List Recipient) :
    Forthright (insertRows requestId recipients) := by
  induction recipients with
  | nil => exact value []
  | cons r recipients ih => exact (store _).bind fun _ => ih.bind fun _ => value _

theorem createIn (request : RevisionRequest) (recipients : List Recipient) :
    Forthright (createIn request recipients) :=
  (store _).bind fun _ => (insertRows _ _).bind fun _ => (log _ _ _).bind fun _ => value _

theorem loadRow (requestId : RevisionRequestId) (recipientId : EmployeeId) :
    Forthright (loadRow requestId recipientId) := by
  refine (store _).bind fun request => ?_
  cases request with
  | none => exact reject rfl
  | some request =>
    refine (store _).bind fun row => ?_
    cases row with
    | none => exact reject rfl
    | some row => exact value row

theorem markReadIn (requestId : RevisionRequestId) (recipientId : EmployeeId) :
    Forthright (markReadIn requestId recipientId) := by
  refine (loadRow _ _).bind fun row => now.bind fun at_ => ?_
  split
  · exact value _
  · refine (store _).bind fun taken => ?_
    cases taken with
    | true => exact value _
    | false => exact (loadRow _ _).bind fun _ => value _

theorem completeIn (requestId : RevisionRequestId) (recipientId : EmployeeId) (comment : String) :
    Forthright (completeIn requestId recipientId comment) := by
  refine (loadRow _ _).bind fun row => ?_
  split
  · exact reject rfl
  · refine now.bind fun at_ => (store _).bind fun taken => ?_
    cases taken with
    | true => exact value _
    | false => exact reject rfl

theorem loadDetail (requestId : RevisionRequestId) : Forthright (loadDetail requestId) := by
  refine (store _).bind fun request => ?_
  cases request with
  | none => exact reject rfl
  | some request => exact (store _).bind fun _ => value _

theorem applyChange (change : StepStatusChange) (revision : Option PreparedRevision) :
    Forthright (applyChange change revision) := by
  refine now.bind fun at_ => (store _).bind fun stored => ?_
  dsimp only
  split
  · exact (log _ _ _).bind fun _ => value _
  · refine (store _).bind fun _ => bind ?_ fun _ => value _
    cases revision with
    | none => exact value _
    | some p => exact (createIn _ _).bind fun _ => value _

/-- The work of every call. -/
theorem work (s : Service) (c : Call) (plan : c.Plan) : Forthright (c.job s plan).work := by
  cases c with
  | setStepStatus change => exact applyChange change plan
  | createRequest new => exact (createIn _ _).bind fun _ => value _
  | markRead requestId recipientId => exact markReadIn requestId recipientId
  | submitCompletion requestId recipientId comment =>
    exact completeIn requestId recipientId comment
  | listForRecipient recipientId filter => exact store _
  | countUnread recipientId => exact store _
  | getRequest requestId => exact loadDetail requestId
  | getRecord id => exact store _

/-- The error is one of the application. -/
abbrev Rejected (e : WorkflowError) : Prop := isApplication e = true

theorem failure?_of_rejected {e : WorkflowError} (rejected : Rejected e) :
    WorkError.failure? e = none := by
  cases e with
  | storage f => cases rejected
  | _ => rfl

/-- A program that stays away from the store, as work. -/
theorem handsOn_perform {α : Type} {action : Action WorkflowEvent α}
    (away : action.Within Away fun _ => True) :
    HandsOn Rejected (Work.perform action : WorkflowWork α).run := by
  intro trace r ran
  have bound : (Work.perform action : WorkflowWork α).run.Within
      (fun request => ¬ Decides request) fun r => ∃ a, r = .ok a :=
    (away.mono (fun _ => Away.undecided) fun _ _ => trivial).bind fun a _ => ⟨a, rfl⟩
  obtain ⟨undecided, a, rfl⟩ := undecided_of_within bound ran
  rw [endedBy, undecided]
  rfl

theorem handsOn {α : Type} {work : WorkflowWork α} (h : Forthright work) :
    HandsOn Rejected work.run := by
  induction h with
  | value a => exact .ok a
  | reject application => exact .error (failure?_of_rejected application) application
  | store call => exact .session rfl quits_failure fun v => .ok v
  | perform away => exact handsOn_perform away
  | bind _ _ first rest => exact first.work_bind rest

end Forthright

/-! ## Looking up -/

/-- A mapping was looked up, and that failed. -/
def LookupFailed (trace : Transcript WorkflowEvent) (f : Failure) : Prop :=
  ∃ id, ⟨.findMapping id, .error f⟩ ∈ trace

/-- Whatever is answered, the program hands failures on, and it ends with a raw one just if a
mapping could not be looked up. -/
def Prepares {α : Type} (p : Action WorkflowEvent (Except WorkflowError α)) : Prop :=
  HandsOn Forthright.Rejected p ∧
    ∀ trace r, p.Runs trace r → ∀ f, LookupFailed trace f ↔ r = .error (.storage f)

namespace Prepares

variable {α β : Type}

theorem not_lookupFailed {trace : Transcript WorkflowEvent}
    (elsewhere : ∀ asked ∈ trace, ∀ id, asked.request ≠ .findMapping id) (f : Failure) :
    ¬ LookupFailed trace f := fun ⟨id, mem⟩ => elsewhere _ mem id rfl

theorem bind {work : WorkflowWork α} {next : α → WorkflowWork β} (h : Prepares work.run)
    (rest : ∀ a, Prepares (next a).run) : Prepares (work >>= next).run := by
  refine ⟨h.1.work_bind fun a => (rest a).1, fun trace r ran f => ?_⟩
  obtain ⟨first, outcome, second, rfl, did, later⟩ := Program.runs_bind_iff.1 ran
  have looked : LookupFailed (first ++ second) f ↔
      LookupFailed first f ∨ LookupFailed second f := by
    simp only [LookupFailed, List.mem_append, exists_or]
  rw [looked, h.2 first outcome did f]
  cases outcome with
  | ok a => simp [(rest a).2 second r later f]
  | error e =>
    obtain ⟨rfl, rfl⟩ := Program.runs_pure_iff.1 later
    simp [LookupFailed]

/-- Work that looks nothing up and ends with no failure. -/
theorem of_within {work : WorkflowWork α} (h : HandsOn Forthright.Rejected work.run)
    (away : work.run.Within Away fun r => ∀ f, r ≠ .error (.storage f)) : Prepares work.run := by
  refine ⟨h, fun trace r ran f => ?_⟩
  obtain ⟨all, last⟩ := away.of_runs ran
  refine iff_of_false (not_lookupFailed (fun asked mem id same => ?_) f) (last f)
  have there := all asked mem
  rw [same] at there
  exact there

theorem value (a : α) : Prepares (pure a : WorkflowWork α).run := of_within (.ok a) nofun

theorem perform {action : Action WorkflowEvent α} (away : action.Within Away fun _ => True) :
    Prepares (Work.perform action : WorkflowWork α).run :=
  of_within (Forthright.handsOn_perform away) (away.bind fun _ _ => nofun)

theorem reject {e : WorkflowError} (rejected : Forthright.Rejected e) :
    Prepares (throw e : WorkflowWork α).run :=
  of_within (.error (Forthright.failure?_of_rejected rejected) rejected) fun f same => by
    cases same
    cases rejected

theorem check {result : Except WorkflowError α}
    (rejects : ∀ e, result = .error e → Forthright.Rejected e) :
    Prepares (Work.ofCheck result : WorkflowWork α).run := by
  cases result with
  | ok a => exact value a
  | error e => exact reject (rejects e rfl)

theorem requireMapping (id : MappingId) : Prepares (requireMapping id).run := by
  have looked : Prepares (Work.ofAnswer (Action.findMapping id) :
      WorkflowWork (Option EvaluationMapping)).run := by
    constructor
    · intro trace r ran
      obtain ⟨answer, rest, rfl, later⟩ := Program.runs_ask_bind_iff.1 ran
      cases answer with
      | ok found =>
        obtain ⟨rfl, rfl⟩ := Program.runs_pure_iff.1 later
        rfl
      | error f =>
        obtain ⟨rfl, rfl⟩ := Program.runs_pure_iff.1 later
        exact ⟨rfl, nofun⟩
    · intro trace r ran f
      obtain ⟨answer, rest, rfl, later⟩ := Program.runs_ask_bind_iff.1 ran
      cases answer with
      | ok found =>
        obtain ⟨rfl, rfl⟩ := Program.runs_pure_iff.1 later
        refine iff_of_false (fun ⟨id, mem⟩ => ?_) nofun
        cases List.mem_singleton.1 mem
      | error f' =>
        obtain ⟨rfl, rfl⟩ := Program.runs_pure_iff.1 later
        constructor
        · rintro ⟨id, mem⟩
          cases List.mem_singleton.1 mem
          rfl
        · rintro ⟨⟩
          exact ⟨id, List.mem_singleton_self _⟩
  refine looked.bind fun found => ?_
  cases found with
  | some mapping => exact value mapping
  | none => exact reject rfl

theorem buildRequest (mapping : EvaluationMapping) (step : Step) (comment : String)
    (requestedBy : EmployeeId) :
    Prepares (Work.perform (buildRequest mapping step comment requestedBy) :
      WorkflowWork RevisionRequest).run :=
  perform ⟨trivial, fun _ => ⟨trivial, fun _ => trivial⟩⟩

theorem checkRecipients (mapping : EvaluationMapping) (step : Step) (named : List Recipient) :
    Prepares (Work.ofCheck (checkRecipients mapping step named) :
      WorkflowWork (List Recipient)).run :=
  check fun _ failed => isApplication_of_checkRecipients failed

/-- The preparation of every call. -/
theorem prepare (c : Call) : Prepares c.prepare.run := by
  cases c with
  | setStepStatus change =>
    refine bind (check fun _ failed => isApplication_of_changeComment failed) fun comment =>
      bind (requireMapping _) fun mapping => ?_
    cases comment with
    | none => exact value _
    | some comment =>
      exact bind (checkRecipients _ _ _) fun _ => bind (buildRequest _ _ _ _) fun _ => value _
  | createRequest new =>
    refine bind (check fun _ failed => isApplication_of_checkComment failed) fun _ => ?_
    refine bind (requireMapping _) fun _ => bind (checkRecipients _ _ _) fun _ => ?_
    exact bind (buildRequest _ _ _ _) fun _ => value _
  | _ => exact value ()

end Prepares

/-! ## Calls -/

theorem Outward.away {request : Request WorkflowEvent} (outward : Outward request) :
    Away request := by
  cases request with
  | signal | deliver => trivial
  | _ => exact outward.elim

/-- A job looks nothing up. -/
theorem action_looks_nothing_up (s : Service) (c : Call) (plan : c.Plan) :
    (c.job s plan).action.Within (fun request => ∀ id, request ≠ .findMapping id)
      fun _ => True := by
  have outward : ∀ request : Request WorkflowEvent, Outward request →
      ∀ id, request ≠ .findMapping id := by
    rintro _ outward id rfl
    exact outward
  have work : (c.job s plan).work.run.Within (fun request => ∀ id, request ≠ .findMapping id)
      fun _ => True := by
    refine (Plain.work s c plan).mono ?_ fun _ _ => trivial
    rintro _ ⟨local_, -⟩ id rfl
    exact local_
  have body : (c.job s plan).body.Within (fun request => ∀ id, request ≠ .findMapping id)
      fun _ => True := by
    cases readOnly : (c.job s plan).options.readOnly with
    | false =>
      rw [body_of_writes readOnly]
      exact work
    | true =>
      rw [body_of_reads readOnly]
      refine ⟨nofun, fun answer => ?_⟩
      cases answer with
      | ok u => exact work
      | error f => trivial
  have carries : Carries fun p : Action WorkflowEvent (Except WorkflowError c.Value) =>
      p.Within (fun request => ∀ id, request ≠ .findMapping id) fun _ => True := by
    rintro request next frames rest
    refine ⟨?_, rest⟩
    rintro id rfl
    exact frames
  have rule : (c.job s plan).Rule
      (·.Within (fun request => ∀ id, request ≠ .findMapping id) fun _ => True) :=
    { carries
      failed := fun _ => trivial
      body := fun _ _ fails => body.bind fun _ _ => carries.afterBody fails fun b _ =>
        (outward_conclude s c plan (.ok b)).mono outward fun _ _ => trivial }
  exact rule.action

/-- What a call returns, by the failure that ended it. -/
inductive Reported {α : Type} (trace : Transcript WorkflowEvent) : Except WorkflowError α → Prop
  /-- A mapping could not be looked up. -/
  | unlooked {f : Failure} (failed : ∀ f', LookupFailed trace f' ↔ f' = f)
    (ended : endedBy trace = some f) : Reported trace (.error (.storage f))
  /-- The result says which failure ended the transaction, if one did. -/
  | judged {r : Except WorkflowError α} (found : ∀ f, ¬ LookupFailed trace f) (context : String)
    (judged : Judged Forthright.Rejected context (endedBy trace) r) : Reported trace r

theorem reported_of_runs {s : Service} {c : Call} {trace : Transcript WorkflowEvent}
    {r : Except WorkflowError c.Value} (ran : (c.action s).run.Runs trace r) :
    Reported trace r := by
  rw [Call.action_eq] at ran
  obtain ⟨first, plan, second, rfl, prepared, later⟩ := Program.runs_bind_iff.1 ran
  obtain ⟨handsOn, looks⟩ := Prepares.prepare c
  have tells := handsOn first plan prepared
  cases plan with
  | error e =>
    obtain ⟨rfl, rfl⟩ := Program.runs_pure_iff.1 later
    rw [List.append_nil]
    obtain ⟨stands, as⟩ := tells
    cases failed : WorkError.failure? e with
    | some f =>
      obtain rfl := eq_storage_of_failure? failed
      refine .unlooked (fun f' => (looks first _ prepared f').trans ?_) (stands.symm.trans failed)
      simp [eq_comm]
    | none =>
      have ended : endedBy first = none := stands.symm.trans failed
      refine .judged (fun f looked => ?_) "" ?_
      · cases (looks first _ prepared f).1 looked
        cases failed
      · rw [ended]
        exact .handedBack (as ended)
  | ok plan =>
    have found : ∀ f, ¬ LookupFailed (first ++ second) f := by
      rintro f ⟨id, mem⟩
      rcases List.mem_append.1 mem with mem | mem
      · cases (looks first _ prepared f).1 ⟨id, mem⟩
      · exact ((action_looks_nothing_up s c plan).of_runs later).1 _ mem id rfl
    refine .judged found (c.job s plan).context ?_
    obtain ⟨rest, rfl, attempted⟩ := runs_signal later
    obtain ⟨tried, outcome, last, rfl, did, ends⟩ := Program.runs_bind_iff.1 attempted
    obtain ⟨undecided, -, rfl⟩ := undecided_of_within (((outward_conclude s c plan outcome).mono
      (fun _ outward => (Outward.away outward).undecided) fun _ h => h).and
        (within_conclude s c plan outcome)) ends
    have ended : endedBy (first ++ sent (.count "transactions_total" []) :: (tried ++ last)) =
        endedBy tried := by
      rw [endedBy_append_of_none tells, ← List.singleton_append, ← List.append_assoc,
        endedBy_append_of_undecided undecided]
      exact endedBy_append_of_none rfl
    rw [ended]
    have judged := judged_of_runs (Forthright.work s c plan).handsOn did
    generalize endedBy tried = failure at judged ⊢
    cases judged with
    | value v => exact .value _
    | handedBack as => exact .handedBack as
    | gaveUp f number => exact .gaveUp f number

/-- An error of the application is no fault of the server. -/
theorem statusCode_of_application {e : WorkflowError} (as : isApplication e = true) :
    e.statusCode ≠ 503 ∧ e.statusCode ≠ 500 := by
  cases e with
  | storage f | transaction t => cases as
  | _ => simp [WorkflowError.statusCode]

/-- Whatever the store and the others answer, a call ends with a raw failure of the store just if it
could not look a mapping up.  Every other failure that ends it is judged: the error carries the kind
of the failure, and its status code says whether a later try may help. -/
theorem errors_of_failures {σ : Type} (s : Service) (c : Call)
    (answer : (request : Request WorkflowEvent) → σ → request.Answer × σ) (start : σ) :
    let ran := Program.record answer (c.action s).run start
    (∀ f, ran.2 = .error (.storage f) ↔ LookupFailed ran.1 f) ∧
      (∀ f, endedBy ran.1 = some f → ¬ LookupFailed ran.1 f →
        ∃ t, ran.2 = .error (.transaction t) ∧ t.source = f ∧ t.kind = f.kind) ∧
      (endedBy ran.1 = none → counts ran.2 = true) ∧
      ∀ e, ran.2 = .error e →
        (e.statusCode = 503 ↔
          ∃ f, endedBy ran.1 = some f ∧ ¬ LookupFailed ran.1 f ∧ f.kind.isRetryable = true) ∧
        (e.statusCode = 500 ↔
          ∃ f, endedBy ran.1 = some f ∧ (LookupFailed ran.1 f ∨ f.kind.isRetryable = false)) := by
  intro ran
  have reported : Reported ran.1 ran.2 := reported_of_runs (Program.runs_record answer _ start)
  generalize ran.1 = trace at reported
  generalize ran.2 = r at reported
  cases reported with
  | @unlooked f failed ended =>
    rw [ended]
    refine ⟨fun f' => ?_, ?_, ?_, ?_⟩
    · simp [failed f', eq_comm]
    · rintro f' ⟨⟩ found
      exact absurd ((failed f).2 rfl) found
    · rintro ⟨⟩
    · rintro e ⟨⟩
      refine ⟨iff_of_false (by simp [WorkflowError.statusCode]) ?_,
        iff_of_true rfl ⟨f, rfl, .inl ((failed f).2 rfl)⟩⟩
      rintro ⟨f', ⟨⟩, found, -⟩
      exact found ((failed f).2 rfl)
  | judged found context judged =>
    generalize endedBy trace = failure at judged
    cases judged with
    | value v =>
      refine ⟨fun f => iff_of_false ?_ (found f), ?_, fun _ => rfl, ?_⟩
      · rintro ⟨⟩
      · rintro f ⟨⟩
      · rintro e ⟨⟩
    | @handedBack e as =>
      refine ⟨fun f => iff_of_false ?_ (found f), ?_, fun _ => as, ?_⟩
      · rintro ⟨⟩
        cases as
      · rintro f ⟨⟩
      · rintro e ⟨⟩
        simp [statusCode_of_application as]
    | gaveUp f number =>
      refine ⟨fun f' => iff_of_false ?_ (found f'), ?_, ?_, ?_⟩
      · rintro ⟨⟩
      · rintro f' ⟨⟩ -
        exact ⟨_, rfl, rfl, rfl⟩
      · rintro ⟨⟩
      · rintro e ⟨⟩
        have status : (WorkError.ofTransaction ⟨f.kind, f, context, number⟩ :
            WorkflowError).statusCode = if f.kind.isRetryable then 503 else 500 := rfl
        rw [status]
        cases retryable : f.kind.isRetryable <;> simp [retryable, found f]

/-- The store answers every request with one failure. -/
def failing (f : Failure) (w : Outside) (request : Request WorkflowEvent) (_ : Unit) :
    request.Answer × Unit :=
  match request with
  | .openSession => (.error f, ())
  | .session _ => (.error f, ())
  | .findMapping _ => (.error f, ())
  | .now => (w.now, ())
  | .draw => (w.bits, ())
  | .sleep _ => ((), ())
  | .signal _ => ((), ())
  | .deliver _ _ => (w.reaction, ())

/-- A change of status ends with the raw failure to look its mapping up.  It is answered with 500,
although the failure is of a kind that may pass. -/
theorem deadlock_not_judged :
    let deadlock := Failure.rejected "40P01" "deadlock detected"
    let ran := Program.record (failing deadlock ⟨default, default, .ok ()⟩)
      ((Call.setStepStatus ⟨default, .criteria, .approved, default, none, []⟩).action
        ⟨default, default⟩).run ()
    ran.2 = .error (.storage deadlock) ∧ deadlock.kind.isRetryable = true ∧
      (WorkflowError.storage deadlock).statusCode = 500 :=
  ⟨rfl, by decide, rfl⟩

end Appraisal.Workflow
