import Appraisal.Proofs.Transaction.Rounds

/-!
# The failure that ends a run

Requests to the store decide how a run goes on.  Clean-ups decide nothing, and neither does what is
asked of the clock, of handlers or of the log.  A run is *ended by* a failure if the last request
that decides something failed with it (`endedBy`).

Work *hands on* failures if its outcome is the failure that ended it: no failure is passed over, and
none is made up.  If the work of a transaction hands on failures, then so does every attempt
(`handsOn_attempt`), and the run comes to an error that carries the kind of the failure that ended
it (`judged_of_runs`).
-/

namespace Appraisal.Coordinator

variable {ε E α β : Type}

/-! ## What decides -/

/-- How a run goes on depends on the answer: the request goes to the store and does not clean up. -/
def Decides : Request ε → Prop
  | .openSession | .findMapping _ => True
  | .session call => cleanup? call = none
  | _ => False

/-- The failure that was answered, if there is one. -/
def failed? {β : Type} : Except Failure β → Option Failure
  | .ok _ => none
  | .error f => some f

/-- The failure with which a request that decides something was answered, or none. -/
def decision? : Program.Answered (Request.Answer (ε := ε)) → Option (Option Failure)
  | ⟨.openSession, answer⟩ => some (failed? (β := Unit) answer)
  | ⟨.findMapping _, answer⟩ => some (failed? (β := Option EvaluationMapping) answer)
  | ⟨.session call, answer⟩ =>
    if cleanup? call = none then some (failed? (β := call.Value) answer) else none
  | _ => none

/-- The answers that decided something. -/
def decisions (trace : Transcript ε) : List (Option Failure) := trace.filterMap decision?

/-- The failure that ended a run. -/
def endedBy (trace : Transcript ε) : Option Failure := (decisions trace).getLast?.join

variable {first second trace : Transcript ε}

theorem decisions_append :
    decisions (first ++ second) = decisions first ++ decisions second :=
  List.filterMap_append

theorem endedBy_append_of_undecided (undecided : decisions second = []) :
    endedBy (first ++ second) = endedBy first := by
  rw [endedBy, decisions_append, undecided, List.append_nil, endedBy]

theorem endedBy_append_of_decided (decided : decisions second ≠ []) :
    endedBy (first ++ second) = endedBy second := by
  rw [endedBy, decisions_append, List.getLast?_append_of_ne_nil _ decided, endedBy]

/-- What comes after a part that no failure ended is what counts. -/
theorem endedBy_append_of_none (none : endedBy first = none) :
    endedBy (first ++ second) = endedBy second := by
  by_cases undecided : decisions second = []
  · rw [endedBy_append_of_undecided undecided, none, endedBy, undecided]
    rfl
  · exact endedBy_append_of_decided undecided

/-- A program that asks for nothing that decides. -/
theorem undecided_of_within {p : Action ε α} {post : α → Prop} {a : α}
    (bound : p.Within (fun request => ¬ Decides request) post) (ran : p.Runs trace a) :
    decisions trace = [] ∧ post a := by
  obtain ⟨all, ends⟩ := bound.of_runs ran
  refine ⟨List.filterMap_eq_nil_iff.2 fun asked mem => ?_, ends⟩
  obtain ⟨request, answer⟩ := asked
  have undecided := all _ mem
  cases request with
  | openSession | findMapping id => exact absurd trivial undecided
  | session call => exact if_neg undecided
  | _ => rfl

/-! ## Work that hands on failures -/

variable [WorkError E]

/-- The outcome tells which failure ended the run.  An error that stands for no failure is as
described. -/
def Tells (final : E → Prop) (ended : Option Failure) : Except E α → Prop
  | .ok _ => ended = none
  | .error e => WorkError.failure? e = ended ∧ (ended = none → final e)

/-- Whatever is answered, the program ends with the failure that ended it. -/
def HandsOn (final : E → Prop) (p : Action ε (Except E α)) : Prop :=
  ∀ trace r, p.Runs trace r → Tells final (endedBy trace) r

/-- Nothing is decided any more, and the program ends with a failure. -/
def Quits (f : Failure) (p : Action ε (Except E α)) : Prop :=
  p.Within (fun request => ¬ Decides request) fun r => ∃ e, r = .error e ∧
    WorkError.failure? e = some f

section

variable {final : E → Prop} {f : Failure}

theorem quits_failure (f : Failure) :
    Quits f (pure (.error (ofFailure f)) : Action ε (Except E α)) :=
  ⟨_, rfl, WorkError.failure?_ofFailure f⟩

theorem Quits.tells (final : E → Prop) {p : Action ε (Except E α)} (h : Quits f p)
    {r : Except E α} (ran : p.Runs trace r) : decisions trace = [] ∧ Tells final (some f) r := by
  obtain ⟨undecided, e, rfl, stands⟩ := undecided_of_within h ran
  exact ⟨undecided, stands, nofun⟩

namespace HandsOn

theorem ok (a : α) : HandsOn final (pure (.ok a) : Action ε (Except E α)) := by
  intro trace r ran
  obtain ⟨rfl, rfl⟩ := Program.runs_pure_iff.1 ran
  rfl

theorem error {e : E} (stands : WorkError.failure? e = none) (as : final e) :
    HandsOn final (pure (.error e) : Action ε (Except E α)) := by
  intro trace r ran
  obtain ⟨rfl, rfl⟩ := Program.runs_pure_iff.1 ran
  exact ⟨stands, fun _ => as⟩

/-- A call on the session: if it fails, the program must end with its failure. -/
theorem session {call : SessionCall} {next : call.Answer → Action ε (Except E α)}
    (decides : cleanup? call = none) (fails : ∀ f, Quits f (next (.error f)))
    (goes : ∀ v, HandsOn final (next (.ok v))) :
    HandsOn final (Action.session call >>= next) := by
  intro trace r ran
  obtain ⟨answer, rest, rfl, later⟩ := Program.runs_ask_bind_iff.1 ran
  have decision : ∀ {rest : Transcript ε}, decisions (⟨.session call, answer⟩ :: rest) =
      failed? (β := call.Value) answer :: decisions rest :=
    List.filterMap_cons_some (if_pos decides)
  cases answer with
  | error f =>
    obtain ⟨undecided, tells⟩ := (fails f).tells final later
    rwa [endedBy, decision, undecided]
  | ok v =>
    have none : endedBy [(⟨.session call, .ok v⟩ : Program.Answered (Request.Answer (ε := ε)))] =
        none := by
      rw [endedBy, decision]
      rfl
    have tells := goes v rest r later
    rwa [← endedBy_append_of_none none] at tells

/-- Programs in a row, the second of which goes on from a value of the first. -/
theorem bind {p : Action ε (Except E α)} {k : Except E α → Action ε (Except E β)}
    (h : HandsOn final p) (fails : ∀ e, (k (.error e)).Within (fun request => ¬ Decides request)
      fun r => r = .error e) (goes : ∀ a, HandsOn final (k (.ok a))) :
    HandsOn final (p >>= k) := by
  intro trace r ran
  obtain ⟨first, outcome, second, rfl, did, later⟩ := Program.runs_bind_iff.1 ran
  have tells := h first outcome did
  cases outcome with
  | ok a =>
    rw [endedBy_append_of_none tells]
    exact goes a second r later
  | error e =>
    obtain ⟨undecided, rfl⟩ := undecided_of_within (fails e) later
    rw [endedBy_append_of_undecided undecided]
    exact tells

/-- What follows only cleans up. -/
theorem cleaned {p : Action ε (Except E α)} {cleanUp : Action ε Unit} (h : HandsOn final p)
    (cleans : cleanUp.Within (fun request => ¬ Decides request) fun _ => True) :
    HandsOn final (p >>= fun outcome => cleanUp >>= fun _ => pure outcome) := by
  intro trace r ran
  obtain ⟨first, outcome, second, rfl, did, later⟩ := Program.runs_bind_iff.1 ran
  have ends : (cleanUp >>= fun _ => pure outcome : Action ε (Except E α)).Within
      (fun request => ¬ Decides request) fun r => r = outcome := cleans.bind fun _ _ => rfl
  obtain ⟨undecided, rfl⟩ := undecided_of_within ends later
  rw [endedBy_append_of_undecided undecided]
  exact h first r did

theorem work_bind {work : Work ε E α} {k : α → Work ε E β} (h : HandsOn final work.run)
    (goes : ∀ a, HandsOn final (k a).run) : HandsOn final (work >>= k).run :=
  h.bind (fun _ => rfl) goes

end HandsOn

/-! ## Attempts -/

variable {c : Coordinator} {context : String} {o : TransactionOptions} {work : Work ε E α}

/-- A clean-up and its report. -/
theorem undecided_cleanUp {stage : CleanupStage} {action : Action ε (Except Failure Unit)}
    (cleans : action.Within (fun request => ¬ Decides request) fun _ => True) :
    (c.cleanUp context stage action).Within (fun request => ¬ Decides request) fun _ => True := by
  refine cleans.bind fun answer _ => ?_
  cases answer with
  | ok u => trivial
  | error f => exact ⟨id, fun _ => trivial⟩

theorem undecided_rollBack :
    (c.rollBack context : Action ε Unit).Within (fun request => ¬ Decides request) fun _ => True :=
  undecided_cleanUp ⟨nofun, fun _ => trivial⟩

theorem undecided_release :
    (c.cleanUp context .release (Action.session .release) : Action ε Unit).Within
      (fun request => ¬ Decides request) fun _ => True :=
  undecided_cleanUp ⟨nofun, fun _ => trivial⟩

theorem handsOn_inSavepoint {name : String} (h : HandsOn final work.run) :
    HandsOn final (c.inSavepoint context name work).run := by
  refine .session rfl quits_failure fun _ => h.bind (fun e => ?_) fun a => ?_
  · have cleans : (Action.session (.rollbackToSavepoint name) :
        Action ε (Except Failure Unit)).Within (fun request => ¬ Decides request) fun _ => True :=
      ⟨nofun, fun _ => trivial⟩
    exact (undecided_cleanUp cleans).bind fun _ _ => rfl
  · exact .session rfl quits_failure fun _ => .ok a

theorem handsOn_body (h : HandsOn final work.run) :
    HandsOn final (c.body context o work).run := by
  have saved : HandsOn final (c.inOptionalSavepoint context o work).run := by
    unfold inOptionalSavepoint
    split
    · exact handsOn_inSavepoint h
    · exact h
  unfold body
  split
  · exact .session rfl quits_failure fun _ => saved
  · exact saved

theorem handsOn_transaction (h : HandsOn final work.run) :
    HandsOn final (c.transaction context o work).run := by
  refine .session rfl quits_failure fun _ => (handsOn_body h).bind (fun e => ?_) fun a => ?_
  · exact undecided_rollBack.bind fun _ _ => rfl
  · refine .session rfl (fun f => ?_) fun _ => .ok a
    exact undecided_rollBack.bind fun _ _ => quits_failure f

/-- An attempt ends with the failure that ended it, and it decides something. -/
theorem handsOn_attempt (h : HandsOn final work.run) {r : Except E α}
    (ran : (c.attempt context o work).run.Runs trace r) :
    Tells final (endedBy trace) r ∧ decisions trace ≠ [] := by
  obtain ⟨opening, rest, rfl, later⟩ := Program.runs_ask_bind_iff.1 ran
  refine ⟨?_, List.cons_ne_nil _ _⟩
  cases opening with
  | error f =>
    obtain ⟨rfl, rfl⟩ := Program.runs_pure_iff.1 later
    exact ⟨WorkError.failure?_ofFailure f, nofun⟩
  | ok u =>
    have tells := (handsOn_transaction h).cleaned undecided_release rest r later
    have opened : endedBy [(⟨.openSession, .ok u⟩ : Program.Answered (Request.Answer (ε := ε)))] =
        none := rfl
    rwa [← endedBy_append_of_none opened] at tells

/-! ## Runs -/

theorem undecided_concluded {number : Nat} {last : Round ε E α} {r : Except E α}
    (concluded : Concluded context (c.settings.policyFor o) number last r) :
    decisions last.after = [] := by
  cases concluded with
  | value v came silent => rw [silent]; rfl
  | handedBack e came stands silent => rw [silent]; rfl
  | gaveUp f failed stops told => rw [told]; rfl

/-- What a run comes to, by the failure that ended it. -/
inductive Judged (final : E → Prop) (context : String) : Option Failure → Except E α → Prop
  /-- No failure ended it. -/
  | value (v : α) : Judged final context none (.ok v)
  /-- No failure ended it, and its work came to an error. -/
  | handedBack {e : E} (as : final e) : Judged final context none (.error e)
  /-- A failure ended it, and the error says so. -/
  | gaveUp (f : Failure) (number : Nat) :
    Judged final context (some f) (.error (WorkError.ofTransaction ⟨f.kind, f, context, number⟩))

/-- Attempts whose work hands on failures are judged by the failure that ended them. -/
theorem judged_of_runs (h : HandsOn final work.run) {r : Except E α}
    (ran : (c.attempts context o work (c.settings.policyFor o).maxRetries 1).run.Runs trace r) :
    Judged final context (endedBy trace) r := by
  obtain ⟨rounds, last, rfl, row⟩ := row_of_runs rfl ran
  obtain ⟨tells, decided⟩ := handsOn_attempt h (row.attempted last (by simp))
  have ended : endedBy ((rounds ++ [last]).flatMap (Round.transcript c.sink)) =
      endedBy (transcript c.sink last.moves) := by
    rw [List.flatMap_append, List.flatMap_singleton, endedBy_append_of_decided, Round.transcript,
      endedBy_append_of_undecided (undecided_concluded row.concluded)]
    rw [Round.transcript, decisions_append]
    exact fun none => decided (List.append_eq_nil_iff.1 none).1
  rw [ended]
  generalize endedBy (transcript c.sink last.moves) = failure at tells
  cases row.concluded with
  | value v came silent =>
    rw [came] at tells
    obtain rfl : failure = none := tells
    exact .value v
  | handedBack e came stands silent =>
    rw [came] at tells
    obtain ⟨same, as⟩ := tells
    obtain rfl : failure = none := same.symm.trans stands
    exact .handedBack (as rfl)
  | gaveUp f failed stops told =>
    rw [Round.failure?] at failed
    split at failed
    · cases failed
    · rename_i e came
      rw [came] at tells
      obtain rfl : failure = some f := tells.1.symm.trans failed
      exact .gaveUp f _

end

end Appraisal.Coordinator
