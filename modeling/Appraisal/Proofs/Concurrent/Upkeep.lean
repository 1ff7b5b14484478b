import Appraisal.Proofs.Concurrent.Permanence
import Appraisal.Proofs.Memory.Calls
import Appraisal.Proofs.Workflow.Rule

/-!
# Rows that agree with themselves

Whatever calls of the workflow run on a store that starts empty, and whatever else happens, the
committed tables have every row under its key, and what the row of a recipient says of being read
and completed agrees (`Tables.Made.kept`).  Nothing is assumed of the clock.

*Programs.*  A call that loads only rows that agree stores only such rows (`cares_call`).

*Systems.*  So the rows agree in the committed tables, in the copies that transactions work on and
in their savepoints (`System.Kept`), because every row there was stored by a call.
-/

namespace Appraisal.Memory

open Workflow Program

/-! ## Rows -/

/-- What the row of a recipient says of being read and completed agrees. -/
def Row.Marked : Row → Prop
  | .recipient row => row.Marked
  | .approval _ | .request _ => True

/-- Every row stands under its key and agrees with itself. -/
def Tables.Kept (t : Tables) : Prop := ∀ k r, t.row k = some r → r.key = k ∧ r.Marked

namespace Tables.Kept

variable {t : Tables}

theorem keyed (h : t.Kept) : t.Keyed := fun k r found => (h k r found).1

theorem marked (h : t.Kept) : t.Marked := fun requestId recipientId row found =>
  (h _ _ ((row_recipient t requestId recipientId row).2 found)).2

theorem put (h : t.Kept) {r : Row} (marked : r.Marked) : (t.put r).Kept := by
  intro k r' found
  rw [Tables.row_put] at found
  split at found
  · rename_i own
    cases found
    exact ⟨own.symm, marked⟩
  · exact h k r' found

theorem publish {committed : Tables} (own : t.Kept) (h : committed.Kept) (keys : List RowKey) :
    (committed.publish t keys).Kept := by
  intro k r found
  rw [Tables.row_publish] at found
  split at found
  · exact own k r found
  · exact h k r found

theorem default : (default : Tables).Kept := by
  intro k r found
  cases k <;> cases found

end Tables.Kept

/-! ## Programs -/

/-- The answer tells of no row that disagrees with itself. -/
def Truthful : (request : Request WorkflowEvent) → request.Answer → Prop
  | .session (.store (.findRecipient _ _)), .ok (some row) => row.Marked
  | _, _ => True

/-- The request stores no row that disagrees with itself. -/
def Careful : Request WorkflowEvent → Prop
  | .session (.store (.insertRecipient row)) => row.Marked
  | .session (.store (.updateRecipient row)) => row.Marked
  | _ => True

/-- As long as it is answered truthfully, the work is careful, and it ends with an error or with a
value as described. -/
def Cares {α : Type} (post : α → Prop) (work : WorkflowWork α) : Prop :=
  work.run.Under Truthful Careful fun r => ∀ a, r = .ok a → post a

namespace Cares

variable {α β : Type} {post : α → Prop} {after : β → Prop}

theorem bind {work : WorkflowWork α} {f : α → WorkflowWork β} (h : Cares post work)
    (hf : ∀ a, post a → Cares after (f a)) : Cares after (work >>= f) :=
  Under.bind h fun r ended => match r with
    | .ok a => hf a (ended a rfl)
    | .error _ => fun _ same => nomatch same

theorem pure {a : α} (h : post a) : Cares post (Pure.pure a) := by
  rintro _ ⟨⟩
  exact h

theorem throw (e : WorkflowError) : Cares post (throw e) := nofun

theorem now : Cares (fun _ => True) (Work.perform Action.now) :=
  ⟨trivial, fun _ _ _ _ => trivial⟩

theorem log (level : LogLevel) (message : String) (fields : List (String × LogValue)) :
    Cares (fun _ => True) (Work.perform (Action.log level message fields)) :=
  ⟨trivial, fun _ _ _ _ => trivial⟩

theorem store {call : StoreCall} (careful : Careful (.session (.store call))) :
    Cares (fun _ => True) (Work.store call) := by
  refine ⟨careful, fun answer _ => ?_⟩
  cases answer with
  | error f => exact nofun
  | ok a => exact fun _ _ => trivial

theorem insertRows (requestId : RevisionRequestId) (recipients : List Recipient) :
    Cares (fun _ => True) (insertRows requestId recipients) := by
  induction recipients with
  | nil => exact pure trivial
  | cons r recipients ih =>
    exact (store (by exact marked_fresh requestId r.id r.role)).bind fun _ _ =>
      ih.bind fun _ _ => pure trivial

theorem createIn (request : RevisionRequest) (recipients : List Recipient) :
    Cares (fun _ => True) (createIn request recipients) :=
  (store (by trivial)).bind fun _ _ => (insertRows _ _).bind fun _ _ =>
    (log _ _ _).bind fun _ _ => pure trivial

theorem loadRow (requestId : RevisionRequestId) (recipientId : EmployeeId) :
    Cares RecipientRow.Marked (loadRow requestId recipientId) := by
  refine (store (by trivial)).bind fun request _ => ?_
  cases request with
  | none => exact throw _
  | some request =>
    refine ⟨trivial, fun answer truthful => ?_⟩
    cases answer with
    | error f => exact throw _
    | ok row =>
      cases row with
      | none => exact throw _
      | some row => exact pure truthful

theorem markReadIn (requestId : RevisionRequestId) (recipientId : EmployeeId) :
    Cares (fun _ => True) (markReadIn requestId recipientId) := by
  refine (loadRow _ _).bind fun row marked => now.bind fun at_ _ => ?_
  split
  · exact pure trivial
  · refine (store (by exact RowUpdate.marked_apply marked .read at_)).bind fun taken _ => ?_
    cases taken with
    | true => exact pure trivial
    | false => exact (loadRow _ _).bind fun _ _ => pure trivial

theorem completeIn (requestId : RevisionRequestId) (recipientId : EmployeeId) (comment : String) :
    Cares (fun _ => True) (completeIn requestId recipientId comment) := by
  refine (loadRow _ _).bind fun row marked => ?_
  split
  · exact throw _
  · refine now.bind fun at_ _ => ?_
    have careful : Careful (.session (.store (.updateRecipient (row.complete comment at_)))) :=
      RowUpdate.marked_apply marked (.complete comment) at_
    refine (store careful).bind fun taken _ => ?_
    cases taken with
    | true => exact pure trivial
    | false => exact throw _

theorem applyChange (change : StepStatusChange) (revision : Option PreparedRevision) :
    Cares (fun _ => True) (applyChange change revision) := by
  refine now.bind fun at_ _ => (store (by trivial)).bind fun stored _ => ?_
  dsimp only
  split
  · exact (log _ _ _).bind fun _ _ => pure trivial
  · have requests : Cares (fun _ => True) (requestRevision revision) := by
      cases revision with
      | none => exact pure trivial
      | some p => exact (createIn _ _).bind fun _ _ => pure trivial
    exact (store (by trivial)).bind fun _ _ => requests.bind fun _ _ => pure trivial

theorem loadDetail (requestId : RevisionRequestId) :
    Cares (fun _ => True) (loadDetail requestId) := by
  refine (store (by trivial)).bind fun request _ => ?_
  cases request with
  | none => exact throw _
  | some request => exact (store (by trivial)).bind fun _ _ => pure trivial

/-- The work of a call. -/
theorem work (s : Service) (c : Call) (plan : c.Plan) :
    Cares (fun _ => True) (c.job s plan).work := by
  cases c with
  | setStepStatus change => exact applyChange change plan
  | createRequest new => exact (createIn _ _).bind fun _ _ => pure trivial
  | markRead requestId recipientId => exact markReadIn requestId recipientId
  | submitCompletion requestId recipientId comment =>
    exact completeIn requestId recipientId comment
  | getRequest requestId => exact loadDetail requestId
  | listForRecipient | countUnread | getRecord => exact store (by trivial)

end Cares

/-- Requests that are careful whatever the answers. -/
theorem under_of_within {α : Type} {p : Action WorkflowEvent α}
    {allowed : Request WorkflowEvent → Prop} (h : p.Within allowed fun _ => True)
    (careful : ∀ request, allowed request → Careful request) :
    p.Under Truthful Careful fun _ => True :=
  (h.mono careful fun _ h => h).under

theorem careful_of_frames {request : Request WorkflowEvent} (frames : Frames request) :
    Careful request := by
  cases request with
  | session call =>
    cases call with
    | store => exact frames.elim
    | _ => trivial
  | _ => trivial

/-- A call that is answered truthfully is careful. -/
theorem careful_call (s : Service) (c : Call) :
    (c.action s).run.Under Truthful Careful fun _ => True := by
  have carries : Carries fun p : Action WorkflowEvent (Except WorkflowError c.Value) =>
      p.Under Truthful Careful fun _ => True :=
    fun _ _ frames later => ⟨careful_of_frames frames, fun answer _ => later answer⟩
  have prepares : c.prepare.run.Under Truthful Careful fun _ => True :=
    under_of_within (preliminary_prepare c) fun request asked => by
      cases request with
      | session => exact asked.elim
      | _ => trivial
  have body : ∀ plan, (c.job s plan).body.Under Truthful Careful fun _ => True := by
    intro plan
    have work := (Cares.work s c plan).mono fun _ _ => trivial
    cases readOnly : (c.job s plan).options.readOnly with
    | false =>
      rw [body_of_writes readOnly]
      exact work
    | true =>
      rw [body_of_reads readOnly]
      refine ⟨trivial, fun answer _ => ?_⟩
      cases answer with
      | ok u => exact work
      | error f => trivial
  have concludes : ∀ plan outcome,
      ((c.job s plan).conclude outcome).Under Truthful Careful fun _ => True := fun plan outcome =>
    under_of_within (outward_conclude s c plan outcome) fun request outward => by
      cases request with
      | session => exact outward.elim
      | _ => trivial
  rw [Call.action_eq]
  refine prepares.bind fun outcome _ => ?_
  cases outcome with
  | error e => trivial
  | ok plan =>
    have rule : (c.job s plan).Rule (·.Under Truthful Careful fun _ => True) :=
      { carries
        failed := fun _ => trivial
        body := fun left number fails => (body plan).bind fun outcome _ =>
          carries.afterBody fails fun b _ => concludes plan (.ok b) }
    exact rule.action

/-! ## Systems -/

/-- A session whose tables agree is answered truthfully. -/
theorem truthful_answer {store : Store} {s : Session} (h : s.Holding Tables.Kept) (w : Outside)
    (request : Request WorkflowEvent) : Truthful request (w.answer store s request).1 := by
  cases request with
  | session call =>
    cases call with
    | store call =>
      cases call with
      | findRecipient requestId recipientId =>
        show Truthful (.session (.store (.findRecipient requestId recipientId)))
          (s.tables.map fun t => t.recipients.get? (requestId, recipientId))
        rw [Session.tables]
        cases working : s.working with
        | none => trivial
        | some t =>
          dsimp only [Except.map]
          cases found : t.tables.recipients.get? (requestId, recipientId) with
          | none => trivial
          | some row => exact (h.working t working).marked requestId recipientId row found
      | _ => trivial
    | _ => trivial
  | _ => trivial

/-- A careful request stores a row that agrees with itself. -/
theorem marked_of_careful {call : StoreCall} (careful : Careful (.session (.store call)))
    {answer : Except Failure call.Value} {r : Row} (stored : storedRow call answer = some r) :
    r.Marked := by
  cases answer with
  | error f => cases call <;> cases stored
  | ok a =>
    cases call with
    | saveApproval | insertRequest =>
      cases stored
      trivial
    | insertRecipient row =>
      cases stored
      exact careful
    | updateRecipient row =>
      cases a with
      | false => cases stored
      | true =>
        cases stored
        exact careful
    | _ => cases stored

namespace System

variable {ι : Type} [DecidableEq ι] {calls : ι → Call} {sys : System calls}

/-- Every row that is committed, in a transaction or in a savepoint stands under its key and agrees
with itself, and no call will store another. -/
structure Kept (sys : System calls) : Prop where
  committed : sys.store.committed.Kept
  sessions : ∀ i, (sys.clients i).progress.session.Holding Tables.Kept
  programs : ∀ i, (sys.clients i).rest.Under Truthful Careful fun _ => True

omit [DecidableEq ι] in
theorem kept_start (service : ι → Service) (calls : ι → Call) :
    (start service calls default).Kept where
  committed := .default
  sessions _ := Session.holding_of_closed rfl rfl
  programs i := careful_call (service i) (calls i)

theorem Kept.turn (h : sys.Kept) (i : ι) (w : Outside) : (sys.step (.turn i w)).Kept := by
  cases rest : (sys.clients i).rest with
  | pure r =>
    rw [step_of_returned w rest]
    exact h
  | call request next =>
    rw [step_turn w rest]
    let s := (sys.clients i).progress.session
    have program := h.programs i
    rw [rest] at program
    obtain ⟨careful, later⟩ := program
    have session : (w.answer sys.store s request).2.2.Holding Tables.Kept := by
      cases request with
      | session call =>
        refine (h.sessions i).answer h.committed call fun c t r same _ stored kept => ?_
        subst same
        exact kept.put (marked_of_careful careful stored)
      | openSession => exact Session.holding_of_closed rfl rfl
      | _ => exact h.sessions i
    have committed : (w.answer sys.store s request).2.1.committed.Kept := by
      cases request with
      | session call =>
        show (sys.store.answer s call).2.1.committed.Kept
        rcases sys.store.committed_answer_cases s call with same | ⟨-, t, working, -, -, after⟩
        · rw [same]
          exact h.committed
        · rw [after]
          exact ((h.sessions i).working t working).publish h.committed _
      | _ => exact h.committed
    refine ⟨committed, ?_, ?_⟩
    · let held (j : ι) (c : Client (calls j).Value) := c.progress.session.Holding Tables.Kept
      exact (Function.forall_update_iff sys.clients held).2 ⟨session, fun j _ => h.sessions j⟩
    · let careful (j : ι) (c : Client (calls j).Value) := c.rest.Under Truthful Careful fun _ => True
      exact (Function.forall_update_iff sys.clients careful).2
        ⟨later _ (truthful_answer (h.sessions i) w request), fun j _ => h.programs j⟩

/-- Rows are kept whatever happens. -/
theorem Kept.undergoes (h : sys.Kept) (incidents : List (Incident ι)) :
    (sys.undergoes incidents).Kept := by
  induction incidents generalizing sys with
  | nil => exact h
  | cons incident incidents ih =>
    cases incident with
    | turn i w => exact ih (h.turn i w)
    | plan faults => exact ih ⟨h.committed, h.sessions, h.programs⟩
    | register mapping => exact ih ⟨h.committed, h.sessions, h.programs⟩

end System

/-- The tables are what calls of the workflow have made of empty ones, while mappings were
registered and failures planned. -/
def Tables.Made (t : Tables) : Prop :=
  ∃ (service : Nat → Service) (calls : Nat → Call) (incidents : List (Incident Nat)),
    ((System.start service calls default).undergoes incidents).store.committed = t

theorem Tables.Made.kept {t : Tables} (h : t.Made) : t.Kept := by
  obtain ⟨service, calls, incidents, rfl⟩ := h
  exact ((System.kept_start service calls).undergoes incidents).committed

end Appraisal.Memory
