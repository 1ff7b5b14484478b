import Appraisal.Proofs.Concurrent.Settling
import Appraisal.Proofs.Workflow.Growth

/-!
# What calls commit

A call may find a different store in every turn, with other rows, mappings and failures.  Whatever
it finds, it only ever commits the rows of a deed, and the deed is dated between the begin of the
transaction and the commit (`keeps_call`).

`Keeps` says this of a program in any state, by recursion on what is left of it, for a clock that
does not go back.  It has a rule for programs in a row (`Keeps.bind`), one for stages that are calm
(`Keeps.of_calm`) and one for stages that all stores answer alike, which follow turns of their own
(`Keeps.of_follows`).  The lemmas take a call from its end to its start.
-/

namespace Appraisal.Memory

open Workflow

/-! ## Programs that keep to deeds -/

/-- Where a call stands: its session, and the tables that its last transaction began on and when. -/
structure Footing where
  session : Session
  base : Tables
  begun : Instant

/-- A transaction that begins takes its snapshot of the store that it finds. -/
def Footing.next (f : Footing) (w : Outside) (store : Store) (request : Request WorkflowEvent) :
    Footing :=
  let after := (w.answer store f.session request).2.2
  if Session.begins f.session after then ⟨after, store.committed, w.now⟩
  else { f with session := after }

/-- A commit that publishes anything publishes the rows of a deed. -/
def Footing.Ready (f : Footing) (now : Instant) : Request WorkflowEvent → Prop
  | .session .commit => f.session.readOnly = false → ∀ t, f.session.working = some t →
    ∃ rows, t = (Transaction.start f.base).putAll rows ∧ Timely f.base f.begun now rows
  | _ => True

/-- A store that a call may find in a turn. -/
structure Finds (f : Footing) (store : Store) : Prop where
  sound : f.session.Sound f.base
  mappings : ∀ id m, store.findMapping id = some m → m.id = id

/-- Whatever stores the program finds, it commits only deeds, and it ends as described. -/
def Keeps {α : Type} (post : α → Footing → Instant → Prop) :
    Action WorkflowEvent α → Footing → Instant → Prop
  | .pure a, f, now => post a f now
  | .call request next, f, now => f.Ready now request ∧
    ∀ w store, now ≤ w.now → Finds f store →
      Keeps post (next (w.answer store f.session request).1) (f.next w store request) w.now

/-- The request is calm, and all stores answer it alike. -/
def Steady (request : Request WorkflowEvent) : Prop :=
  Calm request ∧ ∀ (w : Outside) (store other : Store) (s : Session),
    (w.answer store s request).1 = (w.answer other s request).1 ∧
      (w.answer store s request).2.2 = (w.answer other s request).2.2

theorem Local.steady {request : Request WorkflowEvent} (h : Local request) : Steady request :=
  ⟨h.calm, h.answer⟩

theorem steady_setReadOnly : Steady (.session .setReadOnly) := by
  refine ⟨trivial, fun w store other s => ?_⟩
  simp only [Outside.answer, Store.answer, Store.setReadOnly]
  cases s.working <;> exact ⟨rfl, rfl⟩

theorem Footing.ready_of_calm {f : Footing} {now : Instant} {request : Request WorkflowEvent}
    (calm : Calm request) : f.Ready now request := by
  cases request with
  | session call =>
    cases call with
    | commit => exact calm.elim
    | _ => trivial
  | _ => trivial

theorem Footing.next_of_calm {f : Footing} {store : Store} (finds : Finds f store) (w : Outside)
    {request : Request WorkflowEvent} (calm : Calm request) :
    f.next w store request = { f with session := (w.answer store f.session request).2.2 } :=
  if_neg (by rw [begins_of_calm finds.sound w store calm]; exact Bool.false_ne_true)

section

variable {α β : Type} {f : Footing} {now : Instant}

theorem Keeps.mono {post post' : α → Footing → Instant → Prop} {p : Action WorkflowEvent α}
    (h : Keeps post p f now) (weaker : ∀ a f now, post a f now → post' a f now) :
    Keeps post' p f now := by
  induction p generalizing f now with
  | pure a => exact weaker a f now h
  | call request next ih => exact ⟨h.1, fun w store le finds => ih _ (h.2 w store le finds)⟩

theorem Keeps.bind {post : α → Footing → Instant → Prop} {post' : β → Footing → Instant → Prop}
    {p : Action WorkflowEvent α} {k : α → Action WorkflowEvent β} (h : Keeps post p f now)
    (rest : ∀ a f' now', post a f' now' → Keeps post' (k a) f' now') :
    Keeps post' (p >>= k) f now := by
  induction p generalizing f now with
  | pure a => exact rest a f now h
  | call request next ih => exact ⟨h.1, fun w store le finds => ih _ (h.2 w store le finds)⟩

/-- Work in a row: an error ends it. -/
theorem Keeps.work_bind {post : Except WorkflowError β → Footing → Instant → Prop}
    {work : WorkflowWork α} {k : α → WorkflowWork β}
    (h : Keeps (fun r f now => match r with
      | .ok a => Keeps post (k a).run f now
      | .error e => post (.error e) f now) work.run f now) :
    Keeps post (work >>= k).run f now :=
  h.bind fun r _ _ rest => match r with
    | .ok _ => rest
    | .error _ => rest

/-- A calm stage takes time and nothing else. -/
theorem Keeps.of_calm {p : Action WorkflowEvent α} {post : α → Prop}
    (calm : p.Within Calm post) (f : Footing) (now : Instant) :
    Keeps (fun a _ now' => post a ∧ now ≤ now') p f now := by
  have from_ : ∀ f later, now ≤ later → Keeps (fun a _ now' => post a ∧ now ≤ now') p f later := by
    induction p with
    | pure a => exact fun f later le => ⟨calm, le⟩
    | call request next ih =>
      exact fun f later le => ⟨Footing.ready_of_calm calm.1, fun w store le' finds =>
        ih _ (calm.2 _) _ _ (le.trans le')⟩
  exact from_ f now (le_refl now)

/-- A stage that all stores answer alike follows its turns, and the clock shows what it shows in
them. -/
theorem Keeps.of_follows {post : α → Footing → Instant → Prop} {p : Action WorkflowEvent α}
    (steady : p.Within Steady fun _ => True)
    (rest : ∀ turns a s' now', Follows default p f.session turns (pure a) s' → now ≤ now' →
      (∀ at_, ShownIn turns at_ → now ≤ at_ ∧ at_ ≤ now') →
        post a { f with session := s' } now') :
    Keeps post p f now := by
  induction p generalizing f now with
  | pure a =>
    exact rest [] a f.session now (.refl _ _) (le_refl now) fun at_ ⟨turn, mem, _⟩ =>
      absurd mem List.not_mem_nil
  | call request next ih =>
    obtain ⟨⟨calm, alike⟩, later⟩ := steady
    refine ⟨Footing.ready_of_calm calm, fun w store le finds => ?_⟩
    obtain ⟨answer, session⟩ := alike w store default f.session
    rw [Footing.next_of_calm finds w calm, answer, session]
    refine ih _ (later _) fun turns a s' now' follows le' shown => ?_
    refine rest (⟨request, w⟩ :: turns) a s' now' (.turn w calm follows) (le.trans le') ?_
    rintro at_ ⟨turn, mem, rfl⟩
    rcases List.mem_cons.1 mem with rfl | mem
    · exact ⟨le, le'⟩
    · obtain ⟨after, before⟩ := shown _ ⟨turn, mem, rfl⟩
      exact ⟨le.trans after, before⟩

end

/-! ## The preparation -/

/-- The plan of a call has what is asked for, with recipients, and was made before. -/
structure Fit (c : Call) (plan : c.Plan) (now : Instant) : Prop where
  suits : Suits c plan
  revision : ∀ p, revisionOf c plan = some p → p.recipients ≠ [] ∧ p.request.requestedAt ≤ now

section

variable {f : Footing} {now : Instant}

theorem keeps_requireMapping (id : MappingId) :
    Keeps (fun r _ _ => ∀ m, r = .ok m → m.id = id) (requireMapping id).run f now := by
  refine ⟨trivial, fun w store le finds => ?_⟩
  have named := finds.mappings id
  have answered : (w.answer store f.session (.findMapping id)).1 = .ok (store.findMapping id) := rfl
  rw [answered]
  cases found : store.findMapping id with
  | none => exact nofun
  | some m =>
    rintro m' ⟨⟩
    exact named m found

theorem keeps_buildRequest (mapping : EvaluationMapping) (step : Step) (comment : String)
    (by_ : EmployeeId) :
    Keeps (fun r _ now' => ∀ request, r = .ok request →
        request.mappingId = mapping.id ∧ request.step = step ∧ request.requestedAt ≤ now')
      (Work.perform (buildRequest mapping step comment by_) : WorkflowWork _).run f now := by
  refine ⟨trivial, fun _ _ _ _ => ⟨trivial, fun w _ _ _ => ?_⟩⟩
  rintro request ⟨⟩
  exact ⟨rfl, rfl, le_refl _⟩

theorem recipients_ne_nil {mapping : EvaluationMapping} {step : Step}
    {named recipients : List Recipient} (h : checkRecipients mapping step named = .ok recipients) :
    recipients ≠ [] := by
  rw [checkRecipients_eq] at h
  split at h
  · cases h
  · rename_i some
    cases h
    exact some

theorem keeps_prepareChange (change : StepStatusChange) :
    Keeps (fun r _ now' => ∀ plan, r = .ok plan → Fit (.setStepStatus change) plan now')
      (Call.prepareChange change).run f now := by
  refine Keeps.work_bind ?_
  cases commented : changeComment change with
  | error e => exact nofun
  | ok comment =>
    refine Keeps.work_bind ((keeps_requireMapping _).mono fun r f now named => ?_)
    cases r with
    | error e => exact nofun
    | ok mapping =>
      cases comment with
      | none =>
        rintro plan ⟨⟩
        exact ⟨fun asks => absurd ((isSome_of_changeComment commented).2 asks) Bool.false_ne_true,
          nofun⟩
      | some comment =>
        refine Keeps.work_bind ?_
        cases checked : checkRecipients mapping change.step change.recipients with
        | error e => exact nofun
        | ok recipients =>
          refine Keeps.work_bind ((keeps_buildRequest _ _ _ _).mono fun r f now built => ?_)
          cases r with
          | error e => exact nofun
          | ok request =>
            obtain ⟨about, step, before⟩ := built request rfl
            rintro plan ⟨⟩
            refine ⟨fun _ => ⟨_, rfl, about.trans (named mapping rfl), step⟩, ?_⟩
            rintro p ⟨⟩
            exact ⟨recipients_ne_nil checked, before⟩

theorem keeps_prepareRequest (new : NewRevisionRequest) :
    Keeps (fun r _ now' => ∀ plan, r = .ok plan → Fit (.createRequest new) plan now')
      (Call.prepareRequest new).run f now := by
  refine Keeps.work_bind ?_
  cases checkComment (some new.comment) with
  | error e => exact nofun
  | ok comment =>
    refine Keeps.work_bind ((keeps_requireMapping _).mono fun r f now named => ?_)
    cases r with
    | error e => exact nofun
    | ok mapping =>
      refine Keeps.work_bind ?_
      cases checked : checkRecipients mapping new.step new.recipients with
      | error e => exact nofun
      | ok recipients =>
        refine Keeps.work_bind ((keeps_buildRequest _ _ _ _).mono fun r f now built => ?_)
        cases r with
        | error e => exact nofun
        | ok request =>
          rintro plan ⟨⟩
          refine ⟨trivial, ?_⟩
          rintro p ⟨⟩
          exact ⟨recipients_ne_nil checked, (built request rfl).2.2⟩

/-- A call has a fit plan when it opens a session. -/
theorem keeps_prepare (c : Call) :
    Keeps (fun r _ now' => ∀ plan, r = .ok plan → Fit c plan now') c.prepare.run f now := by
  cases c with
  | setStepStatus change => exact keeps_prepareChange change
  | createRequest new => exact keeps_prepareRequest new
  | _ => exact fun _ _ => ⟨trivial, nofun⟩

end

/-! ## The transaction -/

section

variable {s : Service} {c : Call} {plan : c.Plan} {f : Footing} {now ready : Instant}
  {left number : Nat}

theorem steady_body : (c.job s plan).body.Within Steady fun _ => True := by
  have work : (c.job s plan).work.run.Within Steady fun _ => True :=
    (Plain.work s c plan).mono (fun _ h => h.1.steady) fun _ h => h
  cases readOnly : (c.job s plan).options.readOnly with
  | false =>
    rw [body_of_writes readOnly]
    exact work
  | true =>
    rw [body_of_reads readOnly]
    refine ⟨steady_setReadOnly, fun answer => ?_⟩
    cases answer with
    | ok u => exact work
    | error e => trivial

/-- The work of a call stores the rows of a deed, if it may write. -/
theorem keeps_body (fit : Fit c plan ready) (le : ready ≤ now) (base : Tables) :
    Keeps (fun outcome f' now' => ready ≤ now' ∧
        ∀ v, outcome = .ok v → f'.Ready now' (.session .commit))
      (c.job s plan).body ⟨.opened base, base, now⟩ now := by
  refine Keeps.of_follows steady_body fun turns outcome u now' follows later shown => ?_
  refine ⟨le.trans later, ?_⟩
  rintro v rfl writable t working
  cases readOnly : (c.job s plan).options.readOnly with
  | true =>
    obtain ⟨turns', work⟩ := follows.of_body
    have allowed := (work.within (Plain.work s c plan)).1
    obtain rfl := work.of_readOnly (fun turn mem => (allowed turn mem).1) readOnly
    cases readOnly.symm.trans writable
  | false =>
    rw [body_of_writes readOnly] at follows
    obtain ⟨rows, rfl, deed⟩ := follows.deed fit.suits readOnly
    refine ⟨rows, ?_, _, deed.mono shown fun p asked => ?_⟩
    · rw [Session.working_plus rfl] at working
      exact (Option.some.inj working).symm
    · exact ⟨(fit.revision p asked).1, (fit.revision p asked).2.trans (le.trans later)⟩

/-! ## The attempts -/

/-- Nothing is said of the end of a call. -/
abbrev KeepsOn {α : Type} (p : Action WorkflowEvent α) (f : Footing) (now : Instant) : Prop :=
  Keeps (fun _ _ _ => True) p f now

theorem keepsOn_of_calm {α : Type} {p : Action WorkflowEvent α}
    (calm : p.Within Calm fun _ => True) : KeepsOn p f now :=
  (Keeps.of_calm calm f now).mono fun _ _ _ _ => trivial

/-- The call keeps to deeds if a raw failure ends one of its attempts. -/
def Resumes (s : Service) (c : Call) (plan : c.Plan) (ready : Instant) (left number : Nat) : Prop :=
  ∀ e f now, ready ≤ now → KeepsOn
    ((c.job s plan).afterAttempt left number (.error (.storage e)) >>= (c.job s plan).conclude) f now

theorem Resumes.afterTransaction (h : Resumes s c plan ready left number) (le : ready ≤ now)
    (outcome : Except WorkflowError c.Result) :
    KeepsOn ((c.job s plan).afterTransaction left number outcome) f now := by
  have release := (still_release (c.job s plan)).mono (fun _ h => h.1) fun _ h => h
  have ends : (∀ e, outcome = .error e → WorkError.failure? e = none) →
      KeepsOn ((c.job s plan).afterTransaction left number outcome) f now := by
    intro final
    rw [afterTransaction_of_final _ final]
    exact keepsOn_of_calm (release.bind fun _ _ => calm_conclude s c plan _)
  cases outcome with
  | ok v => exact ends fun e same => by cases same
  | error e =>
    cases raw : WorkError.failure? e with
    | none => exact ends fun e' same => by cases same; exact raw
    | some failure =>
      obtain rfl := eq_storage_of_failure? raw
      exact (Keeps.of_calm release f now).bind fun u f' now' ⟨_, later⟩ =>
        h failure f' now' (le.trans later)

theorem Resumes.rollBack (h : Resumes s c plan ready left number) (le : ready ≤ now)
    (outcome : Except WorkflowError c.Result) :
    KeepsOn ((c.job s plan).rollBack >>= fun _ =>
      (c.job s plan).afterTransaction left number outcome) f now := by
  have still := (still_rollBack (c.job s plan)).mono (fun _ h => h.1) fun _ h => h
  exact (Keeps.of_calm still f now).bind fun u f' now' ⟨_, later⟩ =>
    h.afterTransaction (le.trans later) outcome

theorem Resumes.afterBody (h : Resumes s c plan ready left number) (le : ready ≤ now)
    (outcome : Except WorkflowError c.Result)
    (commits : ∀ v, outcome = .ok v → f.Ready now (.session .commit)) :
    KeepsOn ((c.job s plan).afterBody left number outcome) f now := by
  cases outcome with
  | error e => exact h.rollBack le _
  | ok v =>
    refine ⟨commits v rfl, fun w store later finds => ?_⟩
    show KeepsOn ((c.job s plan).afterCommit left number v (store.commit f.session).1) _ _
    cases (store.commit f.session).1 with
    | ok u => exact h.afterTransaction (le.trans later) _
    | error e => exact h.rollBack (le.trans later) _

/-- An attempt takes its snapshot when its transaction begins. -/
theorem Resumes.attempt (h : Resumes s c plan ready left number) (fit : Fit c plan ready)
    (le : ready ≤ now) :
    KeepsOn ((c.job s plan).attempts left number >>= (c.job s plan).conclude) f now := by
  rw [Job.attempts_bind]
  refine ⟨trivial, fun opening store later finds => ⟨trivial, fun begun store' later' finds' => ?_⟩⟩
  have le' := le.trans (later.trans later')
  have opened : f.next opening store .openSession = { f with session := default } :=
    if_neg (by rw [Session.begins_of_closed rfl]; exact Bool.false_ne_true)
  rw [opened]
  show KeepsOn ((c.job s plan).afterBegin left number
      (store'.begin default (c.job s plan).options.isolationLevel).1)
    (Footing.next { f with session := default } begun store'
      (.session (.begin (c.job s plan).options.isolationLevel))) begun.now
  obtain ⟨-, ⟨⟨failure, failed⟩, -⟩ | ⟨ok, starts⟩⟩ :=
    begin_cases store' (c.job s plan).options.isolationLevel
  · rw [failed]
    exact h.afterTransaction le' _
  · have footing : Footing.next { f with session := default } begun store'
        (.session (.begin (c.job s plan).options.isolationLevel)) =
          ⟨.opened store'.committed, store'.committed, begun.now⟩ := by
      have after : (begun.answer store' default
          (.session (.begin (c.job s plan).options.isolationLevel))).2.2 =
            .opened store'.committed := starts
      simp only [Footing.next, after]
      rfl
    rw [ok, footing]
    exact (keeps_body fit le' store'.committed).bind fun outcome f' now' ⟨later, commits⟩ =>
      h.afterBody later outcome commits

theorem keeps_attempts (fit : Fit c plan ready) (le : ready ≤ now) (left number : Nat) :
    KeepsOn ((c.job s plan).attempts left number >>= (c.job s plan).conclude) f now := by
  have givesUp : ∀ number e f now, KeepsOn ((do
      let e ← (Coordinator.giveUp (c.job s plan).context number e :
        Action WorkflowEvent WorkflowError)
      return .error e) >>= (c.job s plan).conclude) f now := by
    intro number e f now
    rw [Program.bind_assoc]
    exact keepsOn_of_calm
      ((still_giveUp (c.job s plan) _ _ _).mono (fun _ h => h.1) fun _ _ => trivial)
  -- on the attempts left: a failed attempt is followed by the next one, or by the end
  induction left generalizing number f now with
  | zero => exact Resumes.attempt (fun e f now _ => givesUp number e f now) fit le
  | succ left ih =>
    refine Resumes.attempt (fun e f now le => ?_) fit le
    show KeepsOn ((if (c.job s plan).policy.shouldRetry e.kind number then _ else _) >>= _) f now
    split
    · rw [Program.bind_assoc]
      have still := (still_backOff (c.job s plan).policy number e).mono
        (fun _ h => h.1) fun _ h => h
      exact (Keeps.of_calm still f now).bind fun u f' now' ⟨_, later⟩ =>
        ih (le.trans later) (number + 1)
    · exact givesUp number e f now

end

/-- Whatever stores a call finds, it commits only deeds. -/
theorem keeps_call (s : Service) (c : Call) (f : Footing) (now : Instant) :
    KeepsOn (c.action s).run f now := by
  rw [Call.action_eq]
  refine (keeps_prepare c).bind fun r f now fit => ?_
  cases r with
  | error e => trivial
  | ok plan =>
    exact ⟨trivial, fun w store le finds => keeps_attempts (fit plan rfl) le _ _⟩

end Appraisal.Memory
