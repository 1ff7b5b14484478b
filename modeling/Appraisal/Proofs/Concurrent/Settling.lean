import Appraisal.Proofs.Concurrent.Tale

/-!
# Settling a call

Two things settle a call.  The work may end with an error that is no failure of the store.  Then the
call stands at the begin of its transaction (`Ended.failed`).  Or the commit succeeds.  A commit that
publishes nothing leaves the call at its begin (`Ended.committed_same`), and one that publishes rows
makes it stand at the commit (`Ended.committed_rows`): the work goes the same way on the tables that
the commit finds (`moved`), because it has read only rows that it wrote and requests.

`goes_body` makes the call on a quiet store, up to the end of its work.
-/

namespace Appraisal.Memory

open Workflow

/-! ## What the stages ask for -/

theorem silent_count {name : String} {labels : List (String × String)}
    (other : name ≠ "step_status_changes_total" ∧ name ≠ "revision_completions_total" ∧
      name ≠ "revision_requests_created_total") :
    Silent (.signal (.count name labels)) := other

theorem still_cleanUp (c : Coordinator) (context : String) (stage : CleanupStage)
    {action : Action WorkflowEvent (Except Failure Unit)}
    (still : action.Within Still fun _ => True) :
    (c.cleanUp context stage action).Within Still fun _ => True := by
  refine still.bind fun answer _ => ?_
  cases answer with
  | ok u => trivial
  | error f =>
    refine ⟨⟨trivial, ?_⟩, fun _ => trivial⟩
    cases c.sink <;> trivial

/-- The request hands an event on or tells the surroundings something. -/
def Outward : Request WorkflowEvent → Prop
  | .signal _ | .deliver _ _ => True
  | _ => False

theorem Outward.calm {request : Request WorkflowEvent} (h : Outward request) : Calm request := by
  cases request with
  | signal | deliver => trivial
  | _ => exact h.elim

theorem outward_dispatch (d : Dispatcher WorkflowEvent) (sink : DiagnosticSink) (context : String)
    (events : List WorkflowEvent) :
    (d.dispatch sink context events).Within Outward fun _ => True := by
  have one : ∀ event place h,
      (Dispatcher.deliverTo sink context event place h).Within Outward fun _ => True := by
    intro event place h
    have reacts : (Dispatcher.react place h event).Within Outward fun _ => True := by
      rw [Dispatcher.react]
      cases h.entry? with
      | some entry => exact ⟨trivial, fun _ => trivial⟩
      | none => exact ⟨trivial, fun _ => trivial⟩
    refine reacts.bind fun answer _ => ?_
    cases answer with
    | ok u => trivial
    | error reason => exact ⟨trivial, fun _ => ⟨trivial, fun _ => trivial⟩⟩
  have row : ∀ event place hs,
      (Dispatcher.deliverFrom sink context event place hs).Within Outward fun _ => True := by
    intro event place hs
    induction hs generalizing place with
    | nil => trivial
    | cons h hs ih => exact (one event place h).bind fun _ _ => (ih _).bind fun _ _ => trivial
  have all : (d.deliverAll sink context events).Within Outward fun _ => True := by
    induction events with
    | nil => trivial
    | cons event events ih => exact (row event 0 _).bind fun _ _ => ih.bind fun _ _ => trivial
  exact all.bind fun _ _ => ⟨trivial, fun _ => trivial⟩

theorem outward_announce {α : Type} (s : Service) (context : String) (r : WithEvents α) :
    (announce s context r).Within Outward fun _ => True := by
  rw [announce]
  split
  · trivial
  · exact (outward_dispatch _ _ _ _).bind fun _ _ => trivial

/-- What follows the attempts goes to others. -/
theorem outward_conclude (s : Service) (c : Call) (plan : c.Plan)
    (outcome : Except WorkflowError c.Result) :
    ((c.job s plan).conclude outcome).Within Outward fun _ => True := by
  refine ⟨trivial, fun _ => ?_⟩
  cases outcome with
  | error e => trivial
  | ok b =>
    have finish : ((c.job s plan).finish b).Within Outward fun _ => True := by
      cases c with
      | setStepStatus change =>
        refine (outward_announce _ _ _).bind fun _ _ => ?_
        split
        · exact ⟨trivial, fun _ => ⟨trivial, fun _ => trivial⟩⟩
        · trivial
      | createRequest new =>
        exact (outward_announce _ _ _).bind fun _ _ => ⟨trivial, fun _ => trivial⟩
      | markRead requestId recipientId => exact (outward_announce _ _ _).bind fun _ _ => trivial
      | submitCompletion requestId recipientId comment =>
        exact (outward_announce _ _ _).bind fun _ _ => ⟨trivial, fun _ => trivial⟩
      | _ => trivial
    exact finish.bind fun _ _ => trivial

theorem calm_conclude (s : Service) (c : Call) (plan : c.Plan)
    (outcome : Except WorkflowError c.Result) :
    ((c.job s plan).conclude outcome).Within Calm fun _ => True :=
  (outward_conclude s c plan outcome).mono (fun _ h => h.calm) fun _ h => h

theorem eq_storage_of_failure? {e : WorkflowError} {f : Failure}
    (h : WorkError.failure? e = some f) : e = .storage f := by
  cases e with
  | storage f' =>
    cases h
    rfl
  | _ => cases h

section

variable {β V : Type} (j : Job β V)

theorem still_rollBack : j.rollBack.Within Still fun _ => True :=
  still_cleanUp _ _ _ ⟨⟨trivial, trivial⟩, fun _ => trivial⟩

theorem still_release : j.release.Within Still fun _ => True :=
  still_cleanUp _ _ _ ⟨⟨trivial, trivial⟩, fun _ => trivial⟩

/-- A call that gives its transaction up ends with an error that does not count. -/
theorem still_giveUp (context : String) (number : Nat) (f : Failure) :
    (do
      let e ← (Coordinator.giveUp context number f : Action WorkflowEvent WorkflowError)
      j.conclude (.error e)).Within Still fun r => counts r = false :=
  ⟨⟨trivial, trivial⟩, fun _ => ⟨⟨trivial, silent_count (by decide)⟩, fun _ => ⟨⟨trivial, trivial⟩,
    fun _ => rfl⟩⟩⟩

theorem still_backOff (policy : RetryPolicy) (number : Nat) (f : Failure) :
    (Coordinator.backOff policy number f : Action WorkflowEvent Unit).Within Still fun _ => True :=
  ⟨⟨trivial, trivial⟩, fun _ => ⟨⟨trivial, silent_count (by decide)⟩, fun _ => ⟨⟨trivial, trivial⟩,
    fun _ => trivial⟩⟩⟩

/-- Nothing that follows the attempts depends on how many there were, if an outcome is handed
back. -/
theorem afterTransaction_of_final {left number : Nat} {outcome : Except WorkflowError β}
    (final : ∀ e, outcome = .error e → WorkError.failure? e = none) :
    j.afterTransaction left number outcome = j.release >>= fun _ => j.conclude outcome := by
  cases outcome with
  | ok b => rfl
  | error e =>
    rw [Job.afterTransaction, Job.afterAttempt, final e rfl]
    rfl

end

/-! ## The work -/

section

variable {origin : Store} {s : Service} {c : Call} {plan : c.Plan}

theorem savepoint_job : (c.job s plan).options.savepoint = none := by
  cases c <;> rfl

theorem body_of_writes (writes : (c.job s plan).options.readOnly = false) :
    (c.job s plan).body = (c.job s plan).work.run := by
  rw [Job.body, Coordinator.body, writes, Coordinator.inOptionalSavepoint, savepoint_job]
  rfl

theorem body_of_reads (reads : (c.job s plan).options.readOnly = true) :
    (c.job s plan).body = Action.session .setReadOnly >>= fun
      | .ok () => (c.job s plan).work.run
      | .error f => pure (.error (.storage f)) := by
  rw [Job.body, Coordinator.body, reads, Coordinator.inOptionalSavepoint, savepoint_job]
  refine congrArg (Program.bind _) (funext fun answer => ?_)
  cases answer <;> rfl

theorem still_body : (c.job s plan).body.Within Still fun _ => True := by
  have work := (Plain.work s c plan).still
  cases readOnly : (c.job s plan).options.readOnly with
  | false =>
    rw [body_of_writes readOnly]
    exact work
  | true =>
    rw [body_of_reads readOnly]
    refine ⟨⟨trivial, trivial⟩, fun answer => ?_⟩
    cases answer with
    | ok u => exact work
    | error f => trivial

/-- A session that may only read stays as it is. -/
theorem Follows.of_readOnly {α : Type} {p p' : Action WorkflowEvent α} {u u' : Session}
    {turns : List Turn} (h : Follows origin p u turns p' u')
    (allowed : ∀ turn ∈ turns, Local turn.request) (readOnly : u.readOnly = true) : u' = u := by
  induction h with
  | refl => rfl
  | @turn request next u u' turns p' w calm rest ih =>
    have stays : (w.answer origin u request).2.2 = u := by
      have allowed := allowed _ List.mem_cons_self
      cases request with
      | openSession | findMapping => exact allowed.elim
      | session call =>
        cases call with
        | store call =>
          rcases u.store_cases call with ⟨-, same⟩ | ⟨t, r, -, -, writable, -, -⟩
          · exact same
          · rw [readOnly] at writable
            cases writable
        | _ => exact allowed.elim
      | _ => rfl
    rw [stays] at ih
    exact ih (fun turn ht => allowed turn (List.mem_cons_of_mem _ ht)) readOnly

/-- Between the begin of a transaction and its end stands its work. -/
theorem Follows.of_body {base : Tables} {turns : List Turn} {u : Session}
    {outcome : Except WorkflowError c.Result}
    (h : Follows origin (c.job s plan).body (.opened base) turns (pure outcome) u) :
    ∃ turns', Follows origin (c.job s plan).work.run
      (.readied base (c.job s plan).options.readOnly) turns' (pure outcome) u := by
  cases readOnly : (c.job s plan).options.readOnly with
  | false =>
    rw [body_of_writes readOnly] at h
    exact ⟨turns, h⟩
  | true =>
    rw [body_of_reads readOnly] at h
    cases h with
    | turn w calm rest => exact ⟨_, rest⟩

/-! ## A call on its own, up to the end of its work -/

/-- The turns of a call before it opens a session. -/
def leading (prepared : List Turn) (counted : Outside) : List Turn :=
  prepared ++ [⟨.signal (.count "transactions_total" []), counted⟩]

/-- The turns of an attempt up to the end of its work. -/
def working (isolation : Isolation) (opening begun : Outside) (turns : List Turn) : List Turn :=
  ⟨.openSession, opening⟩ :: ⟨.session (.begin isolation), begun⟩ :: turns

/-- A call that is made on a quiet store comes to its work and to the end of it. -/
theorem goes_body {prepared : List Turn} {ready : Session}
    (prepares : Follows origin c.prepare.run default prepared (pure (.ok plan)) ready)
    (counted opening begun : Outside) {base : Tables} {turns : List Turn} {u : Session}
    {outcome : Except WorkflowError c.Result}
    (follows : Follows origin (c.job s plan).body (.opened base) turns (pure outcome) u)
    {σ : Store} (quiet : Store.Quiet origin base σ) :
    ∃ σ', Goes (c.action s).run default σ
      (leading prepared counted ++
        working (c.job s plan).options.isolationLevel opening begun turns)
      ((c.job s plan).afterBody (c.job s plan).maxRetries 1 outcome) u σ' ∧
      Store.Quiet origin base σ' := by
  obtain ⟨σ₁, goes₁, quiet₁⟩ := prepares.goes quiet
  let opened := σ₁.openSession.2
  have quietOpened : Store.Quiet origin base opened :=
    ⟨quiet₁.toLike.trans ⟨rfl, rfl, rfl⟩, quiet₁.committed_eq, quiet₁.onBegin, quiet₁.onCommit⟩
  let isolation := (c.job s plan).options.isolationLevel
  have begins : (opened.begin default isolation).1 = .ok () ∧
      (opened.begin default isolation).2.2 = .opened base ∧
      Store.Quiet origin base (opened.begin default isolation).2.1 := by
    simp only [Store.begin, quietOpened.onBegin]
    refine ⟨rfl, ?_, ?_⟩
    · rw [← quietOpened.committed_eq]
      rfl
    · exact ⟨quietOpened.toLike.trans ⟨rfl, rfl, rfl⟩, quietOpened.committed_eq,
        quietOpened.onBegin, quietOpened.onCommit⟩
  obtain ⟨begin_ok, begin_session, quietBegun⟩ := begins
  obtain ⟨σ', goes', quiet'⟩ := follows.goes quietBegun
  refine ⟨σ', ?_, quiet'⟩
  rw [Call.action_eq, leading, List.append_assoc]
  refine (goes₁.bind (c.proceed s)).trans (.turn counted ?_)
  show Goes ((c.job s plan).attempts (c.job s plan).maxRetries 1 >>= (c.job s plan).conclude)
    ready σ₁ (working isolation opening begun turns) _ _ _
  rw [Job.attempts_bind]
  refine .turn opening (.turn begun ?_)
  show Goes ((c.job s plan).afterBegin (c.job s plan).maxRetries 1
    (opened.begin default isolation).1) (opened.begin default isolation).2.2
    (opened.begin default isolation).2.1 turns _ _ _
  rw [begin_ok, begin_session]
  exact goes'.bind _

/-! ## Commits -/

/-- A commit on a quiet store, of a transaction that began on its tables. -/
theorem Store.Quiet.commit {base : Tables} {σ : Store} (quiet : Quiet origin base σ) {u : Session}
    {t : Transaction} (transaction : u.working = some t) (copied : t.Over base) :
    (σ.commit u).1 = .ok () ∧ (σ.commit u).2.2 = u.discard ∧
      Quiet origin (if u.readOnly then base else base.publish t.tables t.writes)
        (σ.commit u).2.1 := by
  have can : t.canCommit σ.committed = true :=
    Transaction.canCommit_iff.2 fun k _ => by rw [copied.version, quiet.committed_eq]
  simp only [Store.commit, transaction, quiet.onCommit]
  cases u.readOnly with
  | true =>
    exact ⟨rfl, rfl, quiet.toLike.trans ⟨rfl, rfl, rfl⟩, quiet.committed_eq, quiet.onBegin,
      quiet.onCommit⟩
  | false =>
    simp only [Store.publish, can, if_true]
    refine ⟨rfl, rfl, quiet.toLike.trans ⟨rfl, rfl, rfl⟩, ?_, quiet.onBegin, quiet.onCommit⟩
    show σ.committed.publish t.tables t.writes = base.publish t.tables t.writes
    rw [quiet.committed_eq]

/-! ## Settling a call -/

/-- The work of the last attempt of a call has come to an outcome. -/
structure Ended (origin : Store) (s : Service) (c : Call) (plan : c.Plan) (lead : List Turn)
    (base : Tables) (outcome : Except WorkflowError c.Result) (b : Progress) : Prop where
  /-- Nothing can be seen of the call. -/
  hidden : b.Hidden
  /-- It stands at the begin of its transaction. -/
  span : b.span = some (base, base)
  /-- The transaction found rows under their own keys. -/
  keyed : base.Keyed
  /-- The turns before the attempts. -/
  before : b.account.before = lead
  /-- The turns of the attempt are its opening, its begin and its work. -/
  last : ∃ opening begun turns,
    b.account.last = working (c.job s plan).options.isolationLevel opening begun turns ∧
      Follows origin (c.job s plan).body (.opened base) turns (pure outcome) b.session

theorem Ended.kept {lead : List Turn} {base : Tables} {outcome : Except WorkflowError c.Result}
    {b : Progress} (ended : Ended origin s c plan lead base outcome b) {opening begun : Outside}
    {turns : List Turn}
    (last : b.account.last =
      working (c.job s plan).options.isolationLevel opening begun turns) :
    b.account.kept =
      lead ++ working (c.job s plan).options.isolationLevel opening begun turns := by
  rw [Account.kept, ended.before, last]

section

variable {prepared : List Turn} {ready : Session} {counted : Outside}

/-- Work that ends with an error that is handed back settles the call at its begin. -/
theorem Ended.failed
    (prepares : Follows origin c.prepare.run default prepared (pure (.ok plan)) ready)
    {base : Tables} {e : WorkflowError} {b : Progress}
    (ended : Ended origin s c plan (leading prepared counted) base (.error e) b)
    (final : WorkError.failure? e = none) (left number : Nat) :
    Settled origin s c ((c.job s plan).afterBody left number (.error e)) b := by
  have program : ∀ left number, (c.job s plan).afterBody left number (.error e) =
      ((c.job s plan).rollBack >>= fun _ => (c.job s plan).release) >>= fun _ =>
        (c.job s plan).conclude (.error e) := by
    intro left number
    rw [Program.bind_assoc, Job.afterBody, afterTransaction_of_final]
    intro e' same
    cases same
    exact final
  obtain ⟨opening, begun, turns, last, follows⟩ := ended.last
  obtain ⟨turns', work⟩ := follows.of_body
  have still := (still_rollBack (c.job s plan)).bind fun _ _ => still_release (c.job s plan)
  rw [program]
  refine .done prepares (.failed work) ended.span ?_ ?_ (List.append_nil _).symm
    ended.hidden.requests still .refl ?_ ?_
  · rw [ended.hidden.unpublished]
    simp
  · rw [last]
    nofun
  · exact (still.mono (fun _ h => h.1) fun _ h => h).bind fun _ _ => calm_conclude s c plan _
  · intro σ hσ
    obtain ⟨σ', goes, hσ'⟩ := goes_body prepares counted opening begun follows hσ
    refine ⟨σ', ?_, hσ'⟩
    rw [program] at goes
    rw [ended.kept last]
    exact goes

/-- A commit settles the call on the tables on which its transaction can be made alone. -/
theorem settled_of_commit
    (prepares : Follows origin c.prepare.run default prepared (pure (.ok plan)) ready)
    {b : Progress} {opening begun w : Outside} {turns : List Turn}
    (kept : b.account.kept = leading prepared counted ++
      working (c.job s plan).options.isolationLevel opening begun turns ++ [⟨.session .commit, w⟩])
    (opened : b.account.last ≠ []) {base left : Tables} {v : c.Result} {u : Session}
    {t : Transaction} (transaction : u.working = some t) (copied : t.Over base)
    (follows : Follows origin (c.job s plan).body (.opened base) turns (pure (.ok v)) u)
    (session : b.session = u.discard)
    (left_eq : left = if u.readOnly then base else base.publish t.tables t.writes)
    (worked : Worked origin (c.job s plan) base (.ok v) left) (span : b.span = some (base, left))
    (published : b.published = true ↔ left ≠ base)
    (silent : ∀ request ∈ b.account.turns.map Turn.request, Silent request) :
    Settled origin s c ((c.job s plan).release >>= fun _ => (c.job s plan).conclude (.ok v)) b := by
  have still := still_release (c.job s plan)
  refine .done prepares worked span published opened (List.append_nil _).symm silent still .refl
    ?_ ?_
  · exact (still.mono (fun _ h => h.1) fun _ h => h).bind fun _ _ => calm_conclude s c plan _
  · intro σ hσ
    obtain ⟨σ', goes, hσ'⟩ := goes_body prepares counted opening begun follows hσ
    obtain ⟨ok, discard, hσ''⟩ := hσ'.commit transaction copied
    rw [← left_eq] at hσ''
    refine ⟨_, ?_, hσ''⟩
    rw [kept, session]
    refine goes.trans (.turn w ?_)
    show Goes ((c.job s plan).afterCommit (c.job s plan).maxRetries 1 v (σ'.commit u).1)
      (σ'.commit u).2.2 (σ'.commit u).2.1 [] _ _ _
    rw [ok, discard]
    exact .refl _ _ _

theorem Ended.next_kept {lead : List Turn} {base : Tables} {v : c.Result} {b : Progress}
    (ended : Ended origin s c plan lead base (.ok v) b) {opening begun : Outside}
    {turns : List Turn}
    (last : b.account.last = working (c.job s plan).options.isolationLevel opening begun turns)
    (w : Outside) (store : Store) :
    (b.next w store (.session .commit)).account.kept = lead ++
        working (c.job s plan).options.isolationLevel opening begun turns ++
          [⟨.session .commit, w⟩] ∧
      (b.next w store (.session .commit)).account.last ≠ [] ∧
      ∀ request ∈ (b.next w store (.session .commit)).account.turns.map Turn.request,
        Silent request := by
  have account : (b.next w store (.session .commit)).account =
      { b.account with last := b.account.last ++ [⟨.session .commit, w⟩] } :=
    Account.add_session (by rw [last]; nofun) .commit w
  rw [account]
  refine ⟨?_, by simp, fun request hr => ?_⟩
  · rw [Account.kept, ended.before, last, List.append_assoc]
  · simp only [Account.turns, ← List.append_assoc, List.map_append, List.mem_append] at hr
    rcases hr with hr | hr
    · refine ended.hidden.requests request ?_
      simpa only [Account.turns, List.map_append, List.mem_append] using hr
    · cases List.mem_singleton.1 hr
      trivial

/-- A commit that only reads, or that has nothing to publish, settles the call at its begin. -/
theorem Ended.committed_same
    (prepares : Follows origin c.prepare.run default prepared (pure (.ok plan)) ready)
    {base : Tables} {v : c.Result} {b : Progress}
    (ended : Ended origin s c plan (leading prepared counted) base (.ok v) b) {store : Store}
    (w : Outside) {t : Transaction} (transaction : b.session.working = some t)
    (copied : t.Over base) (worked : Worked origin (c.job s plan) base (.ok v) base)
    (left_eq : base = if b.session.readOnly then base else base.publish t.tables t.writes)
    (discard : (store.commit b.session).2.2 = b.session.discard)
    (same : (store.commit b.session).2.1.committed = store.committed) :
    Settled origin s c ((c.job s plan).release >>= fun _ => (c.job s plan).conclude (.ok v))
      (b.next w store (.session .commit)) := by
  obtain ⟨opening, begun, turns, last, follows⟩ := ended.last
  obtain ⟨kept, opened, silent⟩ := ended.next_kept last w store
  have closed := begins_commit store b.session
  have next_eq := Progress.next_of_same b w store (.session .commit) closed same
  refine settled_of_commit prepares kept opened transaction copied follows discard left_eq worked
    ?_ ?_ silent
  · rw [next_eq]
    exact ended.span
  · rw [next_eq]
    show b.published = true ↔ base ≠ base
    rw [ended.hidden.unpublished]
    simp

/-- Work that may be committed goes the same way on the tables that the commit finds. -/
theorem moved {base committed : Tables} {turns : List Turn} {v : c.Result} {rows : List Row}
    (evolves : base.Evolves committed)
    (follows : Follows origin (c.job s plan).work.run (.opened base) turns (pure (.ok v))
      ((Session.opened base).plus rows))
    (reads : ∀ key, ReadIn turns key → key ∈ rows.map Row.key ∨
      ∃ id r, key = .request id ∧ base.row (.request id) = some r)
    (copied : ((Transaction.start base).putAll rows).Over base)
    (can : ((Transaction.start base).putAll rows).canCommit committed = true) :
    ∃ u, Follows origin (c.job s plan).work.run (.opened committed) turns (pure (.ok v)) u ∧
      ((Session.opened base).plus rows).Twin base committed u := by
  have twin : (Session.opened base).Twin base committed (.opened committed) := by
    refine ⟨⟨_, _, rfl, rfl, Transaction.over_start base, Transaction.over_start committed, rfl,
      ?_⟩, rfl, rfl⟩
    exact fun _ h => absurd h List.not_mem_nil
  have allowed := (follows.within (Plain.work s c plan)).1
  refine follows.twin twin (fun turn ht => (allowed turn ht).1) fun key hk => ?_
  rcases reads key hk with stored | ⟨id, r, rfl, found⟩
  · exact copied.row_eq evolves can (Transaction.mem_writes_putAll.2 (.inl stored))
  · rw [found, evolves.request_eq id r found]

/-- A commit that publishes rows settles the call on the tables that it found. -/
theorem Ended.committed_rows
    (prepares : Follows origin c.prepare.run default prepared (pure (.ok plan)) ready)
    {base : Tables} {v : c.Result} {b : Progress}
    (ended : Ended origin s c plan (leading prepared counted) base (.ok v) b) {store : Store}
    (w : Outside) (writes : (c.job s plan).options.readOnly = false)
    (evolves : base.Evolves store.committed) {t : Transaction}
    (transaction : b.session.working = some t) (copied : t.Over base) (stored : t.writes ≠ [])
    (can : t.canCommit store.committed = true)
    (discard : (store.commit b.session).2.2 = b.session.discard)
    (committed : (store.commit b.session).2.1.committed =
      store.committed.publish t.tables t.writes) :
    Settled origin s c ((c.job s plan).release >>= fun _ => (c.job s plan).conclude (.ok v))
      (b.next w store (.session .commit)) := by
  obtain ⟨opening, begun, turns, last, follows⟩ := ended.last
  obtain ⟨kept, opened, silent⟩ := ended.next_kept last w store
  have body_eq := body_of_writes writes
  rw [body_eq] at follows
  obtain ⟨rows, session, covered⟩ := Follows.job ended.keyed writes follows
  rw [session] at follows transaction
  obtain rfl : (Transaction.start base).putAll rows = t := by
    rw [Session.working_plus rfl] at transaction
    exact Option.some.inj transaction
  have reads := covered.resolve_left fun none => stored (by rw [none]; rfl)
  -- the work ran on `base`, but the call stands on the tables that the commit found
  obtain ⟨u, follows', twin⟩ := moved evolves follows reads copied can
  obtain ⟨t, t', ht, ht', -, copied', writes_eq, rows_eq⟩ := twin.working
  rw [Session.working_plus rfl] at ht
  cases ht
  have changed : store.committed.publish ((Transaction.start base).putAll rows).tables
      ((Transaction.start base).putAll rows).writes ≠ store.committed :=
    Transaction.publish_ne copied.nodup stored
  have leaves : u.leaves store.committed = store.committed.publish
      ((Transaction.start base).putAll rows).tables
      ((Transaction.start base).putAll rows).writes := by
    rw [Session.leaves_of_working ht', writes_eq]
    exact Tables.publish_congr rows_eq
  have closed := begins_commit store b.session
  have span : (b.next w store (.session .commit)).span =
      some (store.committed, u.leaves store.committed) := by
    show (if Session.begins b.session (store.commit b.session).2.2 then _ else
      if (store.commit b.session).2.1.committed = store.committed then _ else
        some (store.committed, (store.commit b.session).2.1.committed)) = _
    rw [closed, committed, if_neg (by simp), if_neg changed, leaves]
  have published : (b.next w store (.session .commit)).published = true := by
    show (b.published || decide ((store.commit b.session).2.1.committed ≠ store.committed)) = true
    rw [committed, decide_eq_true changed, Bool.or_true]
  rw [← leaves] at changed
  refine settled_of_commit prepares kept opened ht' copied' ?_ ?_ ?_ (.wrote writes follows') span
    ⟨fun _ => changed, fun _ => published⟩ silent
  · rw [body_eq]
    exact follows'
  · show (store.commit b.session).2.2 = u.discard
    rw [discard, session, Session.discard, Session.discard]
    simp only [twin.released]
  · have writable : u.readOnly = false := twin.readOnly
    rw [writable, Session.leaves_of_working ht']
    rfl

end

end

end Appraisal.Memory
