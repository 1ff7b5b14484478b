import Appraisal.Proofs.Concurrent.Settling

/-!
# The stages of a call

Every call keeps its tale, whatever the others do (`safe_call`).  The proof goes through the stages
of a call from the last to the first: what follows a failed attempt, the commit, the work, the begin
of the transaction, the attempts, and the preparation.
-/

namespace Appraisal.Memory

open Workflow

/-! ## Calm stages -/

theorem Progress.after_after (b : Progress) (first second : List Turn) (s s' : Session) :
    (b.after first s).after second s' = b.after (first ++ second) s' := by
  simp only [after, List.foldl_append]

theorem Progress.Hidden.after {b : Progress} (hidden : b.Hidden) {turns : List Turn}
    (silent : ∀ turn ∈ turns, Silent turn.request) (s : Session) : (b.after turns s).Hidden where
  unpublished := hidden.unpublished
  silent t ht := (Account.mem_turns_foldl.1 ht).elim (hidden.silent t) (silent t)

section

variable {origin : Store} {s : Service} {c : Call} {α : Type}

/-- A call whose next request is still ahead is not settled. -/
theorem Tale.ahead {request : Request WorkflowEvent}
    {next : request.Answer → Action WorkflowEvent (Except WorkflowError c.Value)} {b : Progress}
    (hidden : b.Hidden) : Tale origin s c (.call request next) b :=
  .unsettled hidden fun r same => by cases same

/-- A stage of calm and silent requests leaves the call safe if what follows does. -/
theorem Safe.bind {p : Action WorkflowEvent α} {post : α → Prop}
    {f : α → Action WorkflowEvent (Except WorkflowError c.Value)} {b : Progress}
    (still : p.Within Still post) (hidden : b.Hidden)
    (rest : ∀ turns a s', Follows origin p b.session turns (pure a) s' →
      Safe origin (Tale origin s c) (f a) (b.after turns s')) :
    Safe origin (Tale origin s c) (p >>= f) b := by
  induction p generalizing b with
  | pure a => exact rest [] a b.session (.refl _ _)
  | call request next ih =>
    obtain ⟨⟨calm, silent⟩, later⟩ := still
    refine ⟨.ahead hidden, fun w store admits => ?_⟩
    rw [Progress.next_of_calm admits w calm, (Store.alikeOn admits.like w b.session calm).answer]
    have one : ∀ turn ∈ [(⟨request, w⟩ : Turn)], Silent turn.request := by
      intro turn ht
      cases List.mem_singleton.1 ht
      exact silent
    refine ih _ (later _) (hidden.after one _) fun turns a s' follows => ?_
    rw [Progress.after_after]
    exact rest _ a s' (.turn w calm follows)

/-- A call that comes to an end that does not count. -/
theorem Safe.of_uncounted {p : Action WorkflowEvent (Except WorkflowError c.Value)} {b : Progress}
    (still : p.Within Still fun r => counts r = false) (hidden : b.Hidden) :
    Safe origin (Tale origin s c) p b := by
  rw [← Program.bind_pure p]
  refine Safe.bind still hidden fun turns r s' follows => ?_
  obtain ⟨allowed, uncounted⟩ := follows.within still
  refine .unsettled (hidden.after (fun turn ht => (allowed turn ht).2) s') fun r' same => ?_
  cases same
  exact uncounted

end

/-! ## Attempts that fail -/

/-- The call has opened a session, and nothing can be seen of it. -/
structure Underway (lead : List Turn) (b : Progress) : Prop where
  /-- Nothing can be seen of the call. -/
  hidden : b.Hidden
  /-- The turns before the attempts. -/
  before : b.account.before = lead
  /-- A session was opened. -/
  opened : b.account.last ≠ []

theorem Underway.after {lead : List Turn} {b : Progress} (h : Underway lead b) {turns : List Turn}
    (still : ∀ turn ∈ turns, Still turn.request) (s : Session) :
    Underway lead (b.after turns s) := by
  have account : (b.after turns s).account = { b.account with last := b.account.last ++ turns } :=
    Account.foldl_add_of_opened h.opened fun turn ht => (still turn ht).1
  refine ⟨h.hidden.after (fun turn ht => (still turn ht).2) s, ?_, ?_⟩
  · rw [account]
    exact h.before
  · rw [account]
    simp [h.opened]

theorem Underway.call {lead : List Turn} {b : Progress} (h : Underway lead b) (call : SessionCall)
    (w : Outside) (s : Session) : Underway lead (b.after [⟨.session call, w⟩] s) := by
  have account : (b.after [⟨.session call, w⟩] s).account =
      { b.account with last := b.account.last ++ [⟨.session call, w⟩] } :=
    Account.add_session h.opened call w
  refine ⟨h.hidden.after (fun turn ht => ?_) s, ?_, ?_⟩
  · cases List.mem_singleton.1 ht
    trivial
  · rw [account]
    exact h.before
  · rw [account]
    simp

section

variable {origin : Store} {s : Service} {c : Call} {plan : c.Plan} {lead : List Turn}
  {left number : Nat}

/-- The call is safe if a raw failure ends one of its attempts. -/
def Retries (origin : Store) (s : Service) (c : Call) (plan : c.Plan) (lead : List Turn)
    (left number : Nat) : Prop :=
  ∀ f b, Underway lead b → Safe origin (Tale origin s c)
    ((c.job s plan).afterAttempt left number (.error (.storage f)) >>= (c.job s plan).conclude) b

theorem Retries.afterTransaction (h : Retries origin s c plan lead left number) {f : Failure}
    {b : Progress} (underway : Underway lead b) :
    Safe origin (Tale origin s c)
      ((c.job s plan).afterTransaction left number (.error (.storage f))) b := by
  refine Safe.bind (still_release _) underway.hidden fun turns u s' follows => ?_
  exact h f _ (underway.after (follows.within (still_release _)).1 s')

theorem Retries.rollBack (h : Retries origin s c plan lead left number) {f : Failure}
    {b : Progress} (underway : Underway lead b) :
    Safe origin (Tale origin s c) ((c.job s plan).rollBack >>= fun _ =>
      (c.job s plan).afterTransaction left number (.error (.storage f))) b := by
  refine Safe.bind (still_rollBack _) underway.hidden fun turns u s' follows => ?_
  exact h.afterTransaction (underway.after (follows.within (still_rollBack _)).1 s')

theorem Ended.underway {base : Tables} {outcome : Except WorkflowError c.Result} {b : Progress}
    (h : Ended origin s c plan lead base outcome b) : Underway lead b := by
  obtain ⟨opening, begun, turns, last, -⟩ := h.last
  exact ⟨h.hidden, h.before, by rw [last]; nofun⟩

/-! ## The commit -/

section

variable {prepared : List Turn} {ready : Session} {counted : Outside}

/-- The commit fails and publishes nothing, or it settles the call. -/
def CommitSettles (origin : Store) (s : Service) (c : Call) (plan : c.Plan) (v : c.Result)
    (b : Progress) (w : Outside) (store : Store) : Prop :=
  (∃ f, (store.commit b.session).1 = .error f) ∧
      (store.commit b.session).2.1.committed = store.committed ∨
    (store.commit b.session).1 = .ok () ∧ Settled origin s c
      ((c.job s plan).release >>= fun _ => (c.job s plan).conclude (.ok v))
      (b.next w store (.session .commit))

theorem Ended.settled_of_reads
    (prepares : Follows origin c.prepare.run default prepared (pure (.ok plan)) ready)
    {base : Tables} {v : c.Result} {b : Progress}
    (ended : Ended origin s c plan (leading prepared counted) base (.ok v) b) (w : Outside)
    (store : Store) (reads : (c.job s plan).options.readOnly = true) :
    CommitSettles origin s c plan v b w store := by
  obtain ⟨opening, begun, turns, last, follows⟩ := ended.last
  obtain ⟨turns', work⟩ := follows.of_body
  have allowed := (work.within (Plain.work s c plan)).1
  have session : b.session = .readied base (c.job s plan).options.readOnly :=
    work.of_readOnly (fun turn ht => (allowed turn ht).1) reads
  have transaction : b.session.working = some (.start base) := by
    rw [session]
    rfl
  have readOnly : b.session.readOnly = true := by
    rw [session]
    exact reads
  obtain ⟨discard, failed | ⟨ok, -, same⟩ | ⟨-, writable, -⟩⟩ := commit_cases store transaction
  · exact .inl failed
  · refine .inr ⟨ok, ended.committed_same prepares w transaction (Transaction.over_start base)
      (.read reads work) ?_ discard same⟩
    rw [readOnly]
    rfl
  · rw [readOnly] at writable
    cases writable

theorem Ended.settled_of_writes
    (prepares : Follows origin c.prepare.run default prepared (pure (.ok plan)) ready)
    {base : Tables} {v : c.Result} {b : Progress}
    (ended : Ended origin s c plan (leading prepared counted) base (.ok v) b) (w : Outside)
    {store : Store} (admits : Admits origin b store)
    (writes : (c.job s plan).options.readOnly = false) :
    CommitSettles origin s c plan v b w store := by
  obtain ⟨opening, begun, turns, last, follows⟩ := ended.last
  rw [body_of_writes writes] at follows
  obtain ⟨rows, session, -⟩ := Follows.job ended.keyed writes follows
  have transaction : b.session.working = some ((Transaction.start base).putAll rows) := by
    rw [session]
    exact Session.working_plus rfl rows
  have based : b.base = base := by
    rw [Progress.base, ended.span]
  have copied : ((Transaction.start base).putAll rows).Over base := by
    have copied := admits.sound.working _ transaction
    rwa [based] at copied
  have evolves : base.Evolves store.committed := by
    have evolves := admits.evolves (by rw [transaction]; rfl)
    rwa [based] at evolves
  obtain ⟨discard, failed | ⟨-, readOnly, -⟩ | ⟨ok, writable, can, committed⟩⟩ :=
    commit_cases store transaction
  · exact .inl failed
  · rw [session] at readOnly
    cases readOnly
  · refine .inr ⟨ok, ?_⟩
    -- a change to the status that the step has already is committed without a row
    by_cases stored : ((Transaction.start base).putAll rows).writes = []
    · rw [stored] at committed
      have left_eq : b.session.leaves base = base := by
        rw [Session.leaves_of_working transaction, stored]
        rfl
      have worked : Worked origin (c.job s plan) base (.ok v) (b.session.leaves base) :=
        .wrote writes follows
      rw [left_eq] at worked
      refine ended.committed_same prepares w transaction copied worked ?_ discard committed
      rw [stored]
      exact (ite_self _).symm
    · exact ended.committed_rows prepares w writes evolves transaction copied stored can discard
        committed

/-- Whatever the outcome of the work is, the call stays safe. -/
theorem Ended.safe
    (prepares : Follows origin c.prepare.run default prepared (pure (.ok plan)) ready)
    (retries : Retries origin s c plan (leading prepared counted) left number) {base : Tables}
    {outcome : Except WorkflowError c.Result} {b : Progress}
    (ended : Ended origin s c plan (leading prepared counted) base outcome b) :
    Safe origin (Tale origin s c) ((c.job s plan).afterBody left number outcome) b := by
  cases outcome with
  | error e =>
    cases raw : WorkError.failure? e with
    | none => exact safe_settled (ended.failed prepares raw left number)
    | some f =>
      obtain rfl := eq_storage_of_failure? raw
      exact retries.rollBack ended.underway
  | ok v =>
    refine ⟨.ahead ended.hidden, fun w store admits => ?_⟩
    show Safe origin _ ((c.job s plan).afterCommit left number v (store.commit b.session).1)
      (b.next w store (.session .commit))
    have commits : CommitSettles origin s c plan v b w store := by
      cases readOnly : (c.job s plan).options.readOnly with
      | true => exact ended.settled_of_reads prepares w store readOnly
      | false => exact ended.settled_of_writes prepares w admits readOnly
    rcases commits with ⟨⟨f, failed⟩, same⟩ | ⟨ok, settled⟩
    · have closed := begins_commit store b.session
      rw [failed, Progress.next_of_same b w store (.session .commit) closed same]
      exact retries.rollBack (ended.underway.call .commit w _)
    · rw [ok]
      exact safe_settled settled

/-! ## The attempts -/

/-- A call is safe when a transaction of it has begun. -/
theorem safe_body
    (prepares : Follows origin c.prepare.run default prepared (pure (.ok plan)) ready)
    (retries : Retries origin s c plan (leading prepared counted) left number) {base : Tables}
    {b : Progress} (hidden : b.Hidden) (span : b.span = some (base, base)) (keyed : base.Keyed)
    (before : b.account.before = leading prepared counted) {opening begun : Outside}
    (last : b.account.last = working (c.job s plan).options.isolationLevel opening begun [])
    (session : b.session = .opened base) :
    Safe origin (Tale origin s c) ((c.job s plan).body >>= (c.job s plan).afterBody left number)
      b := by
  refine Safe.bind still_body hidden fun turns outcome u follows => ?_
  have still := (follows.within still_body).1
  have account : (b.after turns u).account = { b.account with last := b.account.last ++ turns } :=
    Account.foldl_add_of_opened (by rw [last]; nofun) fun turn ht => (still turn ht).1
  rw [session] at follows
  refine Ended.safe prepares retries
    ⟨hidden.after (fun turn ht => (still turn ht).2) u, span, keyed, ?_, opening, begun, turns, ?_,
      follows⟩
  · rw [account]
    exact before
  · rw [account, last]
    rfl

theorem safe_attempt
    (prepares : Follows origin c.prepare.run default prepared (pure (.ok plan)) ready)
    (retries : Retries origin s c plan (leading prepared counted) left number) {b : Progress}
    (hidden : b.Hidden) (before : b.account.before = leading prepared counted) :
    Safe origin (Tale origin s c)
      ((c.job s plan).attempts left number >>= (c.job s plan).conclude) b := by
  rw [Job.attempts_bind]
  refine ⟨.ahead hidden, fun opening store admits => ?_⟩
  rw [Progress.next_of_same b opening store .openSession (Session.begins_of_closed rfl) rfl]
  have silent : ∀ turn ∈ [(⟨.openSession, opening⟩ : Turn)], Silent turn.request := by
    intro turn ht
    cases List.mem_singleton.1 ht
    trivial
  have underway : Underway (leading prepared counted)
      (b.after [⟨.openSession, opening⟩] default) := ⟨hidden.after silent default, before, nofun⟩
  refine ⟨.ahead underway.hidden, fun begun store' admits' => ?_⟩
  let isolation := (c.job s plan).options.isolationLevel
  show Safe origin _ ((c.job s plan).afterBegin left number (store'.begin default isolation).1)
    ((b.after [⟨.openSession, opening⟩] default).next begun store' (.session (.begin isolation)))
  obtain ⟨same, ⟨⟨f, failed⟩, stays⟩ | ⟨ok, starts⟩⟩ := begin_cases store' isolation
  · have closed : Session.begins default (store'.begin default isolation).2.2 = false := by
      rw [stays]
      rfl
    rw [failed, Progress.next_of_same (b.after [⟨.openSession, opening⟩] default) begun store'
      (.session (.begin isolation)) closed same]
    exact retries.afterTransaction (underway.call (.begin isolation) begun _)
  · have account := Account.add_session underway.opened (.begin isolation) begun
    have opened : Session.begins default (store'.begin default isolation).2.2 = true := by
      rw [starts]
      rfl
    have last : ((b.after [⟨.openSession, opening⟩] default).next begun store'
        (.session (.begin isolation))).account.last = working isolation opening begun [] :=
      congrArg Account.last account
    rw [ok]
    refine safe_body prepares retries ⟨?_, fun turn ht => ?_⟩ ?_ admits'.keyed ?_ last starts
    · show (b.published || decide
        ((store'.begin default isolation).2.1.committed ≠ store'.committed)) = false
      rw [same, hidden.unpublished]
      simp
    · rcases Account.mem_turns_add ht with ht | rfl
      · exact underway.hidden.silent turn ht
      · trivial
    · show (if Session.begins default (store'.begin default isolation).2.2 then
        some (store'.committed, store'.committed) else _) = _
      rw [opened, if_pos rfl]
    · exact (congrArg Account.before account).trans underway.before

theorem safe_attempts
    (prepares : Follows origin c.prepare.run default prepared (pure (.ok plan)) ready)
    (left number : Nat) {b : Progress} (hidden : b.Hidden)
    (before : b.account.before = leading prepared counted) :
    Safe origin (Tale origin s c)
      ((c.job s plan).attempts left number >>= (c.job s plan).conclude) b := by
  have givesUp : ∀ number f b, Underway (leading prepared counted) b →
      Safe origin (Tale origin s c) ((do
        let e ← (Coordinator.giveUp (c.job s plan).context number f :
          Action WorkflowEvent WorkflowError)
        return .error e) >>= (c.job s plan).conclude) b := by
    intro number f b underway
    rw [Program.bind_assoc]
    exact Safe.of_uncounted (still_giveUp (c.job s plan) _ _ _) underway.hidden
  -- on the attempts left: an attempt is safe if the next one is, and giving up does not count
  induction left generalizing number b with
  | zero => exact safe_attempt prepares (fun f b h => givesUp number f b h) hidden before
  | succ left ih =>
    refine safe_attempt prepares (fun f b underway => ?_) hidden before
    show Safe origin _ ((if (c.job s plan).policy.shouldRetry f.kind number then _ else _) >>= _) b
    split
    · rw [Program.bind_assoc]
      refine Safe.bind (still_backOff _ _ _) underway.hidden fun turns u s' follows => ?_
      have later := underway.after (follows.within (still_backOff _ _ _)).1 s'
      exact ih (number + 1) later.hidden later.before
    · exact givesUp number f b underway

/-! ## The whole call -/

/-- A call that is safe from its start: whatever stores it finds, its tale is true at any time. -/
theorem safe_call (origin : Store) (s : Service) (c : Call) :
    Safe origin (Tale origin s c) (c.action s).run default := by
  have fresh : (default : Progress).Hidden := ⟨rfl, fun _ h => absurd h List.not_mem_nil⟩
  have still := still_prepare c
  rw [Call.action_eq]
  refine Safe.bind still fresh fun turns plan ready prepares => ?_
  have allowed := (prepares.within still).1
  have hidden := fresh.after (fun turn ht => (allowed turn ht).2) ready
  have account : ((default : Progress).after turns ready).account = ⟨turns, [], []⟩ :=
    Account.foldl_add_of_unopened rfl fun turn ht => (allowed turn ht).1
  cases plan with
  | error e =>
    refine .settled (.refused ?_ rfl hidden)
    rw [account, Account.kept, List.append_nil, Call.action_eq]
    exact prepares.bind (c.proceed s)
  | ok plan =>
    refine ⟨.ahead hidden, fun counted store admits => ?_⟩
    have calm : Calm (.signal (.count "transactions_total" [])) := trivial
    rw [Progress.next_of_calm admits counted calm]
    have before : (((default : Progress).after turns ready).account.add
        ⟨.signal (.count "transactions_total" []), counted⟩).before = leading turns counted := by
      rw [account, Account.add_of_unopened rfl calm]
      rfl
    refine safe_attempts prepares _ _ (hidden.after (fun turn ht => ?_) _) before
    cases List.mem_singleton.1 ht
    exact silent_count (by decide)

end

end

end Appraisal.Memory
