import Appraisal.Proofs.Concurrent.Plight

/-!
# Calls that are overtaken

On a store without planned failures an attempt fails in one way that is tried again: its commit
finds that the row that it contends for has been published since its transaction began
(`Begun.lost`).  The transactions of a call do not overlap, so every attempt that is lost is paid
for by another publication, and a call that gives up has lost all the attempts that it was allowed
(`fares_call`).

The lemmas take a call from its end to its start.  `Persists` is what is left of it when it has lost
an attempt.
-/

namespace Appraisal.Memory

open Workflow

/-! ## Attempts that are lost -/

/-- A call has lost so many attempts: since its first transaction began, the row that it contends
for has been published at least as often. -/
def Lost (c : Call) (n : Nat) (a : Plight) : Prop :=
  ∃ key start, contested c = some key ∧ a.first = some start ∧
    start.version key + n ≤ a.last.version key

/-- How a call may end. -/
inductive Concludes (promised : Prop) (s : Service) (c : Call) (a : Plight) :
    Except WorkflowError c.Value → Prop
  | value (v : c.Value) : Concludes promised s c a (.ok v)
  | application {e : WorkflowError} (h : isApplication e = true) :
    Concludes promised s c a (.error e)
  /-- All attempts were lost. -/
  | lost {e : TransactionError} (kind : e.kind = .serializationFailure)
    (lost : Lost c e.attempts a) (plan : c.Plan) (all : (c.job s plan).maxRetries ≤ e.attempts) :
    Concludes promised s c a (.error (.transaction e))
  /-- A row of a new request was there. -/
  | refused {e : TransactionError} (kind : e.kind ≠ .serializationFailure)
    (unpromised : ¬ promised) : Concludes promised s c a (.error (.transaction e))

/-- The program of a call ends as a call may. -/
abbrev Fares (origin : Store) (promised : Prop) (s : Service) (c : Call)
    (p : Action WorkflowEvent (Except WorkflowError c.Value)) (a : Plight) : Prop :=
  Endures origin promised (fun r a => Concludes promised s c a r) p a

section

variable {origin : Store} {promised : Prop} {s : Service} {c : Call} {plan : c.Plan} {a : Plight}
  {left number n : Nat}

/-- The request of the plan has an identifier that was generated for it. -/
def Prepared (c : Call) (plan : c.Plan) (a : Plight) : Prop :=
  ∀ p, revisionOf c plan = some p → p.request.id ∈ a.progress.drawn

theorem Prepared.next (h : Prepared c plan a) (w : Outside) (store : Store)
    (request : Request WorkflowEvent) : Prepared c plan (a.next w store request) :=
  fun p asked => Progress.drawn_next (h p asked) w store request

theorem Prepared.after (h : Prepared c plan a) (turns : List Turn) (u : Session) :
    Prepared c plan (a.after turns u) :=
  fun p asked => Progress.drawn_after.2 (.inl (h p asked))

/-! ### The end of all attempts -/

theorem afterAttempt_of_stops {f : Failure}
    (stops : (c.job s plan).policy.shouldRetry f.kind number = false) :
    (c.job s plan).afterAttempt left number (.error (.storage f)) = (do
      let e ← (Coordinator.giveUp (c.job s plan).context number f :
        Action WorkflowEvent WorkflowError)
      return .error e) := by
  cases left with
  | zero => rfl
  | succ left =>
    show (if (c.job s plan).policy.shouldRetry f.kind number then _ else _) = _
    rw [stops]
    rfl

theorem fares_giveUp {f : Failure}
    (stops : (c.job s plan).policy.shouldRetry f.kind number = false)
    (h : ∀ turns u, Concludes promised s c (a.after turns u)
      (.error (.transaction ⟨f.kind, f, (c.job s plan).context, number⟩))) :
    Fares origin promised s c ((c.job s plan).afterAttempt left number (.error (.storage f)) >>=
      (c.job s plan).conclude) a := by
  have ends : ((do
      let e ← (Coordinator.giveUp (c.job s plan).context number f :
        Action WorkflowEvent WorkflowError)
      return .error e) >>= (c.job s plan).conclude).Within Calm
        (· = .error (.transaction ⟨f.kind, f, (c.job s plan).context, number⟩)) :=
    ⟨trivial, fun _ => ⟨trivial, fun _ => ⟨trivial, fun _ => rfl⟩⟩⟩
  rw [afterAttempt_of_stops stops]
  refine Endures.of_calm ends fun turns r u ended => ?_
  rw [ended]
  exact h turns u

/-- What the work refuses to do is not tried again. -/
theorem fares_excused {e : WorkflowError}
    (excused : Excused promised (.error e : Except _ c.Result)) :
    Fares origin promised s c ((c.job s plan).afterBody left number (.error e)) a := by
  have rollBack := (still_rollBack (c.job s plan)).mono (fun _ h => h.1) fun _ h => h
  have release := (still_release (c.job s plan)).mono (fun _ h => h.1) fun _ h => h
  refine Endures.bind rollBack fun _ _ _ _ _ => Endures.bind release fun _ _ _ _ _ => ?_
  rcases excused e rfl with application | ⟨unpromised, f, rfl, once⟩
  · have final : WorkError.failure? e = none := by
      cases e with
      | storage => cases application
      | _ => rfl
    have ends : ((c.job s plan).afterAttempt left number (.error e) >>=
        (c.job s plan).conclude).Within Calm (· = .error e) := by
      rw [Job.afterAttempt, final]
      exact ⟨trivial, fun _ => rfl⟩
    refine Endures.of_calm ends fun turns r u ended => ?_
    rw [ended]
    exact .application application
  · refine fares_giveUp (by rw [RetryPolicy.shouldRetry, once, Bool.false_and]) fun _ _ =>
      .refused (fun same => ?_) unpromised
    rw [show f.kind = .serializationFailure from same] at once
    cases once

/-- A call goes on as it may when it has lost an attempt. -/
def Persists (origin : Store) (promised : Prop) (s : Service) (c : Call) (plan : c.Plan)
    (left number : Nat) : Prop :=
  ∀ a, Prepared c plan a → Lost c number a → Fares origin promised s c
    ((c.job s plan).afterAttempt left number (.error (.storage concurrentUpdate)) >>=
      (c.job s plan).conclude) a

/-! ### The commit -/

/-- The commit of a transaction on a store without failures succeeds, or a row that was written has
been published since. -/
theorem commit_of_quiet {store : Store} {u : Session} {t : Transaction}
    (working : u.working = some t) (quiet : store.faults.onCommit = []) :
    (store.commit u).1 = .ok () ∨
      (store.commit u).1 = .error concurrentUpdate ∧
        ∃ key ∈ t.writes, t.tables.version key ≠ store.committed.version key := by
  simp only [Store.commit, working, quiet]
  cases u.readOnly with
  | true => exact .inl rfl
  | false =>
    simp only [Store.publish]
    cases can : t.canCommit store.committed with
    | true => exact .inl rfl
    | false =>
      refine .inr ⟨rfl, ?_⟩
      rw [Transaction.canCommit, List.all_eq_false] at can
      obtain ⟨key, mem, other⟩ := can
      exact ⟨key, mem, by simpa using other⟩

/-- A transaction has begun, after so many attempts that were lost. -/
structure Begun (c : Call) (n : Nat) (base : Tables) (a : Plight) : Prop where
  stands : a.progress.base = base
  since : ∃ start, a.first = some start ∧ ∀ key, contested c = some key →
    start.version key + n ≤ base.version key

theorem Begun.after {base : Tables} (h : Begun c n base a) (turns : List Turn) (u : Session) :
    Begun c n base (a.after turns u) := ⟨h.stands, h.since⟩

/-- A commit that fails has been overtaken by another one of the same row. -/
theorem Begun.lost {base : Tables} (begun : Begun c n base a) (prepared : Prepared c plan a)
    {t : Transaction} (working : a.progress.session.working = some t)
    (stores : ∀ key ∈ t.writes, Stores c plan base key) {store : Store}
    (meets : Meets origin promised a store (.session .commit)) (w : Outside)
    (conflict : ∃ key ∈ t.writes, t.tables.version key ≠ store.committed.version key) :
    Lost c (n + 1) (a.next w store (.session .commit)) := by
  obtain ⟨key, mem, other⟩ := conflict
  have opened : a.progress.session.working.isSome := by rw [working]; rfl
  have copied := meets.admits.sound.working t working
  have evolves := meets.admits.evolves opened
  rw [begun.stands] at copied evolves
  rw [copied.version] at other
  cases stores key mem with
  | contested own known =>
    obtain ⟨start, first, since⟩ := begun.since
    refine ⟨key, start, own, first, ?_⟩
    have grown := evolves.version_le key
    have before := since key own
    show start.version key + (n + 1) ≤ store.committed.version key
    omega
  | @created p asked about absent =>
    have spares := meets.spares opened p.request.id (prepared p asked)
    rw [begun.stands] at spares
    exact absurd (spares absent key about).2.symm other

theorem Persists.afterBody (h : Persists origin promised s c plan left (n + 1)) {base : Tables}
    (begun : Begun c n base a) (prepared : Prepared c plan a)
    {outcome : Except WorkflowError c.Result} (excused : Excused promised outcome)
    (stores : ∀ v, outcome = .ok v → ∃ t, a.progress.session.working = some t ∧
      ∀ key ∈ t.writes, Stores c plan base key) :
    Fares origin promised s c ((c.job s plan).afterBody left (n + 1) outcome) a := by
  cases outcome with
  | error e => exact fares_excused excused
  | ok v =>
    obtain ⟨t, working, stores⟩ := stores v rfl
    refine ⟨fun t' working' key mem id about => ?_, fun w store meets => ?_⟩
    · cases working.symm.trans working'
      rw [begun.stands]
      cases stores key mem with
      | contested own known => exact .inr (known id about)
      | created asked about' absent =>
        cases about.symm.trans about'
        exact .inl (prepared _ asked)
    · show Fares origin promised s c ((c.job s plan).afterCommit left (n + 1) v
        (store.commit a.progress.session).1) _
      have release := (still_release (c.job s plan)).mono (fun _ h => h.1) fun _ h => h
      rcases commit_of_quiet working meets.onCommit with ok | ⟨failed, conflict⟩
      · rw [ok]
        refine Endures.bind release fun turns _ u _ _ => ?_
        show Fares origin promised s c ((c.job s plan).conclude (.ok v)) _
        refine Endures.of_calm ((calm_conclude s c plan _).and (within_conclude s c plan _))
          fun turns r u ended => ?_
        rw [ended.2]
        exact .value _
      · rw [failed]
        have rollBack := (still_rollBack (c.job s plan)).mono (fun _ h => h.1) fun _ h => h
        have lost := begun.lost prepared working stores meets w conflict
        exact Endures.bind rollBack fun turns _ u _ _ =>
          Endures.bind release fun turns' _ u' _ _ =>
            h _ (((prepared.next w store _).after turns u).after turns' u') lost

/-! ### The attempts -/

/-- A call makes its first attempt, or it has lost so many. -/
def Tries (c : Call) (n : Nat) (a : Plight) : Prop := n = 0 ∧ a.first = none ∨ Lost c n a

theorem Tries.begun (h : Tries c n a) (opening begun : Outside) (store : Store) {store' : Store}
    {isolation : Isolation}
    (later : ∀ key, a.last.version key ≤ store'.committed.version key)
    (starts : (store'.begin default isolation).2.2 = .opened store'.committed) :
    Begun c n store'.committed
      ((a.next opening store .openSession).next begun store' (.session (.begin isolation))) where
  stands := by
    show ((a.progress.next opening store .openSession).next begun store'
      (.session (.begin isolation))).base = _
    rw [Progress.base_next, if_pos]
    show Session.begins default (store'.begin default isolation).2.2 = true
    rw [starts]
    rfl
  since := by
    show ∃ start, a.first.or (some store'.committed) = some start ∧ _
    rcases h with ⟨rfl, none⟩ | ⟨key, start, own, first, lost⟩
    · rw [none]
      exact ⟨_, rfl, fun key _ => Nat.le_refl _⟩
    · rw [first]
      refine ⟨start, rfl, fun key' own' => ?_⟩
      cases own.symm.trans own'
      exact Nat.le_trans lost (later key)

theorem Persists.attempt (h : Persists origin promised s c plan left (n + 1))
    (prepared : Prepared c plan a) (tries : Tries c n a) :
    Fares origin promised s c
      ((c.job s plan).attempts left (n + 1) >>= (c.job s plan).conclude) a := by
  rw [Job.attempts_bind]
  refine ⟨trivial, fun opening store meets => ⟨trivial, fun begun store' meets' => ?_⟩⟩
  let isolation := (c.job s plan).options.isolationLevel
  have begins : (store'.begin default isolation).1 = .ok () ∧
      (store'.begin default isolation).2.2 = .opened store'.committed := by
    simp only [Store.begin, meets'.onBegin]
    exact ⟨rfl, rfl⟩
  have stands := tries.begun opening begun store meets'.later begins.2
  have ready := (prepared.next opening store .openSession).next begun store'
    (.session (.begin isolation))
  have lacks : promised → ∀ p, revisionOf c plan = some p →
      store'.committed.Lacks p.request.id := fun promise p asked =>
    meets'.lacks promise isolation rfl _ (prepared.next opening store .openSession p asked)
  show Fares origin promised s c ((c.job s plan).afterBegin left (n + 1)
    (store'.begin default isolation).1) _
  rw [begins.1]
  have body : (c.job s plan).body.Within Calm fun _ => True :=
    still_body.mono (fun _ h => h.1) fun _ h => h
  refine Endures.bind body fun turns outcome u follows _ => ?_
  have session : ((a.next opening store .openSession).next begun store'
      (.session (.begin isolation))).progress.session = .opened store'.committed := begins.2
  rw [session] at follows
  refine h.afterBody (stands.after turns u) (ready.after turns u)
    ((comes_body s c plan _ lacks).of_follows follows) fun v ended => ?_
  rw [ended] at follows
  exact follows.stores meets'.admits.keyed

theorem kind_concurrentUpdate : concurrentUpdate.kind = .serializationFailure := by decide

theorem shouldRetry_concurrentUpdate (policy : RetryPolicy) (number : Nat) :
    policy.shouldRetry concurrentUpdate.kind number = decide (number < policy.maxRetries) := by
  rw [kind_concurrentUpdate]
  rfl

theorem fares_lost (lost : Lost c number a) (all : (c.job s plan).policy.maxRetries ≤ number) :
    Fares origin promised s c
      ((c.job s plan).afterAttempt left number (.error (.storage concurrentUpdate)) >>=
        (c.job s plan).conclude) a := by
  refine fares_giveUp ?_ fun _ _ => .lost kind_concurrentUpdate lost plan all
  rw [shouldRetry_concurrentUpdate, decide_eq_false (Nat.not_lt.2 all)]

theorem persists (left number : Nat)
    (bound : left + number = (c.job s plan).policy.maxRetries + 1) :
    Persists origin promised s c plan left number := by
  -- on the attempts left: a lost attempt is followed by the next one, or it was the last
  induction left generalizing number with
  | zero => exact fun a _ lost => fares_lost lost (by omega)
  | succ left ih =>
    intro a prepared lost
    by_cases more : number < (c.job s plan).policy.maxRetries
    · show Fares origin promised s c
        ((if (c.job s plan).policy.shouldRetry concurrentUpdate.kind number then _ else _) >>= _) a
      rw [shouldRetry_concurrentUpdate, decide_eq_true more, if_pos rfl, Program.bind_assoc]
      have backOff := (still_backOff (c.job s plan).policy number concurrentUpdate).mono
        (fun _ h => h.1) fun _ h => h
      exact Endures.bind backOff fun turns _ u _ _ =>
        (ih (number + 1) (by omega)).attempt (prepared.after turns u) (.inr lost)
    · exact fares_lost lost (Nat.le_of_not_lt more)

end

/-- Whatever stores a call finds, it is ready for its commits and ends as a call may. -/
theorem fares_call (origin : Store) (promised : Prop) (s : Service) (c : Call) :
    Fares origin promised s c (c.action s).run ⟨default, none, default⟩ := by
  have calm := (still_prepare c).mono (fun _ h => h.1) fun _ h => h
  rw [Call.action_eq]
  refine Endures.bind calm fun turns outcome u follows _ => ?_
  cases outcome with
  | error e =>
    have prepares : Behaves origin True c.prepare.run default := comes_prepare c
    rcases prepares.of_follows follows e rfl with h | ⟨h, -⟩
    · exact .application h
    · exact absurd trivial h
  | ok plan =>
    have prepared : Prepared c plan ((⟨default, none, default⟩ : Plight).after turns u) :=
      fun p asked => Progress.drawn_after.2 (.inr (follows.drawn_prepare asked))
    refine ⟨trivial, fun w store meets => ?_⟩
    exact Persists.attempt (persists _ 1 rfl) (prepared.next w store _) (.inl ⟨rfl, rfl⟩)

end Appraisal.Memory
