import Appraisal.Proofs.Transaction.Trace

/-!
# Coordinated runs take effect once or not at all

A run that ends with an error has changed no committed row.  A run that ends with a value has
committed in its last attempt, and only there.  It published the rows that its work had written in
that attempt, on the snapshot taken at the begin of it (`runWith_takes_effect_once`).

The statement is about traces, so other sessions may commit between any two requests.  The lemmas
follow an attempt from the inside: the work between the calls that frame it (`invoked_body`), the
transaction around it (`once_transaction`), the session around that, and the attempts in a row.
-/

namespace Appraisal.Memory

open Coordinator Session

variable {ε E α : Type}

/-! ## What takes effect -/

/-- The request sets up or takes down what work runs inside of. -/
def Framing : Request ε → Prop
  | .session .setReadOnly | .session (.savepoint _) | .session (.releaseSavepoint _) => True
  | _ => False

theorem Framing.working_eq {committed : Tables} {s s' : Session} {call : SessionCall}
    (framing : Framing (.session call : Request ε)) (step : s.Step committed call s') :
    s'.working = s.working := by
  cases step with
  | stay => rfl
  | setReadOnly => rfl
  | savepoint => rfl
  | releaseSavepoint => rfl
  | begin => exact framing.elim
  | put => exact framing.elim
  | rollbackToSavepoint => exact framing.elim
  | commit => exact framing.elim
  | rollback => exact framing.elim
  | release => exact framing.elim

/-- Work was invoked on a transaction, returned a value and left the transaction as given.  The
other requests of the trace only frame it. -/
inductive Invoked (work : Work ε E α) (v : α) (t t' : Transaction) : List (Exchange ε) → Prop
  | mk (before inside after : List (Exchange ε)) {s s' : Session}
    (framed : ∀ x ∈ before ++ after, Framing x.request) (found : s.working = some t)
    (ran : Traced work.run s inside (.ok v) s') (left : s'.working = some t') :
    Invoked work v t t' (before ++ inside ++ after)

/-- A transaction that began, did the work and committed.  The rows that the work had written on the
snapshot of the begin were published, each with a new version, and no others. -/
inductive Effective (work : Work ε E α) (v : α) : List (Exchange ε) → Prop
  | mk {begun committed : Exchange ε} {body : List (Exchange ε)} {t : Transaction}
    (begins : begun.begins) (invoked : Invoked work v (.start begun.found.committed) t body)
    (copied : t.Over begun.found.committed) (idle : ∀ x ∈ begun :: body, x.Idle)
    (commits : committed.commits)
    (rows : ∀ k, committed.left.committed.row k =
      if k ∈ t.writes then t.tables.row k else committed.found.committed.row k)
    (versions : ∀ k, committed.left.committed.version k =
      if k ∈ t.writes then committed.found.committed.version k + 1
      else committed.found.committed.version k) :
    Effective work v (begun :: body ++ [committed])

/-- A trace took effect once if its outcome is a value, in the last session that it opened, and
otherwise not at all. -/
inductive Once (work : Work ε E α) : Except E α → List (Exchange ε) → Prop
  | failed (e : E) {trace : List (Exchange ε)} (idle : ∀ x ∈ trace, x.Idle) :
    Once work (.error e) trace
  | done {v : α} (earlier attempt later : List (Exchange ε)) (effect : Effective work v attempt)
    (idle : ∀ x ∈ earlier ++ later, x.Idle)
    (last : ∀ x ∈ attempt ++ later, x.request ≠ .openSession) :
    Once work (.ok v) (earlier ++ attempt ++ later)

/-! ## Requests that neither open nor commit -/

/-- The request neither opens a session nor commits. -/
def Tidy (request : Request ε) : Prop :=
  request ≠ .openSession ∧ request ≠ .session .commit

theorem Inner.tidy {request : Request ε} (h : Inner request) : Tidy request := by
  constructor
  · rintro rfl
    exact h
  · rintro rfl
    exact h

theorem Session.Traced.idle {p : Action ε α} {s s' : Session} {trace : List (Exchange ε)} {a : α}
    {post : α → Prop} (h : Traced p s trace a s') (tidy : p.Within Tidy post) :
    ∀ x ∈ trace, x.Idle ∧ x.request ≠ .openSession := by
  intro x hx
  obtain ⟨opens, commits⟩ := (h.within tidy).1 x hx
  obtain ⟨before, after, answered⟩ := h.answered hx
  exact ⟨answered.idle commits, opens⟩

theorem tidy_signal (signal : Signal) : Tidy (.signal signal : Request ε) := ⟨nofun, nofun⟩

theorem tidy_rollBack (c : Coordinator) (context : String) :
    (c.rollBack context : Action ε Unit).Within Tidy fun _ => True :=
  within_cleanUp c context .rollback ⟨⟨nofun, nofun⟩, fun _ => trivial⟩ tidy_signal

theorem Invoked.frame {work : Work ε E α} {v : α} {t t' : Transaction} {x : Exchange ε}
    {trace : List (Exchange ε)} (h : Invoked work v t t' trace) (framing : Framing x.request) :
    Invoked work v t t' (x :: trace) := by
  cases h with
  | mk before inside after framed found ran left =>
    refine .mk (x :: before) inside after (fun y hy => ?_) found ran left
    rcases List.mem_cons.1 hy with rfl | hy
    · exact framing
    · exact framed y hy

/-- A commit that succeeds publishes the rows that the transaction wrote, and no others. -/
theorem effective_of_commit {work : Work ε E α} {v : α} {base : Tables} {s : Session}
    {t : Transaction} {found : Store} {begun : Exchange ε} {trace : List (Exchange ε)}
    (begins : begun.begins) (snapshot : begun.found.committed = base)
    (idle : ∀ x ∈ begun :: trace, x.Idle) (active : s.Active base) (working : s.working = some t)
    (invoked : Invoked work v (.start base) t trace) (ok : (found.commit s).1 = .ok ()) :
    Effective work v (begun :: trace ++
      [⟨.session .commit, (found.commit s).1, found, (found.commit s).2.1⟩]) := by
  subst snapshot
  have copied := active.sound.working t working
  have published : (found.commit s).2.1.committed = found.committed.publish t.tables t.writes := by
    obtain ⟨-, ⟨⟨f, failed⟩, -⟩ | ⟨-, readOnly, same⟩ | ⟨-, -, -, same⟩⟩ :=
      commit_cases found working
    · rw [failed] at ok
      cases ok
    · rw [same, (active.unwritten readOnly).1 t working]
      rfl
    · exact same
  refine .mk begins invoked copied idle ?_ (fun k => ?_) fun k => ?_
  · rw [ok]
    trivial
  · show (found.commit s).2.1.committed.row k = _
    rw [published, Tables.row_publish]
  · show (found.commit s).2.1.committed.version k = _
    rw [published, Tables.version_publish _ _ copied.nodup]

namespace Once

variable {work : Work ε E α} {r : Except E α} {trace more : List (Exchange ε)}

theorem prepend (h : Once work r trace) (idle : ∀ x ∈ more, x.Idle) :
    Once work r (more ++ trace) := by
  cases h with
  | failed e quiet =>
    refine .failed e fun x hx => ?_
    rcases List.mem_append.1 hx with hx | hx
    · exact idle x hx
    · exact quiet x hx
  | done earlier attempt later effect quiet last =>
    rw [List.append_assoc, ← List.append_assoc, ← List.append_assoc]
    refine .done _ _ _ effect (fun x hx => ?_) last
    rw [List.append_assoc] at hx
    rcases List.mem_append.1 hx with hx | hx
    · exact idle x hx
    · exact quiet x hx

/-- Idle requests after a trace, of which none opens a session. -/
theorem append (h : Once work r trace) (idle : ∀ x ∈ more, x.Idle ∧ x.request ≠ .openSession) :
    Once work r (trace ++ more) := by
  cases h with
  | failed e quiet =>
    refine .failed e fun x hx => ?_
    rcases List.mem_append.1 hx with hx | hx
    · exact quiet x hx
    · exact (idle x hx).1
  | done earlier attempt later effect quiet last =>
    rw [List.append_assoc]
    refine .done _ _ _ effect (fun x hx => ?_) fun x hx => ?_
    · rw [← List.append_assoc] at hx
      rcases List.mem_append.1 hx with hx | hx
      · exact quiet x hx
      · exact (idle x hx).1
    · rw [← List.append_assoc] at hx
      rcases List.mem_append.1 hx with hx | hx
      · exact last x hx
      · exact (idle x hx).2

end Once

section

variable [WorkError E] {c : Coordinator} {context : String} {options : TransactionOptions}
  {work : Work ε E α} {s s' : Session} {trace : List (Exchange ε)} {v : α} {r : Except E α}

/-! ## The work and what frames it -/

theorem inner_inOptionalSavepoint (inner : work.run.Within Inner fun _ => True) :
    (c.inOptionalSavepoint context options work).run.Within Inner fun _ => True := by
  rw [inOptionalSavepoint]
  cases options.savepoint with
  | none => exact inner
  | some name => exact inner_inSavepoint c context name inner

theorem tidy_body (inner : work.run.Within Inner fun _ => True) :
    (c.body context options work).run.Within Tidy fun _ => True := by
  have rest : (c.inOptionalSavepoint context options work).run.Within Tidy fun _ => True :=
    (inner_inOptionalSavepoint inner).mono (fun _ h => h.tidy) fun _ h => h
  rw [body]
  split
  · refine ⟨⟨nofun, nofun⟩, fun answer => ?_⟩
    cases answer with
    | ok u => exact rest
    | error f => trivial
  · exact rest

/-- Work that succeeds in a savepoint leaves the transaction as the scope does. -/
theorem invoked_inSavepoint {base : Tables} {name : String} {t : Transaction}
    (inner : work.run.Within Inner fun _ => True) (active : s.Active base)
    (working : s.working = some t)
    (ran : Traced (c.inSavepoint context name work).run s trace (.ok v) s') :
    ∃ t', s'.working = some t' ∧ Invoked work v t t' trace := by
  rw [inSavepoint, ExceptT.run_mk] at ran
  obtain ⟨found, rest, rfl, go⟩ := Traced.of_session ran
  clear ran
  have set : s.Step found.committed (.savepoint name) (found.answer s (.savepoint name)).2.2 :=
    found.step_savepoint s name
  have active' := active.step set (by trivial : Inner (.session (.savepoint name) : Request ε))
  have framing : Framing (.session (.savepoint name) : Request ε) := trivial
  have saved : (found.answer s (.savepoint name)).2.2.working = some t :=
    (framing.working_eq set).trans working
  cases answered : (found.answer s (.savepoint name)).1 with
  | error f =>
    rw [answered] at go
    cases go.of_pure.2.1
  | ok u =>
    rw [answered] at go
    obtain ⟨inside, outcome, mid, after, rfl, worked, go⟩ := go.of_bind
    cases outcome with
    | error e =>
      obtain ⟨_, _, _, _, -, -, go⟩ := go.of_bind
      cases go.of_pure.2.1
    | ok a =>
      obtain ⟨t', left⟩ := Option.isSome_iff_exists.1 (active'.traced worked inner).working
      obtain ⟨found', rest, rfl, go'⟩ := Traced.of_session go
      clear go
      have framing' : Framing (.session (.releaseSavepoint name) : Request ε) := trivial
      have released := framing'.working_eq (found'.step_releaseSavepoint mid name)
      cases answered' : (found'.answer mid (.releaseSavepoint name)).1 with
      | error f =>
        rw [answered'] at go'
        cases go'.of_pure.2.1
      | ok u' =>
        rw [answered'] at go'
        obtain ⟨rfl, same, rfl⟩ := go'.of_pure
        cases same
        refine ⟨t', released.trans left, .mk [_] inside [_] ?_ saved worked left⟩
        intro x hx
        rcases List.mem_cons.1 hx with rfl | hx
        · exact framing
        · cases List.mem_singleton.1 hx
          exact framing'

theorem invoked_inOptionalSavepoint {base : Tables} {t : Transaction}
    (inner : work.run.Within Inner fun _ => True) (active : s.Active base)
    (working : s.working = some t)
    (ran : Traced (c.inOptionalSavepoint context options work).run s trace (.ok v) s') :
    ∃ t', s'.working = some t' ∧ Invoked work v t t' trace := by
  rw [inOptionalSavepoint] at ran
  cases asked : options.savepoint with
  | some name =>
    rw [asked] at ran
    exact invoked_inSavepoint inner active working ran
  | none =>
    rw [asked] at ran
    obtain ⟨t', left⟩ := Option.isSome_iff_exists.1 (active.traced ran inner).working
    have alone := Invoked.mk [] trace [] (fun x hx => absurd hx List.not_mem_nil) working ran left
    rw [List.nil_append, List.append_nil] at alone
    exact ⟨t', left, alone⟩

/-- Between its begin and its end a transaction invokes its work once, if that succeeds. -/
theorem invoked_body {base : Tables} (inner : work.run.Within Inner fun _ => True)
    (ran : Traced (c.body context options work).run (.opened base) trace (.ok v) s') :
    s'.Active base ∧ ∃ t, s'.working = some t ∧ Invoked work v (.start base) t trace := by
  have optional : (c.inOptionalSavepoint context options work).run.Within Inner fun _ => True :=
    inner_inOptionalSavepoint inner
  rw [body] at ran
  split at ran
  · obtain ⟨found, rest, rfl, go⟩ := Traced.of_session ran
    have active := active_readOnly base
    obtain ⟨t, left, invoked⟩ := invoked_inOptionalSavepoint inner active rfl go
    exact ⟨active.traced go optional, t, left, invoked.frame trivial⟩
  · have active := active_opened base
    exact ⟨active.traced ran optional, invoked_inOptionalSavepoint inner active rfl ran⟩

/-! ## One attempt -/

/-- How a transaction ends when its body has come to an outcome. -/
def ending (c : Coordinator) (context : String) : Except E α → Action ε (Except E α)
  | .error e => do
    c.rollBack context
    return .error e
  | .ok a => do
    match ← Action.session .commit with
    | .ok () => return .ok a
    | .error f =>
      c.rollBack context
      return .error (ofFailure f)

theorem transaction_eq : (c.transaction context options work).run =
    (Action.session (.begin options.isolationLevel) >>= fun
      | .error f => pure (.error (ofFailure f))
      | .ok () => (c.body context options work).run >>= ending c context) := by
  rw [transaction, ExceptT.run_mk]
  refine congrArg (Program.bind _) (funext fun answer => ?_)
  cases answer with
  | error f => rfl
  | ok u =>
    refine congrArg (Program.bind _) (funext fun outcome => ?_)
    cases outcome <;> rfl

theorem once_ending {base : Tables} {begun : Exchange ε} {body rest : List (Exchange ε)}
    {outcome : Except E α} (begins : begun.begins) (snapshot : begun.found.committed = base)
    (idle : ∀ x ∈ begun :: body, x.Idle ∧ x.request ≠ .openSession)
    (succeeded : ∀ v, outcome = .ok v → s.Active base ∧
      ∃ t, s.working = some t ∧ Invoked work v (.start base) t body)
    (ran : Traced (ending c context outcome) s rest r s') :
    Once work r (begun :: body ++ rest) ∧
      ∀ x ∈ begun :: body ++ rest, x.request ≠ .openSession := by
  have quiet : ∀ x ∈ begun :: body, x.Idle := fun x hx => (idle x hx).1
  have rolled : ∀ {u : Session} {e : E} {more : List (Exchange ε)},
      Traced (c.rollBack context >>= fun _ => pure (.error e)) u more r s' →
      r = .error e ∧ ∀ x ∈ more, x.Idle ∧ x.request ≠ .openSession := by
    intro u e more back
    have tidy : (c.rollBack context >>= fun _ => (pure (.error e) : Action ε (Except E α))).Within
        Tidy (· = .error e) := (tidy_rollBack c context).bind fun _ _ => rfl
    exact ⟨(back.within tidy).2, back.idle tidy⟩
  have unopened : ∀ {more : List (Exchange ε)}, (∀ x ∈ more, x.request ≠ .openSession) →
      ∀ x ∈ begun :: body ++ more, x.request ≠ .openSession := by
    intro more later x hx
    rcases List.mem_append.1 hx with hx | hx
    · exact (idle x hx).2
    · exact later x hx
  cases outcome with
  | error e =>
    obtain ⟨rfl, back⟩ := rolled ran
    exact ⟨.append (.failed e quiet) back, unopened fun x hx => (back x hx).2⟩
  | ok v =>
    obtain ⟨active, t, working, invoked⟩ := succeeded v rfl
    obtain ⟨found, more, rfl, go⟩ := Traced.of_session ran
    clear ran
    obtain ⟨⟨⟩, ok⟩ | ⟨f, failed⟩ : (∃ u, (found.answer s .commit).1 = .ok u) ∨
        ∃ f, (found.answer s .commit).1 = .error f := by
      cases (found.answer s .commit).1 with
      | ok u => exact .inl ⟨u, rfl⟩
      | error f => exact .inr ⟨f, rfl⟩
    · rw [ok] at go
      obtain ⟨rfl, rfl, -⟩ := go.of_pure
      have last : ∀ x ∈ begun :: body ++ [⟨.session .commit, (found.commit s).1, found,
          (found.commit s).2.1⟩], x.request ≠ .openSession := by
        refine unopened fun x hx => ?_
        cases List.mem_singleton.1 hx
        nofun
      have effect := effective_of_commit begins snapshot quiet active working invoked ok
      have once := Once.done [] _ [] effect (fun x hx => absurd hx List.not_mem_nil)
        (by rwa [List.append_nil])
      rw [List.append_nil] at once
      exact ⟨once, last⟩
    · rw [failed] at go
      obtain ⟨rfl, back⟩ := rolled go
      have all : ∀ x ∈ (⟨.session .commit, (found.commit s).1, found, (found.commit s).2.1⟩ :
          Exchange ε) :: more, x.Idle ∧ x.request ≠ .openSession := by
        intro x hx
        rcases List.mem_cons.1 hx with rfl | hx
        · exact ⟨idle_commit_of_failed failed, nofun⟩
        · exact back x hx
      exact ⟨.append (.failed _ quiet) all, unopened fun x hx => (all x hx).2⟩

theorem once_transaction (inner : work.run.Within Inner fun _ => True)
    (ran : Traced (c.transaction context options work).run default trace r s') :
    Once work r trace ∧ ∀ x ∈ trace, x.request ≠ .openSession := by
  rw [transaction_eq] at ran
  obtain ⟨found, rest, rfl, go⟩ := Traced.of_session ran
  clear ran
  have idle : Exchange.Idle (ε := ε) ⟨.session (.begin options.isolationLevel),
      (found.answer default (.begin options.isolationLevel)).1, found,
      (found.answer default (.begin options.isolationLevel)).2.1⟩ :=
    Answered.idle (.call _ found) nofun
  obtain ⟨same, ⟨⟨f, failed⟩, stays⟩ | ⟨ok, starts⟩⟩ :=
    begin_cases found options.isolationLevel
  · have failed' : (found.answer default (.begin options.isolationLevel)).1 = .error f := failed
    rw [failed'] at go
    obtain ⟨rfl, rfl, -⟩ := go.of_pure
    refine ⟨.failed _ fun x hx => ?_, fun x hx => ?_⟩
    · cases List.mem_singleton.1 hx
      exact idle
    · cases List.mem_singleton.1 hx
      nofun
  · have ok' : (found.answer default (.begin options.isolationLevel)).1 = .ok () := ok
    have starts' : (found.answer default (.begin options.isolationLevel)).2.2 =
      .opened found.committed := starts
    rw [ok', starts'] at go
    obtain ⟨body, outcome, u, more, rfl, worked, go⟩ := go.of_bind
    have tidy := worked.idle (tidy_body inner)
    refine once_ending ?_ rfl (fun x hx => ?_) (fun v same => ?_) go
    · rw [ok']
      trivial
    · rcases List.mem_cons.1 hx with rfl | hx
      · exact ⟨idle, nofun⟩
      · exact tidy x hx
    · subst same
      exact invoked_body inner worked

/-- An attempt takes effect once if it succeeds, and otherwise not at all. -/
theorem once_attempt (inner : work.run.Within Inner fun _ => True)
    (ran : Traced (c.attempt context options work).run s trace r s') : Once work r trace := by
  rw [attempt, ExceptT.run_mk] at ran
  cases ran with
  | ask answered go =>
    have opens : ∀ {answer : (Request.openSession : Request ε).Answer} {found left : Store}
        {mid : Session}, Answered s .openSession answer found left mid →
        ∀ x ∈ [(⟨.openSession, answer, found, left⟩ : Exchange ε)], x.Idle := by
      intro answer found left mid answered x hx
      cases List.mem_singleton.1 hx
      exact answered.idle nofun
    have idle := opens answered
    cases answered with
    | refused f found =>
      obtain ⟨rfl, rfl, -⟩ := Traced.of_pure go
      exact .failed _ idle
    | opened found =>
      change Traced ((c.transaction context options work).run >>= _) _ _ _ _ at go
      obtain ⟨first, outcome, mid, rest, rfl, ran, go⟩ := go.of_bind
      obtain ⟨last, u, mid', after, rfl, released, go⟩ := go.of_bind
      obtain ⟨rfl, rfl, -⟩ := go.of_pure
      have release : (Action.session .release : Action ε _).Within Tidy fun _ => True :=
        ⟨⟨nofun, nofun⟩, fun _ => trivial⟩
      have quiet := released.idle (within_cleanUp c context .release release tidy_signal)
      rw [List.append_nil]
      exact ((once_transaction inner ran).1.append quiet).prepend idle
    | other off => exact off.elim

/-! ## Attempts in a row -/

/-- Waiting for the next attempt is a log entry, a count and a pause. -/
theorem within_backOff {allowed : Request ε → Prop} (signals : ∀ signal, allowed (.signal signal))
    (sleeps : ∀ delay, allowed (.sleep delay)) (policy : RetryPolicy) (number : Nat) (f : Failure) :
    (backOff policy number f : Action ε Unit).Within allowed fun _ => True :=
  ⟨signals _, fun _ => ⟨signals _, fun _ => ⟨sleeps _, fun _ => trivial⟩⟩⟩

/-- Giving up is a log entry and a count. -/
theorem within_giveUp {allowed : Request ε → Prop} (signals : ∀ signal, allowed (.signal signal))
    (number : Nat) (f : Failure) :
    (giveUp context number f : Action ε E).Within allowed fun _ => True :=
  ⟨signals _, fun _ => ⟨signals _, fun _ => trivial⟩⟩

/-- An attempt and what follows it: if it fails it is idle, so only the next ones count. -/
theorem once_of_next (inner : work.run.Within Inner fun _ => True) {left number : Nat}
    (next : ∀ {k f u more}, left = k + 1 → Traced (do
      backOff (c.settings.policyFor options) number f
      (c.attempts context options work k (number + 1)).run) u more r s' → Once work r more)
    (ran : Traced (c.attempts context options work left number).run s trace r s') :
    Once work r trace := by
  have givesUp : ∀ {f : Failure} {u : Session} {more : List (Exchange ε)}, Traced (do
      let e ← (giveUp context number f : Action ε E)
      return .error e) u more r s' → Once work r more := by
    intro f u more gone
    have tidy : ((giveUp context number f : Action ε E) >>= fun e =>
        (pure (.error e) : Action ε (Except E α))).Within Tidy fun r => ∃ e, r = .error e :=
      (within_giveUp tidy_signal number f).bind fun e _ => ⟨e, rfl⟩
    obtain ⟨e, rfl⟩ := (gone.within tidy).2
    exact .failed e fun x hx => (gone.idle tidy x hx).1
  rw [attempts, ExceptT.run_mk] at ran
  obtain ⟨first, outcome, mid, rest, rfl, ran, go⟩ := ran.of_bind
  have once := once_attempt inner ran
  cases outcome with
  | ok v =>
    obtain ⟨rfl, rfl, -⟩ := go.of_pure
    rwa [List.append_nil]
  | error e =>
    have idle : ∀ x ∈ first, x.Idle := by
      cases once with
      | failed _ idle => exact idle
    refine Once.prepend ?_ idle
    cases raw : WorkError.failure? e with
    | none =>
      simp only [raw] at go
      obtain ⟨rfl, rfl, -⟩ := go.of_pure
      exact .failed e fun x hx => absurd hx List.not_mem_nil
    | some f =>
      simp only [raw] at go
      cases left with
      | zero => exact givesUp go
      | succ k =>
        simp only at go
        split at go
        · exact next rfl go
        · exact givesUp go

theorem once_attempts (inner : work.run.Within Inner fun _ => True) {left number : Nat}
    (ran : Traced (c.attempts context options work left number).run s trace r s') :
    Once work r trace := by
  induction left generalizing number s trace with
  | zero =>
    refine once_of_next inner (fun {k f u more} same _ => ?_) ran
    cases same
  | succ left ih =>
    refine once_of_next inner (fun {k f u more} same go => ?_) ran
    cases same
    obtain ⟨waited, a, mid, rest, rfl, waits, go⟩ := go.of_bind
    exact (ih go).prepend fun x hx =>
      (waits.idle (within_backOff tidy_signal (fun _ => ⟨nofun, nofun⟩) _ _ _) x hx).1

/-- A coordinated run of scoped work takes effect once or not at all, whatever stores it finds.  If
it ends with an error, it has changed no committed row and no version.  If it ends with a value, the
last session that it opened committed and no other did.  What was published are the rows that the
work wrote when it returned that value, on the snapshot of that session's begin. -/
theorem runWith_takes_effect_once {names : String → Prop} (within : Scoped names work)
    (ran : Traced (c.runWith context options work).run s trace r s') : Once work r trace := by
  rw [runWith, ExceptT.run_mk] at ran
  obtain ⟨counted, u, mid, rest, rfl, counts, go⟩ := ran.of_bind
  obtain ⟨attempts, outcome, mid', after, rfl, ran, go⟩ := go.of_bind
  obtain ⟨sampled, u', mid'', rest, rfl, samples, go⟩ := go.of_bind
  obtain ⟨rfl, rfl, -⟩ := go.of_pure
  have signals : ∀ signal : Signal, (Action.signal signal : Action ε Unit).Within Tidy
      fun _ => True := fun signal => ⟨tidy_signal signal, fun _ => trivial⟩
  rw [List.append_nil]
  refine ((once_attempts within.inner ran).append (samples.idle (signals _))).prepend ?_
  exact fun x hx => (counts.idle (signals _) x hx).1

end

/-- Work that stores a record. -/
def saving : Work WorkflowEvent RunError Unit := Work.saveApproval (.fresh default default)

/-- The record is stored by a coordinated run, the first commit of which fails. -/
def savedAgain : List (Exchange WorkflowEvent) × Except RunError Unit × Session :=
  (⟨default, default, .ok ()⟩ : Outside).trace
    ((default : Coordinator).runWith "save" default saving).run default
    { (default : Store) with faults.onCommit := [.rejected "40P01" "deadlock detected"] }

/-- The run opens two sessions, and the second one publishes the record. -/
theorem once_savedAgain :
    savedAgain.2.1.toOption = some () ∧
      savedAgain.1.countP (fun x => x.request matches .openSession) = 2 ∧
      Once saving savedAgain.2.1 savedAgain.1 := by
  have within : Scoped (fun _ => True) saving := .ofStore (.saveApproval (.fresh default default))
  exact ⟨by decide +kernel, by decide +kernel,
    runWith_takes_effect_once within (Outside.traced _ _ _ _)⟩

end Appraisal.Memory
