import Appraisal.Proofs.Transaction.Protocol

/-!
# Walking along an attempt

Every attempt follows the protocol (`protocol_of_runs`).  The proof goes from call to call.  After
each of them it says which moves were made so far, and what the answer leaves to do: an answer that
fails skips the places up to the next clean-up.
-/

namespace Appraisal.Coordinator

variable {ε E α : Type}

section

variable {o : TransactionOptions} {context : String} {work : Work ε E α}
  {moves more : List (Move ε E α)} {n k : Nat}

/-! ## What was returned and what succeeded -/

@[simp] theorem returned_append {r : Except E α} :
    Returned (moves ++ more) r ↔ Returned moves r ∨ Returned more r := by
  simp only [Returned, List.mem_append, exists_or]

@[simp] theorem succeeded_append {call : SessionCall} :
    Succeeded (moves ++ more) call ↔ Succeeded moves call ∨ Succeeded more call := by
  simp only [Succeeded, List.mem_append, exists_or]

@[simp] theorem returned_worked {inside : Transcript ε} {r r' : Except E α} :
    Returned [.worked inside r] r' ↔ r' = r := by
  simp [Returned]

@[simp] theorem not_returned_called {call : SessionCall} {answer : call.Answer} {r : Except E α} :
    ¬ Returned ([.called call answer] : List (Move ε E α)) r := by
  simp [Returned]

@[simp] theorem not_returned_cleaning {stage : CleanupStage} {call : SessionCall}
    {answer : call.Answer} {r : Except E α} :
    ¬ Returned (cleaning context stage call answer : List (Move ε E α)) r := by
  cases answer <;> simp [cleaning, Returned]

@[simp] theorem succeeded_ok {call : SessionCall} {value : call.Value} :
    Succeeded ([.called call (.ok value)] : List (Move ε E α)) call :=
  ⟨value, List.mem_singleton_self _⟩

theorem eq_of_succeeded {call call' : SessionCall} {answer : call.Answer}
    (h : Succeeded ([.called call answer] : List (Move ε E α)) call') :
    call' = call ∧ ∃ value, answer = .ok value := by
  obtain ⟨value, mem⟩ := h
  cases List.mem_singleton.1 mem
  exact ⟨rfl, value, rfl⟩

theorem UpTo.not_succeeded_failed {call : SessionCall} {f : Failure}
    (h : UpTo o context work n moves) (place : (Act.call call).place = n) :
    ¬ Succeeded (moves ++ [.called call (.error f)]) call := by
  intro succeeded
  rcases succeeded_append.1 succeeded with early | failed
  · exact h.not_succeeded (Nat.le_of_eq place.symm) early
  · cases (eq_of_succeeded failed).2.choose_spec

theorem succeeded_append_cleaning {stage : CleanupStage} {call call' : SessionCall}
    {answer : call.Answer} (other : call' ≠ call) :
    Succeeded (moves ++ cleaning context stage call answer) call' ↔ Succeeded moves call' := by
  refine succeeded_append.trans (or_iff_left fun late => ?_)
  obtain ⟨value, mem⟩ := late
  cases answer with
  | ok value =>
    cases List.mem_singleton.1 mem
    exact other rfl
  | error failure =>
    rcases List.mem_cons.1 mem with same | mem
    · cases same
    · cases List.mem_singleton.1 mem

/-! ## What is left out -/

/-- An attempt that has not begun does nothing before it gives its session back. -/
theorem UpTo.skip_not_begun (h : UpTo o context work 2 moves)
    (idle : ¬ Succeeded moves (.begin o.isolationLevel)) : UpTo o context work 11 moves := by
  have fresh : ∀ r, ¬ Returned moves r := fun r => h.not_returned (by decide)
  refine h.skip (by decide) fun i after before wanted => ?_
  match i with
  | 2 => exact idle wanted.1
  | 3 | 4 => exact idle wanted.1.1
  | 5 | 6 => exact wanted.2.elim fun _ => fresh _
  | 7 | 10 => exact h.not_failed (by decide) wanted
  | 8 => exact wanted.elim fun _ completed => fresh _ completed.1
  | 9 => exact idle wanted.1
  | 0 | 1 | i + 11 => omega

/-- Work that was not invoked leaves nothing to keep and nothing to undo. -/
theorem UpTo.skip_not_invoked (h : UpTo o context work 4 moves) (idle : ¬ Wanted o moves 4) :
    UpTo o context work 8 moves := by
  have fresh : ∀ r, ¬ Returned moves r := fun r => h.not_returned (by decide)
  refine h.skip (by decide) fun i after before wanted => ?_
  match i with
  | 4 => exact idle wanted
  | 5 | 6 => exact wanted.2.elim fun _ => fresh _
  | 7 => exact h.not_failed (by decide) wanted
  | 0 | 1 | 2 | 3 | i + 8 => omega

/-- Without a savepoint there is nothing to keep and nothing to undo. -/
theorem UpTo.skip_unsaved (h : UpTo o context work 5 moves) (unsaved : o.savepoint = none) :
    UpTo o context work 8 moves := by
  refine h.skip (by decide) fun i after before wanted => ?_
  match i with
  | 5 | 6 => exact wanted.1 unsaved
  | 7 => exact h.not_failed (by decide) wanted
  | 0 | 1 | 2 | 3 | 4 | i + 8 => omega

/-- An attempt without a session does nothing else. -/
theorem UpTo.skip_not_opened (h : UpTo o context work 1 moves) (closed : .opened (.ok ()) ∉ moves) :
    UpTo o context work 14 moves := by
  have unbegun := (h.skip_one closed).skip_not_begun (h.not_succeeded (Nat.le_refl _))
  exact ((unbegun.skip_one closed).skip_one (h.not_failed (by decide))).skip_one id

/-! ## The walk -/

/-- From some moves on, the requests are those of further moves, up to a place. -/
def Leads (sink : DiagnosticSink) (o : TransactionOptions) (context : String) (work : Work ε E α)
    (n : Nat) (moves : List (Move ε E α)) (trace : Transcript ε)
    (post : List (Move ε E α) → Prop) : Prop :=
  ∃ more, trace = transcript sink more ∧ UpTo o context work n (moves ++ more) ∧
    post (moves ++ more)

section

variable {sink : DiagnosticSink} {trace trace' : Transcript ε}
  {post post' : List (Move ε E α) → Prop}

theorem Leads.stop (h : UpTo o context work n moves) (holds : post moves) :
    Leads sink o context work n moves [] post :=
  ⟨[], rfl, by rwa [List.append_nil], by rwa [List.append_nil]⟩

theorem Leads.move (h : Leads sink o context work n (moves ++ more) trace post) :
    Leads sink o context work n moves (transcript sink more ++ trace) post := by
  obtain ⟨rest, rfl, upTo, holds⟩ := h
  rw [List.append_assoc] at upTo holds
  exact ⟨more ++ rest, by simp [transcript], upTo, holds⟩

theorem Leads.trans (h : Leads sink o context work k moves trace post)
    (next : ∀ more, UpTo o context work k (moves ++ more) → post (moves ++ more) →
      Leads sink o context work n (moves ++ more) trace' post') :
    Leads sink o context work n moves (trace ++ trace') post' := by
  obtain ⟨more, rfl, upTo, holds⟩ := h
  exact (next more upTo holds).move

end

section

variable {c : Coordinator} {sink : DiagnosticSink} {trace : Transcript ε}

/-- A call that is due is made, and what follows depends on its answer. -/
theorem Leads.of_session {β : Type} {call : SessionCall} {f : call.Answer → Action ε β} {b : β}
    {post : List (Move ε E α) → Prop} (ran : (Action.session call >>= f).Runs trace b)
    (next : ∀ answer rest, (f answer).Runs rest b →
      Leads sink o context work n (moves ++ [.called call answer]) rest post) :
    Leads sink o context work n moves trace post := by
  obtain ⟨answer, rest, rfl, later⟩ := Program.runs_ask_bind_iff.1 ran
  exact (next answer rest later).move

theorem Leads.of_work {inside : Transcript ε} (r : Except E α) {post : List (Move ε E α) → Prop}
    (h : Leads sink o context work n (moves ++ [.worked inside r]) trace post) :
    Leads sink o context work n moves (inside ++ trace) post := by
  simpa [transcript, Move.transcript] using h.move

/-- A clean-up is done, and what follows does not depend on its answer. -/
theorem Leads.of_cleanUp {β : Type} {stage : CleanupStage} (call : SessionCall)
    {action : Action ε (Except Failure Unit)} {f : Unit → Action ε β} {b : β}
    {post : List (Move ε E α) → Prop} (cleans : cleanup? call = some stage)
    (same : HEq action (Action.session call : Action ε call.Answer))
    (ran : (c.cleanUp context stage action >>= f).Runs trace b)
    (next : ∀ answer rest, (f ()).Runs rest b →
      Leads c.sink o context work n (moves ++ cleaning context stage call answer) rest post) :
    Leads c.sink o context work n moves trace post := by
  obtain ⟨first, _, rest, rfl, cleaned, later⟩ := Program.runs_bind_iff.1 ran
  suffices ∃ answer, first =
      transcript c.sink (cleaning context stage call answer : List (Move ε E α)) by
    obtain ⟨answer, rfl⟩ := this
    exact (next answer rest later).move
  obtain ⟨asked, answer, reported, rfl, called, told⟩ := Program.runs_bind_iff.1 cleaned
  cases call <;> cases cleans <;> cases eq_of_heq same
  all_goals
    obtain ⟨_, _, rfl, ended⟩ := Program.runs_call_iff.1 called
    cases ended
    cases answer with
    | ok value =>
      cases told
      exact ⟨.ok value, rfl⟩
    | error failure =>
      obtain ⟨_, _, rfl, ended⟩ := Program.runs_call_iff.1 told
      cases ended
      exact ⟨.error failure, rfl⟩

end

section

variable [WorkError E] {c : Coordinator} {trace : Transcript ε} {r : Except E α}

omit [WorkError E] in
theorem completed_iff {name : String} {v : α} (saved : o.savepoint = some name) :
    Completed o moves v ↔ Returned moves (.ok v) ∧ Succeeded moves (.releaseSavepoint name) := by
  simp [Completed, saved]

/-- In a savepoint, the work is kept or undone. -/
theorem leads_inSavepoint {name : String} (saved : o.savepoint = some name)
    (entered : Entered o moves) (h : UpTo o context work 3 moves)
    (ran : (c.inSavepoint context name work).run.Runs trace r) :
    Leads c.sink o context work 8 moves trace fun all => ∀ v, r = .ok v ↔ Completed o all v := by
  refine .of_session ran fun answer rest ran => ?_
  have placed := h.add (m := .called (.savepoint name) answer) rfl ⟨entered, saved⟩ (by simp)
  cases answer with
  | error f =>
    obtain ⟨rfl, rfl⟩ := Program.runs_pure_iff.1 ran
    refine .stop (placed.skip_not_invoked fun wanted => ?_) fun v => ?_
    · exact h.not_succeeded_failed rfl (wanted.2 name saved)
    · have fresh := placed.not_returned (r := .ok v) (Nat.le_refl _)
      simp only [Completed, fresh, false_and, reduceCtorEq]
  | ok value =>
    obtain ⟨inside, outcome, rest, rfl, worked, ran⟩ := Program.runs_bind_iff.1 ran
    have due : Due o context (moves ++ [.called (.savepoint name) (.ok value)]) .work := by
      refine ⟨⟨succeeded_append.2 (.inl entered.1), fun readOnly =>
        succeeded_append.2 (.inl (entered.2 readOnly))⟩, fun name' saved' => ?_⟩
      cases saved.symm.trans saved'
      exact succeeded_append.2 (.inr succeeded_ok)
    have invoked := placed.add (m := .worked inside outcome) rfl due
      (by rintro _ _ ⟨⟩; exact worked)
    have returned : ∀ r, Returned (moves ++ [.called (.savepoint name) (.ok value)] ++
        [.worked inside outcome]) r ↔ r = outcome := by
      intro r
      have fresh := placed.not_returned (r := r) (Nat.le_refl _)
      rw [returned_append, or_iff_right fresh, returned_worked]
    generalize moves ++ [.called (.savepoint name) (.ok value)] = earlier at *
    refine .of_work outcome ?_
    generalize earlier ++ [.worked inside outcome] = moves at *
    cases outcome with
    | ok a =>
      refine .of_session ran fun answer rest ran => ?_
      have released := invoked.add (m := .called (.releaseSavepoint name) answer) rfl
        ⟨saved, a, (returned _).2 rfl⟩ (by simp)
      have kept : UpTo o context work 8 (moves ++ [.called (.releaseSavepoint name) answer]) := by
        refine (released.skip_one fun wanted => ?_).skip_one (released.not_failed (Nat.le_refl _))
        simp [Wanted, returned] at wanted
      cases answer with
      | ok value =>
        obtain ⟨rfl, rfl⟩ := Program.runs_pure_iff.1 ran
        refine .stop kept fun v => ?_
        simp [completed_iff saved, returned, eq_comm]
      | error f =>
        obtain ⟨rfl, rfl⟩ := Program.runs_pure_iff.1 ran
        refine .stop kept fun v => ?_
        refine iff_of_false (by simp) fun completed => ?_
        exact invoked.not_succeeded_failed rfl ((completed_iff saved).1 completed).2
    | error e =>
      have skipped : UpTo o context work 6 moves := by
        refine invoked.skip_one fun wanted => ?_
        simp [Wanted, returned] at wanted
      refine .of_cleanUp (.rollbackToSavepoint name) rfl .rfl ran fun answer rest ran => ?_
      obtain ⟨rfl, rfl⟩ := Program.runs_pure_iff.1 ran
      refine .stop (skipped.clean answer rfl rfl ⟨saved, e, (returned _).2 rfl⟩) fun v => ?_
      simp [completed_iff saved, returned]

theorem leads_inOptionalSavepoint (entered : Entered o moves) (h : UpTo o context work 3 moves)
    (ran : (c.inOptionalSavepoint context o work).run.Runs trace r) :
    Leads c.sink o context work 8 moves trace fun all => ∀ v, r = .ok v ↔ Completed o all v := by
  unfold inOptionalSavepoint at ran
  cases saved : o.savepoint with
  | some name =>
    rw [saved] at ran
    exact leads_inSavepoint saved entered h ran
  | none =>
    rw [saved] at ran
    have due : Due o context moves .work := ⟨entered, by simp [saved]⟩
    have before : UpTo o context work 4 moves := h.skip_one fun wanted => wanted.2 saved
    have after := before.add (m := .worked trace r) rfl due (by rintro _ _ ⟨⟩; exact ran)
    refine ⟨[.worked trace r], by simp [transcript, Move.transcript], after.skip_unsaved saved, ?_⟩
    intro v
    have fresh : ¬ Returned moves (.ok v) := before.not_returned (by decide)
    simp [Completed, saved, fresh, eq_comm]

theorem leads_body (begun : Succeeded moves (.begin o.isolationLevel))
    (h : UpTo o context work 2 moves) (ran : (c.body context o work).run.Runs trace r) :
    Leads c.sink o context work 8 moves trace fun all => ∀ v, r = .ok v ↔ Completed o all v := by
  unfold body at ran
  cases readOnly : o.readOnly with
  | false =>
    rw [readOnly] at ran
    have entered : Entered o moves := ⟨begun, by simp [readOnly]⟩
    have writing : ¬ Wanted o moves 2 := fun wanted => by simp [Wanted, readOnly] at wanted
    exact leads_inOptionalSavepoint entered (h.skip_one writing) ran
  | true =>
    rw [readOnly] at ran
    refine .of_session ran fun answer rest ran => ?_
    have restricted := h.add (m := .called .setReadOnly answer) rfl ⟨begun, readOnly⟩ (by simp)
    cases answer with
    | ok value =>
      refine leads_inOptionalSavepoint ⟨?_, fun _ => ?_⟩ restricted ran
      · exact succeeded_append.2 (.inl begun)
      · exact succeeded_append.2 (.inr succeeded_ok)
    | error f =>
      obtain ⟨rfl, rfl⟩ := Program.runs_pure_iff.1 ran
      have outside : ¬ Entered o (moves ++ [.called .setReadOnly (.error f)]) := fun entered =>
        h.not_succeeded_failed rfl (entered.2 readOnly)
      have idle := restricted.skip_one fun wanted => outside wanted.1
      refine .stop (idle.skip_not_invoked fun wanted => outside wanted.1) fun v => ?_
      have fresh := idle.not_returned (r := .ok v) (Nat.le_refl _)
      simp only [Completed, fresh, false_and, reduceCtorEq]

theorem leads_transaction (opened : .opened (.ok ()) ∈ moves) (h : UpTo o context work 1 moves)
    (ran : (c.transaction context o work).run.Runs trace r) :
    Leads c.sink o context work 11 moves trace fun all =>
      ∀ v, r = .ok v ↔ Succeeded all .commit ∧ Returned all (.ok v) := by
  refine .of_session ran fun answer rest ran => ?_
  have entered := h.add (m := .called (.begin o.isolationLevel) answer) rfl ⟨opened, rfl⟩ (by simp)
  cases answer with
  | error f =>
    obtain ⟨rfl, rfl⟩ := Program.runs_pure_iff.1 ran
    refine .stop (entered.skip_not_begun (h.not_succeeded_failed rfl)) fun v => ?_
    have fresh := entered.not_returned (r := .ok v) (by decide)
    simp only [fresh, and_false, reduceCtorEq]
  | ok value =>
    obtain ⟨inside, outcome, rest, rfl, did, ran⟩ := Program.runs_bind_iff.1 ran
    have begun : Succeeded (moves ++ [.called (.begin o.isolationLevel) (.ok value)])
        (.begin o.isolationLevel) := succeeded_append.2 (.inr succeeded_ok)
    refine (leads_body begun entered did).trans fun more done completed => ?_
    replace begun : Succeeded (_ ++ more) (.begin o.isolationLevel) :=
      succeeded_append.2 (.inl begun)
    have uncommitted := done.not_succeeded (Nat.le_refl (Act.call .commit).place)
    generalize moves ++ [.called (.begin o.isolationLevel) (.ok value)] ++ more = moves at *
    cases outcome with
    | error e =>
      have undone := done.skip_one fun ⟨v, kept⟩ => nomatch (completed v).2 kept
      refine .of_cleanUp .rollback rfl .rfl ran fun answer rest ran => ?_
      obtain ⟨rfl, rfl⟩ := Program.runs_pure_iff.1 ran
      refine .stop (undone.clean answer rfl rfl ⟨begun, uncommitted⟩) fun v => ?_
      simp only [succeeded_append_cleaning (nofun : SessionCall.commit ≠ .rollback), uncommitted,
        false_and, reduceCtorEq]
    | ok a =>
      have kept := (completed a).1 rfl
      refine .of_session ran fun answer rest ran => ?_
      have tried := done.add (m := .called .commit answer) rfl ⟨a, kept⟩ (by simp)
      cases answer with
      | ok value =>
        obtain ⟨rfl, rfl⟩ := Program.runs_pure_iff.1 ran
        have committed : Succeeded (moves ++ [.called .commit (.ok value)]) .commit :=
          succeeded_append.2 (.inr succeeded_ok)
        refine .stop ((tried.skip_one fun wanted => wanted.2 committed).skip_one
          (tried.not_failed (Nat.le_refl _))) fun v => ?_
        simp only [committed, true_and, returned_append, not_returned_called, or_false]
        exact (completed v).trans ⟨And.left, fun returned => ⟨returned, kept.2⟩⟩
      | error f =>
        have failed : ¬ Succeeded (moves ++ [.called .commit (.error f)]) .commit :=
          done.not_succeeded_failed rfl
        refine .of_cleanUp .rollback rfl .rfl ran fun answer rest ran => ?_
        obtain ⟨rfl, rfl⟩ := Program.runs_pure_iff.1 ran
        refine .stop (tried.clean answer rfl rfl ⟨succeeded_append.2 (.inl begun), failed⟩)
          fun v => ?_
        simp only [succeeded_append_cleaning (nofun : SessionCall.commit ≠ .rollback), failed,
          false_and, reduceCtorEq]

/-- An attempt does what is due, once and in order. -/
theorem protocol_of_runs (ran : (c.attempt context o work).run.Runs trace r) :
    ∃ moves, trace = transcript c.sink moves ∧ Protocol o context work moves r := by
  suffices Leads c.sink o context work 14 [] trace fun all =>
      ∀ v, r = .ok v ↔ Succeeded all .commit ∧ Returned all (.ok v) by
    obtain ⟨moves, rfl, upTo, returned⟩ := this
    have all : ∀ act : Act, act.place < 14 := by
      rintro (_ | (_ | _ | _ | _ | _ | _ | _ | _ | _) | _ | ⟨_, _ | _ | _ | _, _⟩) <;>
        simp [Act.place]
    exact ⟨moves, rfl, upTo.ordered, fun act => upTo.due act (all act), upTo.ran, returned⟩
  obtain ⟨answer, rest, rfl, later⟩ := Program.runs_ask_bind_iff.1 ran
  have started : UpTo o context work 1 [.opened answer] :=
    upTo_nil.add (m := .opened answer) rfl trivial (by simp)
  suffices Leads c.sink o context work 14 ([] ++ [.opened answer]) rest fun all =>
      ∀ v, r = .ok v ↔ Succeeded all .commit ∧ Returned all (.ok v) from Leads.move this
  rw [List.nil_append]
  cases answer with
  | error f =>
    obtain ⟨rfl, rfl⟩ := Program.runs_pure_iff.1 later
    refine .stop (started.skip_not_opened (by simp)) fun v => ?_
    have fresh := started.not_returned (r := .ok v) (by decide)
    simp only [fresh, and_false, reduceCtorEq]
  | ok value =>
    obtain ⟨inside, outcome, rest, rfl, did, later⟩ := Program.runs_bind_iff.1 later
    have opened : .opened (.ok ()) ∈ ([.opened (.ok value)] : List (Move ε E α)) := by simp
    refine (leads_transaction opened started did).trans fun more done returned => ?_
    refine .of_cleanUp .release rfl .rfl later fun answer rest ran => ?_
    obtain ⟨rfl, rfl⟩ := Program.runs_pure_iff.1 ran
    have due := List.mem_append_left more opened
    generalize [.opened (.ok value)] ++ more = moves at *
    refine .stop ((done.clean answer rfl rfl due).skip_one id) fun v => ?_
    simp only [succeeded_append_cleaning (by simp : SessionCall.commit ≠ .release), returned v,
      returned_append, not_returned_cleaning, or_false]

end

end

end Appraisal.Coordinator
