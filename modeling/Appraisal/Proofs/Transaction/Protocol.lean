import Appraisal.Proofs.Answers
import Appraisal.Transaction.Coordinator

/-!
# The protocol of an attempt

An attempt makes its calls in a fixed order, and each of them only if it is *due*.  What is due
depends on what came before: on the answers of earlier calls, on what was asked of the transaction,
and on what the work returned.  `Act.place` is the order, and `Due` says what is due when.

`Protocol` says that just what is due is done, once and in order.  `UpTo` is the protocol up to a
place.  There are two ways on from there: what is due is done (`UpTo.add`), and places where nothing
is wanted are left out (`UpTo.skip`).  A clean-up brings its report with it (`UpTo.clean`).
-/

namespace Appraisal

/-- The requests of a run with their answers. -/
abbrev Transcript (ε : Type) : Type := List (Program.Answered (Request.Answer (ε := ε)))

namespace Coordinator

/-! ## What an attempt does -/

/-- The clean-up that a call does. -/
def cleanup? : SessionCall → Option CleanupStage
  | .rollbackToSavepoint _ => some .rollbackToSavepoint
  | .rollback => some .rollback
  | .release => some .release
  | _ => none

/-- Something that an attempt does. -/
inductive Act
  /-- It opens a session. -/
  | opening
  /-- It makes a call on the session. -/
  | call (call : SessionCall)
  /-- It invokes the work. -/
  | work
  /-- It reports a failed clean-up. -/
  | report (report : Diagnostic)

/-- Where an act stands in the order of an attempt. -/
def Act.place : Act → Nat
  | opening => 0
  | call (.begin _) => 1
  | call .setReadOnly => 2
  | call (.savepoint _) => 3
  | work | call (.store _) => 4
  | call (.releaseSavepoint _) => 5
  | call (.rollbackToSavepoint _) => 6
  | report ⟨_, .rollbackToSavepoint, _⟩ => 7
  | call .commit => 8
  | call .rollback => 9
  | report ⟨_, .rollback, _⟩ => 10
  | call .release => 11
  | report ⟨_, .release, _⟩ => 12
  | report ⟨_, .eventDispatch, _⟩ => 13

/-- An act with what came of it. -/
inductive Move (ε E α : Type)
  | opened (answer : Except Failure Unit)
  | called (call : SessionCall) (answer : call.Answer)
  /-- The work asked for some things and came to an outcome. -/
  | worked (inside : Transcript ε) (outcome : Except E α)
  | reported (report : Diagnostic)

variable {ε E α : Type}

namespace Move

/-- The act of a move. -/
def act : Move ε E α → Act
  | opened _ => .opening
  | called call _ => .call call
  | worked _ _ => .work
  | reported report => .report report

/-- The requests of a move. -/
def transcript (sink : DiagnosticSink) : Move ε E α → Transcript ε
  | opened answer => [⟨.openSession, answer⟩]
  | called call answer => [⟨.session call, answer⟩]
  | worked inside _ => inside
  | reported report => [⟨.signal (sink.signal report), ()⟩]

end Move

/-- The requests of some moves. -/
def transcript (sink : DiagnosticSink) (moves : List (Move ε E α)) : Transcript ε :=
  moves.flatMap (Move.transcript sink)

/-! ## What is due -/

/-- A call was made and did not fail. -/
def Succeeded (moves : List (Move ε E α)) (call : SessionCall) : Prop :=
  ∃ value, .called call (.ok value) ∈ moves

/-- The work was invoked and came to this outcome. -/
def Returned (moves : List (Move ε E α)) (outcome : Except E α) : Prop :=
  ∃ inside, .worked inside outcome ∈ moves

/-- A transaction has begun, and it may only read if that was asked for. -/
def Entered (o : TransactionOptions) (moves : List (Move ε E α)) : Prop :=
  Succeeded moves (.begin o.isolationLevel) ∧ (o.readOnly = true → Succeeded moves .setReadOnly)

/-- The work returned a value, and its savepoint was released if there is one. -/
def Completed (o : TransactionOptions) (moves : List (Move ε E α)) (value : α) : Prop :=
  Returned moves (.ok value) ∧
    ∀ name, o.savepoint = some name → Succeeded moves (.releaseSavepoint name)

/-- What an attempt has to do, given what it does before. -/
def Due (o : TransactionOptions) (context : String) (moves : List (Move ε E α)) : Act → Prop
  | .opening => True
  | .call (.begin level) => .opened (.ok ()) ∈ moves ∧ level = o.isolationLevel
  | .call .setReadOnly => Succeeded moves (.begin o.isolationLevel) ∧ o.readOnly = true
  | .call (.savepoint name) => Entered o moves ∧ o.savepoint = some name
  | .work => Entered o moves ∧ ∀ name, o.savepoint = some name → Succeeded moves (.savepoint name)
  | .call (.releaseSavepoint name) =>
    o.savepoint = some name ∧ ∃ value, Returned moves (.ok value)
  | .call (.rollbackToSavepoint name) =>
    o.savepoint = some name ∧ ∃ error, Returned moves (.error error)
  | .call .commit => ∃ value, Completed o moves value
  | .call .rollback => Succeeded moves (.begin o.isolationLevel) ∧ ¬ Succeeded moves .commit
  | .call .release => .opened (.ok ()) ∈ moves
  | .call (.store _) => False
  | .report report => ∃ call failure, .called call (.error failure) ∈ moves ∧
    cleanup? call = some report.stage ∧ report = ⟨context, report.stage, failure.message⟩

/-- An attempt that does what is due, once and in order.  It ends with a value if the work returned
that value and the commit succeeded. -/
structure Protocol (o : TransactionOptions) (context : String) (work : Work ε E α)
    (moves : List (Move ε E α)) (outcome : Except E α) : Prop where
  ordered : (moves.map fun m => m.act.place).Pairwise (· < ·)
  due : ∀ act, act ∈ moves.map Move.act ↔ Due o context moves act
  /-- What is asked for while the work is invoked is what the work asks for. -/
  ran : ∀ inside r, .worked inside r ∈ moves → work.run.Runs inside r
  returned : ∀ value, outcome = .ok value ↔ Succeeded moves .commit ∧ Returned moves (.ok value)

/-! ## One place after the other -/

section

variable {o : TransactionOptions} {context : String} {work : Work ε E α}
  {moves more : List (Move ε E α)} {m : Move ε E α} {act : Act} {n k : Nat}

/-- What is due depends on earlier moves only. -/
theorem due_append (later : ∀ m ∈ more, act.place ≤ m.act.place) :
    Due o context (moves ++ more) act ↔ Due o context moves act := by
  have earlier : ∀ m : Move ε E α, m.act.place < act.place → (m ∈ moves ++ more ↔ m ∈ moves) := by
    intro m before
    have absent : m ∉ more := fun mem => absurd (later m mem) (Nat.not_le.2 before)
    simp only [List.mem_append, absent, or_false]
  have opened : 0 < act.place →
      (.opened (.ok ()) ∈ moves ++ more ↔ .opened (.ok ()) ∈ moves) := fun before =>
    earlier _ before
  have succeeded : ∀ call, (Act.call call).place < act.place →
      (Succeeded (moves ++ more) call ↔ Succeeded moves call) := fun call before =>
    exists_congr fun value => earlier _ before
  have returned : 4 < act.place → ∀ r, (Returned (moves ++ more) r ↔ Returned moves r) :=
    fun before r => exists_congr fun inside => earlier _ before
  cases act with
  | opening => rfl
  | work =>
    have begun := succeeded (.begin o.isolationLevel) (by simp [Act.place])
    have restricted := succeeded .setReadOnly (by simp [Act.place])
    have saved := fun name => succeeded (.savepoint name) (by simp [Act.place])
    simp only [Due, Entered, begun, restricted, saved]
  | report report =>
    obtain ⟨context', stage, message⟩ := report
    refine exists_congr fun call => exists_congr fun failure => ?_
    refine and_congr_left fun ⟨cleans, _⟩ => earlier _ ?_
    cases call <;> cases cleans <;> simp [Move.act, Act.place]
  | call call =>
    cases call with
    | «begin» level => simp only [Due, opened (by simp [Act.place])]
    | setReadOnly => simp only [Due, succeeded (.begin o.isolationLevel) (by simp [Act.place])]
    | savepoint name =>
      have begun := succeeded (.begin o.isolationLevel) (by simp [Act.place])
      have restricted := succeeded .setReadOnly (by simp [Act.place])
      simp only [Due, Entered, begun, restricted]
    | store call => rfl
    | releaseSavepoint name => simp only [Due, returned (by simp [Act.place])]
    | rollbackToSavepoint name => simp only [Due, returned (by simp [Act.place])]
    | commit =>
      have released := fun name => succeeded (.releaseSavepoint name) (by simp [Act.place])
      simp only [Due, Completed, returned (by simp [Act.place]), released]
    | rollback =>
      have begun := succeeded (.begin o.isolationLevel) (by simp [Act.place])
      have committed := succeeded .commit (by simp [Act.place])
      simp only [Due, begun, committed]
    | release => simp only [Due, opened (by simp [Act.place])]

/-- The moves before a place follow the protocol. -/
structure UpTo (o : TransactionOptions) (context : String) (work : Work ε E α) (n : Nat)
    (moves : List (Move ε E α)) : Prop where
  ordered : (moves.map fun m => m.act.place).Pairwise (· < ·)
  placed : ∀ m ∈ moves, m.act.place < n
  due : ∀ act, act.place < n → (act ∈ moves.map Move.act ↔ Due o context moves act)
  ran : ∀ inside r, .worked inside r ∈ moves → work.run.Runs inside r

theorem upTo_nil : UpTo o context work 0 [] :=
  ⟨.nil, fun _ mem => absurd mem List.not_mem_nil,
    fun _ before => absurd before (Nat.not_lt_zero _), fun _ _ mem => absurd mem List.not_mem_nil⟩

/-- The call at a place failed. -/
def Failed (moves : List (Move ε E α)) (k : Nat) : Prop :=
  ∃ call failure, .called call (.error failure) ∈ moves ∧ (Act.call call).place = k

theorem UpTo.not_succeeded {call : SessionCall} (h : UpTo o context work n moves)
    (le : n ≤ (Act.call call).place) : ¬ Succeeded moves call :=
  fun ⟨_, mem⟩ => Nat.not_lt.2 le (h.placed _ mem)

theorem UpTo.not_returned {r : Except E α} (h : UpTo o context work n moves) (le : n ≤ 4) :
    ¬ Returned moves r :=
  fun ⟨_, mem⟩ => Nat.not_lt.2 le (h.placed _ mem)

theorem UpTo.not_failed (h : UpTo o context work n moves) (le : n ≤ k) : ¬ Failed moves k :=
  fun ⟨_, _, mem, place⟩ => Nat.not_lt.2 le (place ▸ h.placed _ mem)

/-- No two moves stand at one place. -/
theorem UpTo.unique {m' : Move ε E α} (h : UpTo o context work n moves) (mem : m ∈ moves)
    (mem' : m' ∈ moves) (same : m.act.place = m'.act.place) : m = m' := by
  have ordered := List.pairwise_map.1 h.ordered
  clear h
  induction ordered with
  | nil => cases mem
  | @cons first rest before _ ih =>
    rcases List.mem_cons.1 mem with rfl | left
    · rcases List.mem_cons.1 mem' with rfl | right
      · rfl
      · exact absurd same (Nat.ne_of_lt (before m' right))
    · rcases List.mem_cons.1 mem' with rfl | right
      · exact absurd same.symm (Nat.ne_of_lt (before m left))
      · exact ih left right

theorem place_report {call : SessionCall} {report : Diagnostic}
    (cleans : cleanup? call = some report.stage) :
    (Act.report report).place = (Act.call call).place + 1 := by
  obtain ⟨context, stage, message⟩ := report
  cases call <;> cases cleans <;> rfl

/-- Acts that are due at one place are the same. -/
theorem UpTo.due_unique {act' : Act} (h : UpTo o context work n moves)
    (due : Due o context moves act) (due' : Due o context moves act')
    (same : act.place = act'.place) : act = act' := by
  have reports : ∀ {report report' : Diagnostic}, Due o context moves (.report report) →
      Due o context moves (.report report') → report.stage = report'.stage →
      (Act.report report).place = (Act.report report').place → report = report' := by
    rintro report report' ⟨call, failure, mem, cleans, eq⟩ ⟨call', failure', mem', cleans', eq'⟩
      stage same
    rw [place_report cleans, place_report cleans'] at same
    cases h.unique mem mem' (Nat.succ.inj same)
    rw [eq, eq', stage]
  -- Most pairs of acts stand at different places.
  obtain _ | (_ | _ | _ | _ | _ | _ | _ | _ | _) | _ | ⟨_, _ | _ | _ | _, _⟩ := act <;>
  obtain _ | (_ | _ | _ | _ | _ | _ | _ | _ | _) | _ | ⟨_, _ | _ | _ | _, _⟩ := act' <;>
  first | (exfalso; simp [Act.place] at same; done) | skip
  case opening.opening | work.work => rfl
  case call.setReadOnly.call.setReadOnly | call.commit.call.commit => rfl
  case call.rollback.call.rollback | call.release.call.release => rfl
  case call.begin.call.begin => rw [due.2, due'.2]
  case call.savepoint.call.savepoint => cases due.2.symm.trans due'.2; rfl
  case call.releaseSavepoint.call.releaseSavepoint => cases due.1.symm.trans due'.1; rfl
  case call.rollbackToSavepoint.call.rollbackToSavepoint => cases due.1.symm.trans due'.1; rfl
  case call.store.call.store | call.store.work => exact due.elim
  case work.call.store => exact due'.elim
  all_goals exact congrArg Act.report (reports due due' rfl same)

/-- What has to be so for an act at a place to be due. -/
def Wanted (o : TransactionOptions) (moves : List (Move ε E α)) : Nat → Prop
  | 0 => True
  | 1 | 11 => .opened (.ok ()) ∈ moves
  | 2 => Succeeded moves (.begin o.isolationLevel) ∧ o.readOnly = true
  | 3 => Entered o moves ∧ o.savepoint ≠ none
  | 4 => Entered o moves ∧ ∀ name, o.savepoint = some name → Succeeded moves (.savepoint name)
  | 5 => o.savepoint ≠ none ∧ ∃ value, Returned moves (.ok value)
  | 6 => o.savepoint ≠ none ∧ ∃ error, Returned moves (.error error)
  | 7 => Failed moves 6
  | 8 => ∃ value, Completed o moves value
  | 9 => Succeeded moves (.begin o.isolationLevel) ∧ ¬ Succeeded moves .commit
  | 10 => Failed moves 9
  | 12 => Failed moves 11
  | _ => False

theorem wanted_of_due (due : Due o context moves act) : Wanted o moves act.place := by
  cases act with
  | opening => trivial
  | work => exact due
  | report report =>
    obtain ⟨call, failure, mem, cleans, -⟩ := due
    obtain ⟨context, stage, message⟩ := report
    cases call <;> cases cleans <;> exact ⟨_, failure, mem, rfl⟩
  | call call =>
    cases call with
    | «begin» level => exact due.1
    | setReadOnly => exact due
    | savepoint name => exact ⟨due.1, by simp [due.2]⟩
    | store call => exact due.elim
    | releaseSavepoint name => exact ⟨by simp [due.1], due.2⟩
    | rollbackToSavepoint name => exact ⟨by simp [due.1], due.2⟩
    | commit => exact due
    | rollback => exact due
    | release => exact due

/-- Nothing is wanted before the next place. -/
theorem UpTo.skip (h : UpTo o context work n moves) (le : n ≤ k)
    (idle : ∀ i, n ≤ i → i < k → ¬ Wanted o moves i) : UpTo o context work k moves := by
  have placed : ∀ m ∈ moves, m.act.place < k := fun m mem => Nat.lt_of_lt_of_le (h.placed m mem) le
  refine ⟨h.ordered, placed, fun act before => ?_, h.ran⟩
  rcases Nat.lt_or_ge act.place n with lt | ge
  · exact h.due act lt
  · refine iff_of_false (fun mem => ?_) fun due => idle _ ge before (wanted_of_due due)
    obtain ⟨m, found, rfl⟩ := List.mem_map.1 mem
    exact absurd (h.placed m found) (Nat.not_lt.2 ge)

/-- Nothing is wanted at this place. -/
theorem UpTo.skip_one (h : UpTo o context work n moves) (idle : ¬ Wanted o moves n) :
    UpTo o context work (n + 1) moves := by
  refine h.skip (Nat.le_succ n) fun i after before => ?_
  rwa [Nat.le_antisymm (Nat.lt_succ_iff.1 before) after]

/-- What is due at a place is done. -/
theorem UpTo.add (h : UpTo o context work n moves) (place : m.act.place = n)
    (due : Due o context moves m.act)
    (ran : ∀ inside r, m = .worked inside r → work.run.Runs inside r) :
    UpTo o context work (n + 1) (moves ++ [m]) := by
  have stable : ∀ act, act.place ≤ n →
      (Due o context (moves ++ [m]) act ↔ Due o context moves act) := by
    intro act le
    refine due_append fun x mem => ?_
    rw [List.mem_singleton.1 mem, place]
    exact le
  refine ⟨?_, fun x mem => ?_, fun act before => ?_, fun inside r mem => ?_⟩
  · simp only [List.map_append, List.map_cons, List.map_nil, List.pairwise_append,
      List.mem_map, List.mem_singleton]
    refine ⟨h.ordered, List.pairwise_singleton _ _, ?_⟩
    rintro _ ⟨x, mem, rfl⟩ _ rfl
    exact place ▸ h.placed x mem
  · rcases List.mem_append.1 mem with mem | mem
    · exact Nat.lt_succ_of_lt (h.placed x mem)
    · rw [List.mem_singleton.1 mem, place]
      exact Nat.lt_succ_self n
  · have le : act.place ≤ n := Nat.lt_succ_iff.1 before
    rw [stable act le, List.map_append, List.mem_append, List.map_singleton, List.mem_singleton]
    rcases Nat.lt_or_eq_of_le le with lt | same
    · have other : act ≠ m.act := by
        rintro rfl
        exact absurd place (Nat.ne_of_lt lt)
      simp only [h.due act lt, other, or_false]
    · refine ⟨fun mem => ?_, fun due' => .inr (h.due_unique due' due (same.trans place.symm))⟩
      rcases mem with mem | rfl
      · obtain ⟨x, found, rfl⟩ := List.mem_map.1 mem
        exact absurd (h.placed x found) (Nat.not_lt.2 (Nat.le_of_eq same.symm))
      · exact due
  · rcases List.mem_append.1 mem with mem | mem
    · exact h.ran inside r mem
    · exact ran inside r (List.mem_singleton.1 mem).symm

/-! ## Clean-up -/

theorem wanted_report {call : SessionCall} {stage : CleanupStage}
    (cleans : cleanup? call = some stage) :
    Wanted o moves ((Act.call call).place + 1) ↔ Failed moves (Act.call call).place := by
  cases call <;> cases cleans <;> rfl

/-- A clean-up with its answer, and its report if it failed. -/
def cleaning (context : String) (stage : CleanupStage) (call : SessionCall) :
    call.Answer → List (Move ε E α)
  | .ok value => [.called call (.ok value)]
  | .error failure =>
    [.called call (.error failure), .reported ⟨context, stage, failure.message⟩]

theorem UpTo.clean {call : SessionCall} {stage : CleanupStage} (answer : call.Answer)
    (h : UpTo o context work n moves) (cleans : cleanup? call = some stage)
    (place : (Act.call call).place = n) (due : Due o context moves (.call call)) :
    UpTo o context work (n + 2) (moves ++ cleaning context stage call answer) := by
  have called : UpTo o context work (n + 1) (moves ++ [.called call answer]) :=
    h.add (m := .called call answer) place due (by simp)
  subst place
  cases answer with
  | ok value =>
    refine called.skip_one fun wanted => ?_
    obtain ⟨call', failure, mem, same⟩ := (wanted_report cleans).1 wanted
    have last : .called call (.ok value) ∈ moves ++ [.called call (.ok value)] := by simp
    cases called.unique mem last same
  | error failure =>
    have split : moves ++ cleaning context stage call (.error failure) =
        moves ++ [.called call (.error failure)] ++
          [.reported ⟨context, stage, failure.message⟩] := by
      simp [cleaning]
    rw [split]
    refine called.add ?_ ?_ (by simp)
    · exact place_report cleans
    · exact ⟨call, failure, by simp, cleans, rfl⟩

end

end Coordinator

end Appraisal
