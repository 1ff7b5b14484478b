import Appraisal.Proofs.Transaction.Attempt
import Mathlib.Data.List.Basic

/-!
# Attempts in a row

A run is a row of rounds.  A round is an attempt with what the coordinator asks for after it: the
log entry, the count and the wait before another attempt, or the log entry and the count of a
transaction that is given up.  There is nothing else but a count at the start and a sample at the
end (`runWith_rounds`).
-/

namespace Appraisal.Coordinator

variable {ε E α : Type}

/-- An attempt, and what the coordinator asks for after it. -/
structure Round (ε E α : Type) where
  moves : List (Move ε E α)
  outcome : Except E α
  after : Transcript ε

/-- The requests of a round. -/
def Round.transcript (sink : DiagnosticSink) (round : Round ε E α) : Transcript ε :=
  Coordinator.transcript sink round.moves ++ round.after

/-- A signal that was sent. -/
def sent (signal : Signal) : Program.Answered (Request.Answer (ε := ε)) := ⟨.signal signal, ()⟩

/-- The count of another attempt after a failure. -/
def retryCount (f : Failure) : Signal := .count "transaction_retries_total" [("kind", f.kind.text)]

/-- The count of a transaction that is given up after a failure. -/
def failureCount (f : Failure) : Signal :=
  .count "transaction_failures_total" [("kind", f.kind.text)]

/-- What comes between an attempt and the next one. -/
def retrying (policy : RetryPolicy) (number : Nat) (f : Failure) : Transcript ε :=
  [ sent (.log ⟨.warn, "transaction failed, retrying", [
      ("attempt", .number number), ("kind", .text f.kind.text),
      ("delay_ms", .number ((policy.backoffDelay number).millis % UInt64.size)),
      ("error", .text f.message)]⟩),
    sent (retryCount f),
    ⟨.sleep (policy.backoffDelay number), ()⟩]

/-- What comes after the last attempt of a transaction that is given up. -/
def givingUp (number : Nat) (f : Failure) : Transcript ε :=
  [ sent (.log ⟨.error, "transaction failed", [
      ("attempt", .number number), ("kind", .text f.kind.text), ("error", .text f.message)]⟩),
    sent (failureCount f)]

variable [WorkError E]

/-- The failure of the store that an attempt ended with, if it ended with one. -/
def Round.failure? (round : Round ε E α) : Option Failure :=
  match round.outcome with
  | .ok _ => none
  | .error e => WorkError.failure? e

/-- An attempt failed in a way that may pass, and another one follows it. -/
def Retried (policy : RetryPolicy) (number : Nat) (round : Round ε E α) : Prop :=
  ∃ f, round.failure? = some f ∧ f.kind.isRetryable = true ∧ number < policy.maxRetries ∧
    round.after = retrying policy number f

/-- No other attempt follows, and the run comes to an outcome. -/
inductive Concluded (context : String) (policy : RetryPolicy) (number : Nat) :
    Round ε E α → Except E α → Prop
  /-- The attempt came to a value. -/
  | value {round : Round ε E α} (v : α) (came : round.outcome = .ok v) (silent : round.after = []) :
    Concluded context policy number round (.ok v)
  /-- The attempt came to an error that is no failure of the store. -/
  | handedBack {round : Round ε E α} (e : E) (came : round.outcome = .error e)
    (final : WorkError.failure? e = none) (silent : round.after = []) :
    Concluded context policy number round (.error e)
  /-- The attempt failed in a way that does not pass, or once too often. -/
  | gaveUp {round : Round ε E α} (f : Failure) (failed : round.failure? = some f)
    (stops : ¬ (f.kind.isRetryable = true ∧ number < policy.maxRetries))
    (told : round.after = givingUp number f) :
    Concluded context policy number round
      (.error (WorkError.ofTransaction ⟨f.kind, f, context, number⟩))

/-- Attempts in a row, the first of them with the given number, up to an outcome. -/
structure Row (c : Coordinator) (context : String) (o : TransactionOptions) (work : Work ε E α)
    (number : Nat) (rounds : List (Round ε E α)) (last : Round ε E α) (r : Except E α) : Prop where
  attempted : ∀ round ∈ rounds ++ [last],
    (c.attempt context o work).run.Runs (transcript c.sink round.moves) round.outcome
  protocol : ∀ round ∈ rounds ++ [last], Protocol o context work round.moves round.outcome
  retried : ∀ (k : Nat) (h : k < rounds.length),
    Retried (c.settings.policyFor o) (number + k) rounds[k]
  concluded : Concluded context (c.settings.policyFor o) (number + rounds.length) last r

section

variable {c : Coordinator} {context : String} {o : TransactionOptions} {work : Work ε E α}
  {rounds : List (Round ε E α)} {round last : Round ε E α} {r : Except E α}
  {trace : Transcript ε} {number : Nat}

theorem Row.single
    (attempted : (c.attempt context o work).run.Runs (transcript c.sink last.moves) last.outcome)
    (protocol : Protocol o context work last.moves last.outcome)
    (concluded : Concluded context (c.settings.policyFor o) number last r) :
    c.Row context o work number [] last r where
  attempted round mem := by
    cases List.mem_singleton.1 mem
    exact attempted
  protocol round mem := by
    cases List.mem_singleton.1 mem
    exact protocol
  retried k h := absurd h (Nat.not_lt_zero k)
  concluded := concluded

theorem Row.cons (row : c.Row context o work (number + 1) rounds last r)
    (attempted : (c.attempt context o work).run.Runs (transcript c.sink round.moves) round.outcome)
    (protocol : Protocol o context work round.moves round.outcome)
    (retried : Retried (c.settings.policyFor o) number round) :
    c.Row context o work number (round :: rounds) last r where
  attempted other mem := by
    rcases List.mem_cons.1 mem with rfl | mem
    · exact attempted
    · exact row.attempted other mem
  protocol other mem := by
    rcases List.mem_cons.1 mem with rfl | mem
    · exact protocol
    · exact row.protocol other mem
  retried k h := by
    cases k with
    | zero => exact retried
    | succ k =>
      have later := row.retried k (Nat.lt_of_succ_lt_succ h)
      rwa [Nat.add_right_comm] at later
  concluded := by
    have ends := row.concluded
    rwa [Nat.add_right_comm] at ends

/-- Nothing that is answered to a signal matters. -/
theorem runs_signal {β : Type} {signal : Signal} {f : Unit → Action ε β} {b : β}
    (ran : (Action.signal signal >>= f).Runs trace b) :
    ∃ rest, trace = sent signal :: rest ∧ (f ()).Runs rest b := by
  obtain ⟨answer, rest, rfl, later⟩ := Program.runs_ask_bind_iff.1 ran
  exact ⟨rest, rfl, later⟩

theorem runs_backOff {policy : RetryPolicy} {f : Failure} {u : Unit}
    (ran : (backOff policy number f : Action ε Unit).Runs trace u) :
    trace = retrying policy number f := by
  obtain ⟨rest, rfl, counted⟩ := runs_signal ran
  obtain ⟨rest, rfl, slept⟩ := runs_signal counted
  obtain ⟨_, _, rfl, ended⟩ := Program.runs_call_iff.1 slept
  cases ended
  rfl

theorem runs_giveUp {f : Failure} {e : E}
    (ran : (giveUp context number f : Action ε E).Runs trace e) :
    trace = givingUp number f ∧ e = WorkError.ofTransaction ⟨f.kind, f, context, number⟩ := by
  obtain ⟨rest, rfl, counted⟩ := runs_signal ran
  obtain ⟨rest, rfl, ended⟩ := runs_signal counted
  cases ended
  exact ⟨rfl, rfl⟩

/-- What attempts in a row do first: an attempt that ends them, or one that another follows.  What
bounds the attempts does not run out before the policy stops them. -/
theorem first_of_runs {left : Nat} (bound : left + number = (c.settings.policyFor o).maxRetries + 1)
    (ran : (c.attempts context o work left number).run.Runs trace r) :
    ∃ round : Round ε E α,
      (c.attempt context o work).run.Runs (transcript c.sink round.moves) round.outcome ∧
      Protocol o context work round.moves round.outcome ∧
      ((trace = round.transcript c.sink ∧
          Concluded context (c.settings.policyFor o) number round r) ∨
        ∃ less rest, left = less + 1 ∧ trace = round.transcript c.sink ++ rest ∧
          Retried (c.settings.policyFor o) number round ∧
          (c.attempts context o work less (number + 1)).run.Runs rest r) := by
  unfold attempts at ran
  obtain ⟨_, outcome, rest, rfl, did, ran⟩ := Program.runs_bind_iff.1 ran
  obtain ⟨moves, rfl, protocol⟩ := protocol_of_runs did
  cases outcome with
  | ok v =>
    obtain ⟨rfl, rfl⟩ := Program.runs_pure_iff.1 ran
    exact ⟨⟨moves, .ok v, []⟩, did, protocol, .inl ⟨rfl, .value v rfl rfl⟩⟩
  | error e =>
    cases failed : WorkError.failure? e with
    | none =>
      simp only [failed] at ran
      obtain ⟨rfl, rfl⟩ := Program.runs_pure_iff.1 ran
      exact ⟨⟨moves, .error e, []⟩, did, protocol, .inl ⟨rfl, .handedBack e rfl failed rfl⟩⟩
    | some f =>
      simp only [failed] at ran
      have stops : ∀ {rest : Transcript ε}, (giveUp context number f >>= fun e =>
            (pure (.error e) : Action ε (Except E α))).Runs rest r →
          ¬ (f.kind.isRetryable = true ∧ number < (c.settings.policyFor o).maxRetries) →
          Concluded context (c.settings.policyFor o) number ⟨moves, .error e, rest⟩ r := by
        intro rest ran stops
        obtain ⟨_, _, _, rfl, told, ended⟩ := Program.runs_bind_iff.1 ran
        cases ended
        obtain ⟨rfl, rfl⟩ := runs_giveUp told
        exact .gaveUp f failed stops (List.append_nil _)
      cases left with
      | zero =>
        refine ⟨⟨moves, .error e, rest⟩, did, protocol, .inl ⟨rfl, stops ran ?_⟩⟩
        omega
      | succ less =>
        simp only [RetryPolicy.shouldRetry, Bool.and_eq_true, decide_eq_true_eq] at ran
        split at ran
        · next retries =>
          obtain ⟨_, _, rest, rfl, waited, later⟩ := Program.runs_bind_iff.1 ran
          obtain rfl := runs_backOff waited
          refine ⟨⟨moves, .error e, retrying (c.settings.policyFor o) number f⟩, did, protocol,
            .inr ⟨less, rest, rfl, ?_, ⟨f, failed, retries.1, retries.2, rfl⟩, later⟩⟩
          exact (List.append_assoc ..).symm
        · next ends =>
          exact ⟨⟨moves, .error e, rest⟩, did, protocol,
            .inl ⟨rfl, stops ran ends⟩⟩

/-- Attempts in a row are rounds. -/
theorem row_of_runs {left : Nat} (bound : left + number = (c.settings.policyFor o).maxRetries + 1)
    (ran : (c.attempts context o work left number).run.Runs trace r) :
    ∃ rounds last, trace = (rounds ++ [last]).flatMap (Round.transcript c.sink) ∧
      c.Row context o work number rounds last r := by
  induction left generalizing number trace with
  | zero =>
    obtain ⟨round, did, protocol, ⟨rfl, concluded⟩ | ⟨less, rest, same, _⟩⟩ :=
      first_of_runs bound ran
    · exact ⟨[], round, by simp, .single did protocol concluded⟩
    · cases same
  | succ left ih =>
    obtain ⟨round, did, protocol, ⟨rfl, concluded⟩ | ⟨less, rest, same, rfl, retried, later⟩⟩ :=
      first_of_runs bound ran
    · exact ⟨[], round, by simp, .single did protocol concluded⟩
    · cases same
      obtain ⟨rounds, last, rfl, row⟩ := ih (by omega) later
      exact ⟨round :: rounds, last, by simp, row.cons did protocol retried⟩

/-- The requests of a run are those of its rounds, between a count and a sample. -/
theorem runWith_rounds (ran : (c.runWith context o work).run.Runs trace r) :
    ∃ rounds last,
      trace = sent (.count "transactions_total" []) ::
        (rounds ++ [last]).flatMap (Round.transcript c.sink) ++
          [sent (.sample "transaction_duration_seconds")] ∧
      c.Row context o work 1 rounds last r := by
  obtain ⟨_, rfl, later⟩ := runs_signal ran
  obtain ⟨_, outcome, _, rfl, tried, sampled⟩ := Program.runs_bind_iff.1 later
  obtain ⟨rest, rfl, ended⟩ := runs_signal sampled
  cases ended
  obtain ⟨rounds, last, rfl, row⟩ := row_of_runs rfl tried
  exact ⟨rounds, last, rfl, row⟩

/-- A request between attempts waits, or it tells something that is no failed clean-up. -/
def Between (sink : DiagnosticSink) : Program.Answered (Request.Answer (ε := ε)) → Prop
  | ⟨.sleep _, _⟩ => True
  | ⟨.signal signal, _⟩ => ∀ report, signal ≠ sink.signal report
  | _ => False

theorem between_retrying {sink : DiagnosticSink} {policy : RetryPolicy} {f : Failure} :
    ∀ x ∈ (retrying policy number f : Transcript ε), Between sink x := by
  cases sink <;> simp [retrying, retryCount, sent, Between, DiagnosticSink.signal]

theorem between_givingUp {sink : DiagnosticSink} {f : Failure} :
    ∀ x ∈ (givingUp number f : Transcript ε), Between sink x := by
  cases sink <;> simp [givingUp, failureCount, sent, Between, DiagnosticSink.signal]

theorem Row.between (row : c.Row context o work number rounds last r) :
    ∀ round ∈ rounds ++ [last], ∀ x ∈ round.after, Between c.sink x := by
  intro round mem
  rcases List.mem_append.1 mem with mem | mem
  · obtain ⟨k, h, rfl⟩ := List.mem_iff_getElem.1 mem
    obtain ⟨f, _, _, _, told⟩ := row.retried k h
    exact told ▸ between_retrying
  · cases List.mem_singleton.1 mem
    cases row.concluded with
    | value v came silent => simp [silent]
    | handedBack e came final silent => simp [silent]
    | gaveUp f failed stops told => exact told ▸ between_givingUp

/-- Whatever answers the calls of a run, each of its attempts follows the protocol.  No failed
clean-up is reported outside of the attempts. -/
theorem runWith_follows_protocol {σ : Type}
    (answer : (request : Request ε) → σ → request.Answer × σ) (s : σ) :
    ∃ rounds : List (Round ε E α), rounds ≠ [] ∧
      (Program.record answer (c.runWith context o work).run s).1 =
        sent (.count "transactions_total" []) :: rounds.flatMap (Round.transcript c.sink) ++
          [sent (.sample "transaction_duration_seconds")] ∧
      ∀ round ∈ rounds, Protocol o context work round.moves round.outcome ∧
        ∀ x ∈ round.after, Between c.sink x := by
  have ran := Program.runs_record answer (c.runWith context o work).run s
  obtain ⟨rounds, last, same, row⟩ := runWith_rounds ran
  exact ⟨rounds ++ [last], by simp, same,
    fun round mem => ⟨row.protocol round mem, row.between round mem⟩⟩

/-! ## Counts -/

/-- What a request counts or samples. -/
def metric? : Program.Answered (Request.Answer (ε := ε)) → Option Signal
  | ⟨.signal (.count name labels), _⟩ => some (.count name labels)
  | ⟨.signal (.sample name), _⟩ => some (.sample name)
  | _ => none

omit [WorkError E] in
/-- An attempt counts nothing but what its work counts. -/
theorem filterMap_metric_transcript {moves : List (Move ε E α)} (sink : DiagnosticSink)
    (silent : ∀ inside r, .worked inside r ∈ moves → inside.filterMap metric? = []) :
    (transcript sink moves).filterMap metric? = [] := by
  induction moves with
  | nil => rfl
  | cons m rest ih =>
    have later := ih fun inside r mem => silent inside r (List.mem_cons_of_mem _ mem)
    rw [transcript, List.flatMap_cons, List.filterMap_append]
    refine List.append_eq_nil_iff.2 ⟨?_, later⟩
    cases m with
    | opened answer => rfl
    | called call answer => rfl
    | worked inside r => exact silent inside r (List.mem_cons_self ..)
    | reported report => cases sink <;> rfl

theorem Retried.metrics {policy : RetryPolicy} (h : Retried policy number round) :
    round.after.filterMap metric? = (round.failure?.map retryCount).toList := by
  obtain ⟨f, failed, _, _, told⟩ := h
  rw [told, failed]
  rfl

theorem Concluded.metrics {policy : RetryPolicy} (h : Concluded context policy number last r) :
    last.after.filterMap metric? = (last.failure?.map failureCount).toList := by
  cases h with
  | value v came silent => simp [silent, Round.failure?, came]
  | handedBack e came final silent => simp [silent, Round.failure?, came, final]
  | gaveUp f failed stops told =>
    rw [told, failed]
    rfl

/-- A row of attempts counts what comes after each of them. -/
theorem Row.metrics (row : c.Row context o work number rounds last r)
    (silent : ∀ inside r, work.run.Runs inside r → inside.filterMap metric? = []) :
    ((rounds ++ [last]).flatMap (Round.transcript c.sink)).filterMap metric? =
      rounds.filterMap (fun round => round.failure?.map retryCount) ++
        (last.failure?.map failureCount).toList := by
  have counted : ∀ round ∈ rounds ++ [last],
      (round.transcript c.sink).filterMap metric? = round.after.filterMap metric? := by
    intro round mem
    have inside := filterMap_metric_transcript c.sink
      fun inside r worked => silent inside r ((row.protocol round mem).ran inside r worked)
    rw [Round.transcript, List.filterMap_append, inside, List.nil_append]
  have retries : ∀ round ∈ rounds,
      round.after.filterMap metric? = (round.failure?.map retryCount).toList := by
    intro round mem
    obtain ⟨k, h, rfl⟩ := List.mem_iff_getElem.1 mem
    exact (row.retried k h).metrics
  rw [List.filterMap_flatMap, List.flatMap_congr counted, List.flatMap_append,
    List.flatMap_congr retries, List.flatMap_singleton, row.concluded.metrics,
    List.filterMap_eq_flatMap_toList]

theorem Concluded.final {policy : RetryPolicy} (h : Concluded context policy number last r) {e : E}
    (failed : r = .error e) : WorkError.failure? e = none := by
  cases h with
  | value v came silent => cases failed
  | handedBack e came final silent =>
    cases failed
    exact final
  | gaveUp f _ stops told =>
    cases failed
    exact WorkError.failure?_ofTransaction _

/-- There are no more attempts than allowed, and at least one. -/
theorem Row.length_le (row : c.Row context o work 1 rounds last r) :
    rounds.length + 1 ≤ max 1 (c.settings.policyFor o).maxRetries := by
  rcases rounds.eq_nil_or_concat with rfl | ⟨earlier, round, rfl⟩
  · exact Nat.le_max_left ..
  · obtain ⟨_, _, _, allowed, _⟩ := row.retried earlier.length (by simp)
    simp only [List.concat_eq_append, List.length_append, List.length_singleton]
    omega

/-- Whatever answers the calls of a run, attempts are made up to the first one that ends with a
value, with an error that is no failure of the store, with a failure that does not pass, or as the
last one allowed. -/
theorem runWith_attempts {σ : Type}
    (answer : (request : Request ε) → σ → request.Answer × σ) (s : σ) :
    let policy := c.settings.policyFor o
    let (trace, outcome) := Program.record answer (c.runWith context o work).run s
    ∃ (rounds : List (Round ε E α)) (last : Round ε E α),
      trace = sent (.count "transactions_total" []) ::
        (rounds ++ [last]).flatMap (Round.transcript c.sink) ++
          [sent (.sample "transaction_duration_seconds")] ∧
      (∀ round ∈ rounds ++ [last],
        (c.attempt context o work).run.Runs (transcript c.sink round.moves) round.outcome) ∧
      (∀ (k : Nat) (h : k < rounds.length), Retried policy (k + 1) rounds[k]) ∧
      Concluded context policy (rounds.length + 1) last outcome ∧
      (∀ e, outcome = .error e → WorkError.failure? e = none) ∧
      (policy.maxRetries < UInt32.size → rounds.length + 1 < UInt32.size) ∧
      ((∀ inside r, work.run.Runs inside r → inside.filterMap metric? = []) →
        trace.filterMap metric? = .count "transactions_total" [] ::
          rounds.filterMap (fun round => round.failure?.map retryCount) ++
          (last.failure?.map failureCount).toList ++ [.sample "transaction_duration_seconds"]) := by
  have ran := Program.runs_record answer (c.runWith context o work).run s
  generalize Program.record answer (c.runWith context o work).run s = run at ran
  obtain ⟨trace, outcome⟩ := run
  obtain ⟨rounds, last, rfl, row⟩ := runWith_rounds ran
  have retried := row.retried
  have concluded := row.concluded
  simp only [Nat.add_comm 1] at retried concluded
  refine ⟨rounds, last, rfl, row.attempted, retried, concluded, fun e => concluded.final,
    fun small => ?_, fun silent => ?_⟩
  · have bound := row.length_le
    have one : 1 < UInt32.size := by decide
    omega
  · rw [List.cons_append, List.filterMap_cons, List.filterMap_append, row.metrics silent]
    rfl

end

end Appraisal.Coordinator
