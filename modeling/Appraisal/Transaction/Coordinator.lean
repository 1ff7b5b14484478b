import Appraisal.Transaction.Error

/-!
# Running work in transactions

The coordinator runs work in a transaction and runs it again if it fails in a way that may pass.
Each attempt opens a session of its own, begins a transaction, does the work and commits.

* An attempt that began and did not commit is rolled back.
* A session that was opened is given back, last of all.
* A failure to clean up is reported and changes nothing else.
* Work in a savepoint keeps what it did if it succeeds, and undoes it if it fails.

Errors that are no raw failures end the run at once and are handed back as they are.  A raw failure
ends it as an error of the transaction, unless its kind is retryable and attempts are left.
-/

namespace Appraisal

/-- What transactions are run with. -/
structure Coordinator where
  /-- How often and how long. -/
  settings : RetrySettings
  /-- Where failed clean-ups are reported to. -/
  sink : DiagnosticSink
deriving DecidableEq

/-- The usual settings, with failed clean-ups reported to the log. -/
instance : Inhabited Coordinator := ⟨⟨default, .log⟩⟩

namespace Coordinator

variable {ε E α : Type}

/-! ## Clean-up -/

/-- Reports a failed clean-up. -/
def report (c : Coordinator) (context : String) (stage : CleanupStage) (f : Failure) :
    Action ε Unit :=
  .signal (c.sink.signal ⟨context, stage, f.message⟩)

/-- Makes a call that cleans up.  Its failure is reported and otherwise ignored. -/
def cleanUp (c : Coordinator) (context : String) (stage : CleanupStage)
    (action : Action ε (Except Failure Unit)) : Action ε Unit := do
  match ← action with
  | .ok () => return ()
  | .error f => c.report context stage f

/-- Rolls the transaction back. -/
def rollBack (c : Coordinator) (context : String) : Action ε Unit :=
  c.cleanUp context .rollback (Action.session .rollback)

/-! ## One attempt -/

variable [WorkError E]

/-- Does work inside a savepoint of the transaction that is open on the current session. -/
def inSavepoint (c : Coordinator) (context name : String) (work : Work ε E α) : Work ε E α :=
  ExceptT.mk do
    match ← Action.session (.savepoint name) with
    | .error f => return .error (ofFailure f)
    | .ok () =>
      match ← work.run with
      | .ok a =>
        match ← Action.session (.releaseSavepoint name) with
        | .ok () => return .ok a
        | .error f => return .error (ofFailure f)
      | .error e =>
        c.cleanUp context .rollbackToSavepoint (Action.session (.rollbackToSavepoint name))
        return .error e

/-- Does work inside the savepoint asked for, if any. -/
def inOptionalSavepoint (c : Coordinator) (context : String) (options : TransactionOptions)
    (work : Work ε E α) : Work ε E α :=
  match options.savepoint with
  | some name => c.inSavepoint context name work
  | none => work

/-- What an attempt does between beginning and ending its transaction. -/
def body (c : Coordinator) (context : String) (options : TransactionOptions)
    (work : Work ε E α) : Work ε E α :=
  if options.readOnly then
    ExceptT.mk do
      match ← Action.session .setReadOnly with
      | .error f => return .error (ofFailure f)
      | .ok () => (c.inOptionalSavepoint context options work).run
  else c.inOptionalSavepoint context options work

/-- Begins a transaction, does the work, and commits or rolls back. -/
def transaction (c : Coordinator) (context : String) (options : TransactionOptions)
    (work : Work ε E α) : Work ε E α :=
  ExceptT.mk do
    match ← Action.session (.begin options.isolationLevel) with
    | .error f => return .error (ofFailure f)
    | .ok () =>
      match ← (c.body context options work).run with
      | .error e =>
        c.rollBack context
        return .error e
      | .ok a =>
        match ← Action.session .commit with
        | .ok () => return .ok a
        | .error f =>
          c.rollBack context
          return .error (ofFailure f)

/-- One attempt: a session of its own, a transaction on it, and the session given back. -/
def attempt (c : Coordinator) (context : String) (options : TransactionOptions)
    (work : Work ε E α) : Work ε E α :=
  ExceptT.mk do
    match ← Action.openSession with
    | .error f => return .error (ofFailure f)
    | .ok () =>
      let outcome ← (c.transaction context options work).run
      c.cleanUp context .release (Action.session .release)
      return outcome

/-! ## Attempts in a row -/

/-- The wait before the next attempt, with its log entry and its count. -/
def backOff (policy : RetryPolicy) (attempt : Nat) (f : Failure) : Action ε Unit := do
  let delay := policy.backoffDelay attempt
  Action.log .warn "transaction failed, retrying" [
    ("attempt", .number attempt), ("kind", .text f.kind.text),
    ("delay_ms", .number (delay.millis % UInt64.size)), ("error", .text f.message)]
  Action.signal (.count "transaction_retries_total" [("kind", f.kind.text)])
  Action.sleep delay

/-- Gives a transaction up after an attempt. -/
def giveUp (context : String) (attempt : Nat) (f : Failure) : Action ε E := do
  Action.log .error "transaction failed" [
    ("attempt", .number attempt), ("kind", .text f.kind.text), ("error", .text f.message)]
  Action.signal (.count "transaction_failures_total" [("kind", f.kind.text)])
  return WorkError.ofTransaction ⟨f.kind, f, context, attempt⟩

/-- Attempts in a row, the first of them with the given number.  `left` bounds how many may follow
it; the policy stops the row before that. -/
def attempts (c : Coordinator) (context : String) (options : TransactionOptions)
    (work : Work ε E α) : (left number : Nat) → Work ε E α
  | left, number => ExceptT.mk do
    match ← (c.attempt context options work).run with
    | .ok a => return .ok a
    | .error e =>
      match WorkError.failure? e with
      | none => return .error e
      | some f =>
        let policy := c.settings.policyFor options
        match left with
        | 0 => return .error (← giveUp context number f)
        | left + 1 =>
          if policy.shouldRetry f.kind number then
            backOff policy number f
            (c.attempts context options work left (number + 1)).run
          else
            return .error (← giveUp context number f)

/-- Runs work in a transaction of its own, as often as the settings allow. -/
def runWith (c : Coordinator) (context : String) (options : TransactionOptions)
    (work : Work ε E α) : Work ε E α :=
  ExceptT.mk do
    Action.signal (.count "transactions_total" [])
    let outcome ←
      (c.attempts context options work (c.settings.policyFor options).maxRetries 1).run
    Action.signal (.sample "transaction_duration_seconds")
    return outcome

/-! ## Ways to run -/

/-- Runs work at the default isolation level. -/
def run (c : Coordinator) (context : String) (work : Work ε E α) : Work ε E α :=
  c.runWith context default work

/-- Runs work inside a savepoint of its transaction. -/
def runNested (c : Coordinator) (context name : String) (work : Work ε E α) : Work ε E α :=
  c.runWith context (.inSavepoint name) work

/-- Runs work that only reads. -/
def runReadOnly (c : Coordinator) (context : String) (work : Work ε E α) : Work ε E α :=
  c.runWith context .reading work

/-- Runs work at an isolation level. -/
def runAtIsolation (c : Coordinator) (context : String) (isolation : Isolation)
    (work : Work ε E α) : Work ε E α :=
  c.runWith context (.atIsolation isolation) work

/-- Pieces of work in order, up to the first error. -/
def inOrder : List (Work ε E α) → Work ε E (List α)
  | [] => pure []
  | w :: ws => do
    let a ← w
    let as ← inOrder ws
    return a :: as

/-- Runs pieces of work in order inside one transaction. -/
def runBatch (c : Coordinator) (context : String) (pieces : List (Work ε E α)) :
    Work ε E (List α) :=
  c.run context (inOrder pieces)

end Coordinator

end Appraisal
