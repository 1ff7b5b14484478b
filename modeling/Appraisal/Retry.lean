import Appraisal.Failure
import Appraisal.Isolation
import Appraisal.Time.Duration

/-!
# Retries

A transaction that fails in a way that may pass is run again, after a wait that doubles with every
attempt up to a cap.  The policy says how often and how long.  Attempts are counted from 1.

The doubling stops after 31 times, and a wait that would exceed the longest duration is the longest
duration before it is capped.
-/

namespace Appraisal

/-- How often a transaction is attempted and how long to wait in between. -/
structure RetryPolicy where
  /-- The number of attempts; none and one both mean one attempt. -/
  maxRetries : Nat
  /-- The wait after the first attempt. -/
  backoffBase : Duration
  /-- The longest wait. -/
  backoffCap : Duration
deriving DecidableEq

namespace RetryPolicy

/-- The wait after the first attempt, unless told otherwise. -/
def defaultBase : Duration := .ofMillis 1000

/-- The longest wait, unless told otherwise. -/
def defaultCap : Duration := .ofMillis 5000

/-- The policy with so many attempts and the usual waits. -/
def ofMaxRetries (n : Nat) : RetryPolicy := ⟨n, defaultBase, defaultCap⟩

/-- Three attempts. -/
instance : Inhabited RetryPolicy := ⟨ofMaxRetries 3⟩

/-- The policy with other waits. -/
def withBackoff (p : RetryPolicy) (base cap : Duration) : RetryPolicy :=
  { p with backoffBase := base, backoffCap := cap }

/-- How often the first wait has doubled after an attempt. -/
def doublings (attempt : Nat) : Nat := min (attempt - 1) 31

/-- The wait after an attempt. -/
def backoffDelay (p : RetryPolicy) (attempt : Nat) : Duration :=
  min (p.backoffBase.mul (1 <<< doublings attempt)) p.backoffCap

/-- There is another attempt after one that failed this way. -/
def shouldRetry (p : RetryPolicy) (kind : FailureKind) (attempt : Nat) : Bool :=
  kind.isRetryable && decide (attempt < p.maxRetries)

end RetryPolicy

/-- What a caller asks of its transaction. -/
structure TransactionOptions where
  /-- The isolation level, or none for the default one. -/
  isolation : Option Isolation
  /-- The transaction must not write. -/
  readOnly : Bool
  /-- A savepoint to run inside of. -/
  savepoint : Option String
  /-- The number of attempts, whatever the settings say. -/
  maxRetries : Option Nat
deriving DecidableEq

namespace TransactionOptions

/-- A transaction without wishes. -/
instance : Inhabited TransactionOptions := ⟨⟨none, false, none, none⟩⟩

/-- A transaction that only reads. -/
def reading : TransactionOptions :=
  { (default : TransactionOptions) with isolation := some .readCommitted, readOnly := true }

/-- A transaction at an isolation level. -/
def atIsolation (isolation : Isolation) : TransactionOptions :=
  { (default : TransactionOptions) with isolation := some isolation }

/-- A transaction inside a savepoint. -/
def inSavepoint (name : String) : TransactionOptions :=
  { (default : TransactionOptions) with savepoint := some name }

/-- The isolation level to begin at. -/
def isolationLevel (o : TransactionOptions) : Isolation := o.isolation.getD default

end TransactionOptions

/-- The settings for retries. -/
structure RetrySettings where
  /-- The number of attempts. -/
  maxRetries : Nat
  /-- The number of attempts for serializable transactions. -/
  serializableMaxRetries : Nat
  /-- The number of attempts for transactions that only read. -/
  readOnlyMaxRetries : Nat
  /-- The wait after the first attempt. -/
  backoffBase : Duration
  /-- The longest wait. -/
  backoffCap : Duration
deriving DecidableEq

namespace RetrySettings

/-- The settings that hold unless others are given. -/
instance : Inhabited RetrySettings := ⟨⟨3, 5, 2, RetryPolicy.defaultBase, RetryPolicy.defaultCap⟩⟩

/-- The number of attempts for a transaction.  Its own wish comes first, reading only before
serializable. -/
def maxRetriesFor (s : RetrySettings) (o : TransactionOptions) : Nat :=
  match o.maxRetries with
  | some n => n
  | none =>
    if o.readOnly then s.readOnlyMaxRetries
    else if o.isolationLevel = .serializable then s.serializableMaxRetries
    else s.maxRetries

/-- The policy for a transaction. -/
def policyFor (s : RetrySettings) (o : TransactionOptions) : RetryPolicy :=
  ⟨s.maxRetriesFor o, s.backoffBase, s.backoffCap⟩

end RetrySettings

/-! ## Tests -/

example : (default : RetryPolicy).backoffDelay 3 = .ofMillis 4000 := by decide
example : (default : RetryPolicy).backoffDelay 4 = .ofMillis 5000 := by decide
example : (RetryPolicy.ofMaxRetries 0).shouldRetry .deadlock 1 = false := by decide

end Appraisal
