import Appraisal.Json.Exchanged
import Appraisal.Settings

/-!
# JSON forms of what is reported

How failures, errors, settings, signals and the answers of sessions are written.  Nothing reads
these forms back, so they are functions and no instances of `Form`.

An error is an object with its name under `error` and its text under `message`.  What else is known
of it stands beside these two, and the failure behind it stands under `source`.
-/

namespace Appraisal.Json

/-- A success. -/
def success (value : Json) : Json := .ofMembers [("ok", value)]

/-! ## Failures and errors -/

/-- What a failure is called. -/
def failureName : Failure → String
  | .database .. => "Database"
  | .io .. => "Io"
  | .poolTimedOut => "PoolTimedOut"
  | .poolClosed => "PoolClosed"
  | .decode _ => "Decode"
  | .invalidIdentifier _ => "InvalidIdentifier"
  | .other _ => "Other"

/-- What is known of a failure besides its name and text. -/
def failureDetails : Failure → List (String × Json)
  | .database code _ constraint =>
    [("code", ofOption code), ("constraint", ofOption constraint)]
  | .io kind _ => [("io_kind", .ofString kind.name)]
  | _ => []

/-- The members of a failure. -/
def failureMembers (f : Failure) : List (String × Json) :=
  ("error", .ofString (failureName f)) :: ("message", .ofString f.message) :: failureDetails f

/-- A failure. -/
def reportFailure (f : Failure) : Json := .ofMembers (failureMembers f)

/-- A failure with its kind. -/
def reportKind (f : Failure) : Json := .ofMembers [
  ("kind", toJson f.kind), ("retryable", .bool f.kind.isRetryable), ("failure", reportFailure f)]

/-- The members of an error of a transaction. -/
def transactionMembers (e : TransactionError) : List (String × Json) := [
  ("error", .ofString "Transaction"), ("message", .ofString e.message), ("kind", toJson e.kind),
  ("retryable", .bool e.isRetryable), ("attempts", .ofNat e.attempts),
  ("context", .ofString e.context), ("source", reportFailure e.source)]

/-- What an error of the workflow is called. -/
def workflowErrorName : WorkflowError → String
  | .validation _ => "Validation"
  | .mappingNotFound _ => "MappingNotFound"
  | .requestNotFound _ => "RevisionRequestNotFound"
  | .notRecipient .. => "NotRecipient"
  | .alreadyCompleted .. => "AlreadyCompleted"
  | .storage _ => "Storage"
  | .transaction _ => "Transaction"

/-- The members of an error of the workflow besides its status code. -/
def workflowErrorMembers (e : WorkflowError) : List (String × Json) :=
  let named := [("error", .ofString (workflowErrorName e)), ("message", .ofString e.message)]
  match e with
  | .transaction t => transactionMembers t
  | .storage f => named ++ [("source", reportFailure f)]
  | _ => named

/-- An error of the workflow with its status code. -/
def reportWorkflowError (e : WorkflowError) : Json :=
  .ofMembers (workflowErrorMembers e ++ [("status", .ofNat e.statusCode)])

/-- The members of an error of a run besides its kind. -/
def runErrorMembers : RunError → List (String × Json)
  | .storage f => failureMembers f
  | .transaction e => transactionMembers e

/-- An error of a run with its kind, if it was judged. -/
def reportRunError (e : RunError) : Json :=
  .ofMembers (runErrorMembers e ++ [("error_kind", ofOption e.kind?)])

/-- An unknown literal, and the failure and the error it amounts to. -/
def reportLiteral (e : InvalidLiteral) : Json := .ofMembers [
  ("error", .ofString "InvalidLiteral"), ("message", .ofString e.message),
  ("field", .ofString e.field), ("value", .ofString e.value),
  ("as_storage", reportFailure (.ofLiteral e)),
  ("as_approval", reportWorkflowError (.ofLiteral e))]

/-- The failure an error stands for, or else the error that is handed back. -/
def reportSplit {E : Type} [WorkError E] (report : E → Json) (e : E) : Json :=
  match WorkError.failure? e with
  | some f => .ofMembers [("failure", reportFailure f)]
  | none => .ofMembers [("handed_back", report e)]

/-- A success with its value, or an error. -/
def reportOutcome {E α : Type} (error : E → Json) (value : α → Json) : Except E α → Json
  | .ok a => success (value a)
  | .error e => error e

/-! ## Settings -/

/-- A duration: its seconds and the nanoseconds beyond them. -/
def ofDuration (d : Duration) : Json := .array [.ofNat d.seconds, .ofNat d.subsecNanos]

/-- A policy: the number of attempts, the first wait and the longest. -/
def ofPolicy (p : RetryPolicy) : Json :=
  .array [.ofNat p.maxRetries, ofDuration p.backoffBase, ofDuration p.backoffCap]

/-- The settings for retries. -/
def ofRetrySettings (s : RetrySettings) : Json := .ofMembers [
  ("max_retries", .ofNat s.maxRetries),
  ("serializable_max_retries", .ofNat s.serializableMaxRetries),
  ("read_only_max_retries", .ofNat s.readOnlyMaxRetries),
  ("backoff_base", ofDuration s.backoffBase),
  ("backoff_cap", ofDuration s.backoffCap)]

/-- The settings for the pool of connections. -/
def ofPoolSettings (s : PoolSettings) : Json := .ofMembers [
  ("url", .ofString s.url), ("max_connections", .ofNat s.maxConnections),
  ("acquire_timeout", ofDuration s.acquireTimeout)]

/-- The wishes for a transaction, and the policy that the settings give it. -/
def ofOptions (s : RetrySettings) (o : TransactionOptions) : Json := .ofMembers [
  ("isolation", .ofString o.isolationLevel.sql), ("read_only", .bool o.readOnly),
  ("savepoint", ofOption o.savepoint), ("policy", ofPolicy (s.policyFor o))]

/-- The name of a log format. -/
def ofLogFormat : LogFormat → Json
  | .pretty => .ofString "Pretty"
  | .json => .ofString "Json"

/-! ## Signals -/

/-- The name of a log level. -/
def levelName : LogLevel → String
  | .debug => "DEBUG"
  | .info => "INFO"
  | .warn => "WARN"
  | .error => "ERROR"

/-- The value of a field of a log entry. -/
def ofLogValue : LogValue → Json
  | .text value => .ofString value
  | .number value => .ofNat value

/-- A log entry. -/
def ofLogEntry (entry : LogEntry) : Json := .ofMembers [
  ("level", .ofString (levelName entry.level)), ("message", .ofString entry.message),
  ("fields", .ofMembers (entry.fields.map fun f => (f.1, ofLogValue f.2)))]

/-- A failed clean-up. -/
def ofDiagnostic (d : Diagnostic) : Json := .ofMembers [
  ("context", .ofString d.context), ("stage", .ofString d.stage.text),
  ("message", .ofString d.message)]

/-! ## Answers -/

/-- What a store call answers. -/
def ofStored : (call : StoreCall) → call.Value → Json
  | .findApproval _, (v : Option ApprovalRecord) => ofOption v
  | .saveApproval _, _ => .null
  | .insertRequest _, _ => .null
  | .insertRecipient _, _ => .null
  | .findRequest _, (v : Option RevisionRequest) => ofOption v
  | .findRecipient .., (v : Option RecipientRow) => ofOption v
  | .recipientsOf _, (v : List RecipientRow) => toJson v
  | .updateRecipient _, (v : Bool) => toJson v
  | .listFor .., (v : List RequestView) => toJson v
  | .countUnread _, (v : Nat) => .ofNat v

/-- What a call on a session answers. -/
def ofAnswered : (call : SessionCall) → call.Value → Json
  | .store call, v => ofStored call v
  | _, _ => .null

end Appraisal.Json
