import Appraisal.Json.Exchanged
import Appraisal.Postgres.Row

/-!
# Described values

Values that a plan describes in JSON: failures, errors, settings and calls.  In a description a
member that is `null` counts as missing, also inside the forms of rows and requests, unless the
value has its form as it stands.
-/

namespace Appraisal.Json

open Postgres (toCell)

/-! ## Members -/

/-- The value is `null`. -/
def isNull : Json → Bool
  | .null => true
  | _ => false

mutual

/-- The value without members that are `null`. -/
def withoutNulls : Json → Json
  | .object members => .object (membersWithoutNulls members)
  | .array items => .array (itemsWithoutNulls items)
  | j => j

/-- Items without members that are `null`. -/
def itemsWithoutNulls : List Json → List Json
  | [] => []
  | item :: items => item.withoutNulls :: itemsWithoutNulls items

/-- The members that are not `null`. -/
def membersWithoutNulls : List (Option String × Json) → List (Option String × Json)
  | [] => []
  | (name, value) :: members =>
    if value.isNull then membersWithoutNulls members
    else (name, value.withoutNulls) :: membersWithoutNulls members

end

/-- The member of an object with a name. -/
def member? (j : Json) (name : String) : Option Json :=
  match j with
  | .object members => (membersNamed name members).head?.filter fun value => !value.isNull
  | _ => none

/-- The value that has a form, as it stands or without members that are `null`. -/
def described? {α : Type} [Form α] (j : Json) : Option α :=
  (Form.ofJson? j).or (Form.ofJson? j.withoutNulls)

/-- The value of a member that must be there. -/
def need? {α : Type} [Form α] (j : Json) (name : String) : Option α :=
  (j.member? name).bind described?

/-- What a member that may be missing is read as. -/
def optional? {α : Type} (j : Json) (name : String) (read : Json → Option α) :
    Option (Option α) :=
  match j.member? name with
  | some value => (read value).map some
  | none => some none

/-- The value of a member that may be missing. -/
def want? {α : Type} [Form α] (j : Json) (name : String) : Option (Option α) :=
  j.optional? name described?

/-- The text of a member, empty if it is missing. -/
def textAt? (j : Json) (name : String) : Option String := (j.want? name).map (·.getD "")

/-- The text of a member as it stands, also that of a number. -/
def wordAt? (j : Json) (name : String) : Option String :=
  match j.member? name with
  | some (.number digits) => some digits
  | _ => j.textAt? name

/-- The member is there and true. -/
def flagAt? (j : Json) (name : String) : Option Bool := (j.want? name).map (·.getD false)

/-- A whole number. -/
def nat? : Json → Option Nat
  | .number digits => digits.toNat?
  | _ => none

/-- A whole number with its sign. -/
def int? : Json → Option Int
  | .number digits => digits.toInt?
  | _ => none

/-- The number of a member, zero if it is missing. -/
def natAt? (j : Json) (name : String) : Option Nat := (j.optional? name nat?).map (·.getD 0)

/-- The items of an array. -/
def items? : Json → Option (List Json)
  | .array items => some items
  | _ => none

/-- The items of a member, none if it is missing. -/
def itemsAt? (j : Json) (name : String) : Option (List Json) :=
  (j.optional? name items?).map (·.getD [])

/-- What each item of a member is read as. -/
def listAt? {α : Type} (j : Json) (name : String) (read : Json → Option α) : Option (List α) := do
  (← j.itemsAt? name).mapM read

/-! ## Failures and errors -/

/-- The cause of a failed connection. -/
def ioKind? (j : Json) : Option IoKind := do
  let name : String ← j.need? "kind"
  IoKind.all.find? fun kind => kind.name == name

/-- A failure. -/
def failure? (j : Json) : Option Failure := do
  let type : String ← j.need? "type"
  let message ← j.textAt? "message"
  match type with
  | "database" => some (.database (← j.want? "code") message (← j.want? "constraint"))
  | "io" => some (.io (← j.ioKind?) (← j.want? "message"))
  | "pool_timed_out" => some .poolTimedOut
  | "pool_closed" => some .poolClosed
  | "decode" => some (.decode message)
  | "invalid_identifier" => some (.invalidIdentifier message)
  | "other" => some (.other message)
  | _ => none

/-- An error between the program and the server. -/
def clientError? (j : Json) : Option Postgres.ClientError := do
  let type : String ← j.need? "type"
  let message ← j.textAt? "message"
  match type with
  | "database" => some (.database (← j.want? "code") message (← j.want? "constraint"))
  | "io" => some (.io (← j.ioKind?) (← j.want? "message"))
  | "pool_timed_out" => some .poolTimedOut
  | "pool_closed" => some .poolClosed
  | "column_decode" => some (.columnDecode (← j.wordAt? "index") message)
  | "decode" => some (.decode message)
  | "column_not_found" => some (.columnNotFound message)
  | "type_not_found" => some (.typeNotFound message)
  | "row_not_found" => some .rowNotFound
  | "protocol" => some (.protocol message)
  | "configuration" => some (.configuration message)
  | "tls" => some (.tls message)
  | "encode" => some (.encode message)
  | "worker_crashed" => some .workerCrashed
  | "column_index_out_of_bounds" =>
    some (.columnIndexOutOfBounds (← j.natAt? "len") (← j.natAt? "index"))
  | _ => none

/-- An error of a transaction. -/
def transactionError? (j : Json) : Option TransactionError := do
  some ⟨← j.need? "kind", ← (← j.member? "failure").failure?, ← j.textAt? "context",
    ← j.natAt? "attempts"⟩

/-- An error of the workflow. -/
def workflowError? (j : Json) : Option WorkflowError := do
  let type : String ← j.need? "type"
  match type with
  | "validation" => some (.validation (← j.textAt? "message"))
  | "mapping_not_found" => some (.mappingNotFound (← j.need? "mapping_id"))
  | "revision_request_not_found" => some (.requestNotFound (← j.need? "request_id"))
  | "not_recipient" => some (.notRecipient (← j.need? "request_id") (← j.need? "recipient_id"))
  | "already_completed" =>
    some (.alreadyCompleted (← j.need? "request_id") (← j.need? "recipient_id"))
  | "storage" => some (.storage (← (← j.member? "failure").failure?))
  | "transaction" => some (.transaction (← j.transactionError?))
  | _ => none

/-- An error of a run. -/
def runError? (j : Json) : Option RunError := do
  let type : String ← j.need? "type"
  match type with
  | "storage" => some (.storage (← (← j.member? "failure").failure?))
  | "transaction" => some (.transaction (← j.transactionError?))
  | _ => none

/-! ## Settings and wishes -/

/-- A duration: its seconds and the nanoseconds beyond them. -/
def duration? (j : Json) : Option Duration := do
  let [seconds, nanos] ← j.items? | none
  some (.ofNanos ((← seconds.nat?) * nanosPerSecond + (← nanos.nat?)))

/-- An isolation level, in its spelling in SQL. -/
def isolation? (j : Json) : Option Isolation := do
  let name : String ← j.described?
  Isolation.all.find? fun level => level.sql == name

/-- The wishes for a transaction. -/
def options? (j : Json) : Option TransactionOptions := do
  let start := if ← j.flagAt? "read_only" then TransactionOptions.reading else default
  let isolation ← j.optional? "isolation" isolation?
  some { start with
    isolation := isolation.or start.isolation
    savepoint := ← j.want? "savepoint"
    maxRetries := ← j.optional? "max_retries" nat? }

/-- The settings for retries; those that are missing are the usual ones. -/
def retrySettings? (j : Json) : Option RetrySettings := do
  let usual : RetrySettings := default
  let count := fun name => j.optional? name nat?
  let millis := fun name => (count name).map (·.map Duration.ofMillis)
  some {
    maxRetries := (← count "max_retries").getD usual.maxRetries
    serializableMaxRetries :=
      (← count "serializable_max_retries").getD usual.serializableMaxRetries
    readOnlyMaxRetries := (← count "read_only_max_retries").getD usual.readOnlyMaxRetries
    backoffBase := (← millis "backoff_base_ms").getD usual.backoffBase
    backoffCap := (← millis "backoff_cap_ms").getD usual.backoffCap }

/-- A retry policy. -/
def policy? (j : Json) : Option RetryPolicy := do
  let start := ((← j.optional? "max_retries" nat?).map RetryPolicy.ofMaxRetries).getD default
  match ← j.optional? "base" duration? with
  | some base =>
    some (start.withBackoff base ((← j.optional? "cap" duration?).getD start.backoffCap))
  | none => some start

/-- A filter. -/
def filter? (j : Json) : Option RecipientFilter := do
  some ⟨← j.want? "step", ← j.want? "is_read", ← j.want? "is_completed",
    ← j.optional? "limit" nat?, ← j.optional? "offset" nat?⟩

/-- A filter under its own name; without one everything is kept. -/
def filterAt? (j : Json) : Option RecipientFilter :=
  (j.optional? "filter" filter?).map (·.getD default)

/-- A change of a step's status whose step and status are literals. -/
def literalChange? (j : Json) : Option (Except WorkflowError StepStatusChange) := do
  let change := StepStatusChange.ofLiterals (← j.need? "mapping_id") (← j.textAt? "step")
    (← j.textAt? "status") (← j.need? "acted_by")
  let comment ← j.want? "revision_comment"
  let recipients ← j.want? "recipients"
  some <| change.map fun c =>
    { c with revisionComment := comment, recipients := recipients.getD [] }

/-! ## Calls -/

/-- A call that reads or writes rows. -/
def storeCall? (j : Json) : String → Option StoreCall
  | "find_step_approval" => do some (.findApproval (← j.need? "mapping_id"))
  | "save_step_approval" => do some (.saveApproval (← j.need? "record"))
  | "insert_revision_request" => do some (.insertRequest (← j.need? "request"))
  | "insert_recipient" => do some (.insertRecipient (← j.need? "recipient"))
  | "find_revision_request" => do some (.findRequest (← j.need? "request_id"))
  | "find_recipient" => do
    some (.findRecipient (← j.need? "request_id") (← j.need? "recipient_id"))
  | "recipients_of" => do some (.recipientsOf (← j.need? "request_id"))
  | "update_recipient" => do some (.updateRecipient (← j.need? "recipient"))
  | "list_for_recipient" => do some (.listFor (← j.need? "recipient_id") (← j.filterAt?))
  | "count_unread" => do some (.countUnread (← j.need? "recipient_id"))
  | _ => none

/-- A call on a session. -/
def sessionCall? (j : Json) : String → Option SessionCall
  | "begin" => do some (.begin ((← j.optional? "isolation" isolation?).getD default))
  | "set_read_only" => some .setReadOnly
  | "savepoint" => do some (.savepoint (← j.textAt? "name"))
  | "release_savepoint" => do some (.releaseSavepoint (← j.textAt? "name"))
  | "rollback_to_savepoint" => do some (.rollbackToSavepoint (← j.textAt? "name"))
  | "commit" => some .commit
  | "rollback" => some .rollback
  | "release" => some .release
  | name => (j.storeCall? name).map .store

/-! ## Rows of a server -/

/-- The name of a type in messages. -/
def typeName : String → String
  | "char" => "\"CHAR\""
  | "bpchar" => "CHAR"
  | type => type.map Char.toUpper

/-- The types besides `text` whose values are texts. -/
def textTypes : List String := ["varchar", "bpchar", "name", "unknown", "citext"]

/-- A cell of a column of a type. -/
def cell? (type : String) (j : Json) : Option Postgres.Cell :=
  if j.isNull then some .null
  else match type with
    | "uuid" => (described? j).map fun (id : MappingId) => .uuid id.uuid
    | "timestamptz" => (described? j).map fun (t : Instant) => toCell t
    | "bool" => (described? j).map .bool
    | "text" => (described? j).map .text
    | "int8" => j.int?.map .int
    | type => some (.other (typeName type) (if type ∈ textTypes then described? j else none))

/-- A column: its name and its type. -/
def column? (j : Json) : Option (String × String) := do
  let [name, type] ← j.items? | none
  some (← name.described?, ← type.described?)

/-- A row with values for columns. -/
def row? (columns : List (String × String)) (j : Json) : Option Postgres.Row := do
  (columns.zip (← j.items?)).mapM fun c => (c.2.cell? c.1.2).map (c.1.1, ·)

end Appraisal.Json
