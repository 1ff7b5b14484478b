import Appraisal.Literal

/-!
# Failures of the store

A failure is what a store reports before anybody has judged it.  `Failure.kind` judges it: it
sorts every failure into one of ten kinds, four of which may pass when the whole transaction is
run again.  Codes the table does not know are violations of a constraint, since the statement
reached the store and was rejected.  All other unknown failures are of kind `unknown`.
-/

namespace Appraisal

/-! ## Causes -/

/-- What went wrong on the way to the store. -/
inductive IoKind
  | notFound | permissionDenied | connectionRefused | connectionReset | connectionAborted
  | notConnected | addrInUse | addrNotAvailable | brokenPipe | alreadyExists | wouldBlock
  | invalidInput | invalidData | timedOut | writeZero | interrupted | unsupported
  | unexpectedEof | outOfMemory | other
deriving DecidableEq, Repr

/-- The causes. -/
def IoKind.all : List IoKind := [
  notFound, permissionDenied, connectionRefused, connectionReset, connectionAborted, notConnected,
  addrInUse, addrNotAvailable, brokenPipe, alreadyExists, wouldBlock, invalidInput, invalidData,
  timedOut, writeZero, interrupted, unsupported, unexpectedEof, outOfMemory, other]

/-- The name of a cause. -/
def IoKind.name : IoKind → String
  | notFound => "NotFound"
  | permissionDenied => "PermissionDenied"
  | connectionRefused => "ConnectionRefused"
  | connectionReset => "ConnectionReset"
  | connectionAborted => "ConnectionAborted"
  | notConnected => "NotConnected"
  | addrInUse => "AddrInUse"
  | addrNotAvailable => "AddrNotAvailable"
  | brokenPipe => "BrokenPipe"
  | alreadyExists => "AlreadyExists"
  | wouldBlock => "WouldBlock"
  | invalidInput => "InvalidInput"
  | invalidData => "InvalidData"
  | timedOut => "TimedOut"
  | writeZero => "WriteZero"
  | interrupted => "Interrupted"
  | unsupported => "Unsupported"
  | unexpectedEof => "UnexpectedEof"
  | outOfMemory => "OutOfMemory"
  | other => "Other"

/-- The words for a cause that came without a message. -/
def IoKind.description : IoKind → String
  | notFound => "entity not found"
  | permissionDenied => "permission denied"
  | connectionRefused => "connection refused"
  | connectionReset => "connection reset"
  | connectionAborted => "connection aborted"
  | notConnected => "not connected"
  | addrInUse => "address in use"
  | addrNotAvailable => "address not available"
  | brokenPipe => "broken pipe"
  | alreadyExists => "entity already exists"
  | wouldBlock => "operation would block"
  | invalidInput => "invalid input parameter"
  | invalidData => "invalid data"
  | timedOut => "timed out"
  | writeZero => "write zero"
  | interrupted => "operation interrupted"
  | unsupported => "unsupported"
  | unexpectedEof => "unexpected end of file"
  | outOfMemory => "out of memory"
  | other => "other error"

/-- A failure as the store reports it. -/
inductive Failure
  /-- The statement reached the database and was rejected. -/
  | database (code : Option String) (message : String) (constraint : Option String)
  /-- The connection to the database failed. -/
  | io (kind : IoKind) (message : Option String)
  /-- No connection became free in time. -/
  | poolTimedOut
  /-- The pool of connections is closed. -/
  | poolClosed
  /-- A row could not be read as what it should hold. -/
  | decode (message : String)
  /-- A name is not safe to put into a statement. -/
  | invalidIdentifier (name : String)
  /-- Any other failure. -/
  | other (message : String)
deriving DecidableEq, Repr

namespace Failure

/-- A rejection by the database with a code and no constraint. -/
def rejected (code message : String) : Failure := .database (some code) message none

/-- An unknown literal in a stored row. -/
def ofLiteral (e : InvalidLiteral) : Failure := .decode e.message

/-- The code the database reported. -/
def code? : Failure → Option String
  | database code _ _ => code
  | _ => none

/-- The text of a failure. -/
def message : Failure → String
  | database (some code) message _ => s!"Database error [{code}]: {message}"
  | database none message _ => s!"Database error [no code]: {message}"
  | io kind message => "I/O error: " ++ message.getD kind.description
  | poolTimedOut => "Timed out waiting for a pooled connection"
  | poolClosed => "Connection pool is closed"
  | decode message => "Decode error: " ++ message
  | invalidIdentifier name => "Invalid identifier: " ++ Text.quoted name
  | other message => "Storage error: " ++ message

end Failure

/-! ## Kinds -/

/-- The kind of a failure. -/
inductive FailureKind
  /-- The database could not be reached. -/
  | connectionError
  /-- A constraint of no known kind was violated. -/
  | constraintViolation
  /-- A row refers to one that does not exist. -/
  | foreignKeyViolation
  /-- A row with the same key exists. -/
  | uniqueViolation
  /-- A column must not be empty. -/
  | notNullViolation
  /-- A check on a row failed. -/
  | checkViolation
  /-- Two transactions wait for each other, or one would have to wait. -/
  | deadlock
  /-- The statement or the transaction took too long. -/
  | timeout
  /-- A concurrent transaction got in the way. -/
  | serializationFailure
  /-- Anything else. -/
  | unknown
deriving DecidableEq, Repr

namespace FailureKind

/-- The kinds, in their order. -/
def all : List FailureKind :=
  [.connectionError, .constraintViolation, .foreignKeyViolation, .uniqueViolation,
    .notNullViolation, .checkViolation, .deadlock, .timeout, .serializationFailure, .unknown]

/-- The name of a kind. -/
def text : FailureKind → String
  | connectionError => "connection_error"
  | constraintViolation => "constraint_violation"
  | foreignKeyViolation => "foreign_key_violation"
  | uniqueViolation => "unique_violation"
  | notNullViolation => "not_null_violation"
  | checkViolation => "check_violation"
  | deadlock => "deadlock"
  | timeout => "timeout"
  | serializationFailure => "serialization_failure"
  | unknown => "unknown"

instance : Literal FailureKind where
  field := "error kind"
  all := all
  text := text
  mem_all a := by cases a <;> decide
  text_inj := by intro a b; cases a <;> cases b <;> decide

/-- A transaction that failed this way may be run again from its start. -/
def isRetryable : FailureKind → Bool
  | deadlock | serializationFailure | connectionError | timeout => true
  | _ => false

/-- The kind of a code of the database, for the codes and the class of codes that have one. -/
def ofCode? (code : String) : Option FailureKind :=
  if code = "23000" then some constraintViolation
  else if code = "23503" then some foreignKeyViolation
  else if code = "23505" then some uniqueViolation
  else if code = "23502" then some notNullViolation
  else if code = "23514" then some checkViolation
  else if code = "55P03" ∨ code = "40P01" then some deadlock
  else if code = "40001" then some serializationFailure
  else if code = "57014" ∨ code = "25P03" then some timeout
  else if code.toList.take 2 = ['0', '8'] then some connectionError
  else none

/-- The kind of a failed connection. -/
def ofIo : IoKind → FailureKind
  | .connectionRefused | .notFound | .timedOut => connectionError
  | _ => unknown

end FailureKind

/-- The kind of a failure. -/
def Failure.kind : Failure → FailureKind
  | database code _ _ => (code.bind FailureKind.ofCode?).getD .constraintViolation
  | io kind _ => .ofIo kind
  | poolTimedOut | poolClosed => .connectionError
  | decode _ | invalidIdentifier _ | other _ => .unknown

/-! ## Tests -/

example : (Failure.rejected "40001" "").kind = .serializationFailure := by decide
example : (Failure.rejected "08006" "").kind = .connectionError := by decide
example : (Failure.rejected "99999" "").kind = .constraintViolation := by decide
example : (Failure.io .brokenPipe none).kind = .unknown := by decide

end Appraisal
