import Appraisal.Failure
import Appraisal.Identifier
import Appraisal.Postgres.Timestamp

/-!
# Rows of the server

A row holds values under the names of their columns.  Reading a column fails if the row has no such
column, if it is empty where a value is needed, and if its value is of another type.  Texts are read
from columns of any type that holds texts.

`ClientError` lists what may go wrong between the program and the server.  `ClientError.failure`
sorts it: what the database rejected, what broke on the way, what could not be decoded, and the
rest.
-/

namespace Appraisal.Postgres

/-! ## Errors of the connection -/

/-- What may go wrong between the program and the server. -/
inductive ClientError
  /-- The database rejected the statement. -/
  | database (code : Option String) (message : String) (constraint : Option String)
  /-- The connection failed. -/
  | io (kind : IoKind) (message : Option String)
  /-- No connection became free in time. -/
  | poolTimedOut
  /-- The pool is closed. -/
  | poolClosed
  /-- A column could not be decoded. -/
  | columnDecode (column : String) (reason : String)
  /-- A value could not be decoded. -/
  | decode (reason : String)
  /-- The row has no such column. -/
  | columnNotFound (name : String)
  /-- The database has no such type. -/
  | typeNotFound (name : String)
  /-- A query that must return a row returned none. -/
  | rowNotFound
  /-- The server did not keep to the protocol. -/
  | protocol (reason : String)
  /-- The settings make no sense. -/
  | configuration (reason : String)
  /-- The connection could not be encrypted. -/
  | tls (reason : String)
  /-- A value could not be encoded. -/
  | encode (reason : String)
  /-- A background task of the client died. -/
  | workerCrashed
  /-- The row has not so many columns. -/
  | columnIndexOutOfBounds (length index : Nat)
deriving DecidableEq, Repr

/-- The text of an error that is neither a rejection nor a failure of the connection or pool. -/
def ClientError.message : ClientError → String
  | database _ message _ => "error returned from database: " ++ message
  | io kind message => "error communicating with database: " ++ message.getD kind.description
  | poolTimedOut => "pool timed out while waiting for an open connection"
  | poolClosed => "attempted to acquire a connection on a closed pool"
  | columnDecode column reason => s!"error occurred while decoding column {column}: {reason}"
  | decode reason => "error occurred while decoding: " ++ reason
  | columnNotFound name => "no column found for name: " ++ name
  | typeNotFound name => s!"type named {name} not found"
  | rowNotFound => "no rows returned by a query that expected to return at least one row"
  | protocol reason => "encountered unexpected or invalid data: " ++ reason
  | configuration reason => "error with configuration: " ++ reason
  | tls reason => "error occurred while attempting to establish a TLS connection: " ++ reason
  | encode reason => "error occurred while encoding a value: " ++ reason
  | workerCrashed => "attempted to communicate with a crashed background worker"
  | columnIndexOutOfBounds length index =>
    s!"column index out of bounds: the len is {length}, but the index is {index}"

/-- The failure of the store that an error amounts to. -/
def ClientError.failure (e : ClientError) : Failure :=
  match e with
  | database code message constraint => .database code message constraint
  | io kind message => .io kind message
  | poolTimedOut => .poolTimedOut
  | poolClosed => .poolClosed
  | columnDecode _ _ | decode _ | columnNotFound _ | typeNotFound _ => .decode e.message
  | rowNotFound | protocol _ | configuration _ | tls _ | encode _ | workerCrashed
  | columnIndexOutOfBounds _ _ => .other e.message

/-! ## Cells and rows -/

/-- A value of a column or of a parameter. -/
inductive Cell
  /-- No value. -/
  | null
  /-- An identifier. -/
  | uuid (value : Uuid)
  /-- A text. -/
  | text (value : String)
  /-- True or false. -/
  | bool (value : Bool)
  /-- A whole number of 64 bits. -/
  | int (value : Int)
  /-- A point in time. -/
  | timestamp (value : Timestamp)
  /-- A value of any other type: the name of the type, and the value if it is a text. -/
  | other (type : String) (text : Option String)
deriving DecidableEq

/-- The name of the type of a value. -/
def Cell.type : Cell → String
  | null => "UNKNOWN"
  | uuid _ => "UUID"
  | text _ => "TEXT"
  | bool _ => "BOOL"
  | int _ => "INT8"
  | timestamp _ => "TIMESTAMPTZ"
  | other type _ => type

/-- A row: values by the names of their columns, in order. -/
abbrev Row : Type := List (String × Cell)

/-- The value of a column.  Of columns with one name the last one counts. -/
def Row.cell? (row : Row) (name : String) : Option Cell :=
  (row.reverse.find? fun c => c.1 == name).map Prod.snd

/-- Types that a column may hold. -/
class CellType (α : Type) where
  /-- The cell of a value. -/
  toCell : α → Cell
  /-- The value of a cell. -/
  ofCell? : Cell → Option α
  /-- What messages call the type. -/
  label : String
  /-- The name of the type of its cells. -/
  cellType : String

export CellType (toCell)

instance : CellType Uuid where
  toCell := .uuid
  ofCell?
    | .uuid u => some u
    | _ => none
  label := "uuid::Uuid"
  cellType := "UUID"

instance {entity : Entity} : CellType (Id entity) where
  toCell id := .uuid id.uuid
  ofCell?
    | .uuid u => some ⟨u⟩
    | _ => none
  label := "uuid::Uuid"
  cellType := "UUID"

instance : CellType String where
  toCell := .text
  ofCell?
    | .text s => some s
    | .other _ text => text
    | _ => none
  label := "alloc::string::String"
  cellType := "TEXT"

instance : CellType Bool where
  toCell := .bool
  ofCell?
    | .bool b => some b
    | _ => none
  label := "bool"
  cellType := "BOOL"

instance : CellType Int where
  toCell := .int
  ofCell?
    | .int n => some n
    | _ => none
  label := "i64"
  cellType := "INT8"

instance : CellType Instant where
  toCell t := .timestamp (.ofInstant t)
  ofCell?
    | .timestamp t => some t.instant
    | _ => none
  label := "chrono::datetime::DateTime<chrono::offset::utc::Utc>"
  cellType := "TIMESTAMPTZ"

/-- The cell of a value that may be absent. -/
def optionCell {α : Type} [CellType α] : Option α → Cell
  | some a => toCell a
  | none => .null

/-! ## Reading columns -/

/-- The reason why an empty column cannot be decoded. -/
def unexpectedNull : String := "unexpected null; try decoding as an `Option`"

/-- The reason why a value of another type cannot be decoded.  `label` says what was wanted. -/
def mismatchedTypes (label cellType type : String) : String :=
  s!"mismatched types; Rust type `{label}` (as SQL type `{cellType}`) " ++
    s!"is not compatible with SQL type `{type}`"

/-- What messages call a value that may be absent. -/
def optionLabel (label : String) : String := "core::option::Option<" ++ label ++ ">"

/-- A column's name in the text of an error. -/
def columnName (name : String) : String := "\"" ++ name ++ "\""

/-- The value of a cell that is not empty.  `label` says what is wanted. -/
def decodeValue {α : Type} [CellType α] (label column : String) (cell : Cell) :
    Except Failure α :=
  match CellType.ofCell? cell with
  | some a => .ok a
  | none =>
    let reason := mismatchedTypes label (CellType.cellType α) cell.type
    .error (ClientError.columnDecode column reason).failure

/-- The value of a cell that must not be empty. -/
def decodeCell {α : Type} [CellType α] (column : String) : Cell → Except Failure α
  | .null => .error (ClientError.columnDecode column unexpectedNull).failure
  | cell => decodeValue (CellType.label α) column cell

/-- The value of a column that must not be empty. -/
def Row.read {α : Type} [CellType α] (row : Row) (name : String) : Except Failure α :=
  match row.cell? name with
  | none => .error (ClientError.columnNotFound name).failure
  | some cell => decodeCell (columnName name) cell

/-- The value of a column that may be empty. -/
def Row.readOptional {α : Type} [CellType α] (row : Row) (name : String) :
    Except Failure (Option α) :=
  match row.cell? name with
  | none => .error (ClientError.columnNotFound name).failure
  | some .null => .ok none
  | some cell => (decodeValue (optionLabel (CellType.label α)) (columnName name) cell).map some

/-- The value of the first column, which must not be empty. -/
def Row.readFirst {α : Type} [CellType α] : Row → Except Failure α
  | [] => .error (ClientError.columnIndexOutOfBounds 0 0).failure
  | column :: _ => decodeCell "0" column.2

end Appraisal.Postgres
