import Appraisal.Isolation

/-!
# Statements

The statements that are sent to the server, as values with a text.  Placeholders stand for
parameters and are numbered from 1.  A name in a statement is never taken from a client, except for
the names of savepoints.

`Statement.text` writes a statement down.  What comes from a list is written in the order of the
list.
-/

namespace Appraisal.Postgres

/-! ## Parts of statements -/

/-- A column, with the short name of its table if several are joined. -/
structure Column where
  /-- The short name of the table. -/
  source : Option String
  /-- The name of the column. -/
  name : String
deriving DecidableEq, Repr

/-- A condition on a row. -/
inductive Condition
  /-- A column equals a parameter. -/
  | equals (column : Column) (placeholder : Nat)
  /-- A column is false. -/
  | isFalse (column : Column)
  /-- A column is empty. -/
  | isNull (column : Column)
deriving DecidableEq, Repr

/-- The direction of an order. -/
inductive Direction
  | ascending | descending
deriving DecidableEq, Repr

/-- What a query selects. -/
inductive Selection
  /-- Every column. -/
  | all
  /-- The number of rows. -/
  | count
  /-- Some columns. -/
  | columns (columns : List Column)
deriving DecidableEq, Repr

/-- A table with the short name it goes by in a query. -/
structure Source where
  /-- The name of the table. -/
  table : String
  /-- Its short name. -/
  short : Option String
deriving DecidableEq, Repr

/-- A second table, joined where two columns are equal. -/
structure Join where
  /-- The table. -/
  source : Source
  /-- One of the columns. -/
  left : Column
  /-- The other. -/
  right : Column
deriving DecidableEq, Repr

/-- A query. -/
structure Select where
  /-- What it selects. -/
  selection : Selection
  /-- The table it reads. -/
  source : Source
  /-- A table joined to it. -/
  join : Option Join
  /-- The conditions, all of which must hold. -/
  conditions : List Condition
  /-- The order of the rows. -/
  order : List (Column × Direction)
  /-- The placeholder of the most rows to return. -/
  limit : Option Nat
  /-- The placeholder of the rows to skip. -/
  offset : Option Nat
deriving DecidableEq, Repr

/-- What to do when a row with the same key is stored. -/
structure OnConflict where
  /-- The key. -/
  key : String
  /-- The columns to take from the new row. -/
  updated : List String
deriving DecidableEq, Repr

/-- A statement that inserts a row.  The columns get the parameters in order. -/
structure Insert where
  /-- The table. -/
  table : String
  /-- The columns. -/
  columns : List String
  /-- What to do when a row with the same key is stored; fail, if nothing is said. -/
  onConflict : Option OnConflict
deriving DecidableEq, Repr

/-- A statement that updates rows. -/
structure Update where
  /-- The table. -/
  table : String
  /-- The columns to set and the placeholders of their values. -/
  assignments : List (String × Nat)
  /-- The conditions, all of which must hold. -/
  conditions : List Condition
deriving DecidableEq, Repr

/-- A statement. -/
inductive Statement
  /-- Begins a transaction. -/
  | begin (isolation : Option Isolation)
  /-- Lets the transaction read only. -/
  | setReadOnly
  /-- Sets a savepoint. -/
  | savepoint (name : String)
  /-- Removes a savepoint. -/
  | releaseSavepoint (name : String)
  /-- Goes back to a savepoint. -/
  | rollbackToSavepoint (name : String)
  /-- Commits. -/
  | commit
  /-- Rolls back. -/
  | rollback
  /-- A query. -/
  | select (query : Select)
  /-- Inserts a row. -/
  | insert (insertion : Insert)
  /-- Updates rows. -/
  | update (change : Update)
deriving DecidableEq, Repr

/-! ## Texts -/

/-- Texts with a separator between them. -/
def joined (separator : String) (texts : List String) : String :=
  String.intercalate separator texts

/-- Texts with commas between them. -/
def commas (texts : List String) : String := joined ", " texts

/-- A placeholder. -/
def placeholder (n : Nat) : String := "$" ++ toString n

/-- The text of a column. -/
def Column.text (c : Column) : String :=
  match c.source with
  | some source => source ++ "." ++ c.name
  | none => c.name

/-- The text of a condition. -/
def Condition.text : Condition → String
  | equals column n => column.text ++ " = " ++ placeholder n
  | isFalse column => column.text ++ " = FALSE"
  | isNull column => column.text ++ " IS NULL"

/-- The text of a direction. -/
def Direction.text : Direction → String
  | ascending => "ASC"
  | descending => "DESC"

/-- The text of a selection. -/
def Selection.text : Selection → String
  | all => "*"
  | count => "COUNT(*)"
  | columns cs => commas (cs.map Column.text)

/-- The text of a table. -/
def Source.text (s : Source) : String :=
  match s.short with
  | some short => s.table ++ " " ++ short
  | none => s.table

/-- The conditions after their keyword, if there are any. -/
def whereText : List Condition → String
  | [] => ""
  | cs => " WHERE " ++ joined " AND " (cs.map Condition.text)

/-- The order after its keyword, if there is one. -/
def orderText : List (Column × Direction) → String
  | [] => ""
  | cs => " ORDER BY " ++ commas (cs.map fun c => c.1.text ++ " " ++ c.2.text)

/-- A placeholder after a keyword, if there is one. -/
def clauseText (keyword : String) : Option Nat → String
  | some n => " " ++ keyword ++ " " ++ placeholder n
  | none => ""

/-- The text of a join. -/
def Join.text (j : Join) : String :=
  " JOIN " ++ j.source.text ++ " ON " ++ j.left.text ++ " = " ++ j.right.text

/-- The text of a query. -/
def Select.text (q : Select) : String :=
  "SELECT " ++ q.selection.text ++ " FROM " ++ q.source.text ++
    (match q.join with | some j => j.text | none => "") ++
    whereText q.conditions ++ orderText q.order ++ clauseText "LIMIT" q.limit ++
    clauseText "OFFSET" q.offset

/-- The text of what to do on a conflict. -/
def OnConflict.text (c : OnConflict) : String :=
  " ON CONFLICT (" ++ c.key ++ ") DO UPDATE SET " ++
    commas (c.updated.map fun column => column ++ " = EXCLUDED." ++ column)

/-- The text of an insertion.  Columns of a row that may be replaced stand off from their
parentheses. -/
def Insert.text (i : Insert) : String :=
  let columns := match i.onConflict with
    | some _ => "( " ++ commas i.columns ++ " )"
    | none => "(" ++ commas i.columns ++ ")"
  let values := (List.range' 1 i.columns.length).map placeholder
  "INSERT INTO " ++ i.table ++ " " ++ columns ++ " VALUES (" ++ commas values ++ ")" ++
    (match i.onConflict with | some c => c.text | none => "")

/-- The text of an update. -/
def Update.text (u : Update) : String :=
  "UPDATE " ++ u.table ++ " SET " ++
    commas (u.assignments.map fun a => a.1 ++ " = " ++ placeholder a.2) ++ whereText u.conditions

/-- The text of a statement. -/
def Statement.text : Statement → String
  | begin (some isolation) => "BEGIN ISOLATION LEVEL " ++ isolation.sql
  | begin none => "BEGIN"
  | setReadOnly => "SET TRANSACTION READ ONLY"
  | savepoint name => "SAVEPOINT " ++ name
  | releaseSavepoint name => "RELEASE SAVEPOINT " ++ name
  | rollbackToSavepoint name => "ROLLBACK TO SAVEPOINT " ++ name
  | commit => "COMMIT"
  | rollback => "ROLLBACK"
  | select query => query.text
  | insert insertion => insertion.text
  | update change => change.text

end Appraisal.Postgres
