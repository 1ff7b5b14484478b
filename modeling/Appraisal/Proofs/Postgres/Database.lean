import Mathlib.Logic.Function.Basic
import Appraisal.Postgres.Mapping
import Appraisal.Proofs.Answers
import Appraisal.Proofs.Postgres.Server

/-!
# A database of tables

What statements mean on any number of tables.  A table is a list of rows whose order means nothing.

* A query looks at the rows of its table, each with every row of the joined table that agrees with
  it.  It keeps those that meet all conditions, lists them in any order that its own order allows,
  skips as many as it is told and shows as many as it may.  It cannot skip or show a negative number
  of rows.
* An insertion adds a row with the parameters in the columns that it lists and the defaults in the
  others.  It cannot add a row whose key is taken, but it may say what to change in the row that has
  the key.
* An update changes the columns that it names in every row that meets its conditions.
* Neither may leave a row that breaks a constraint of its table.  Some columns hold one of a few
  texts, a row that is completed is also read, and the row of a recipient belongs to a request that
  is there (`Database.Conforms`).

`Database.Replies` relates a statement to its reply and to the database after it, and
`Database.Performs` an exchange to what it comes to when every statement is carried out.  That
leaves constraints as they were (`Performs.conforms`).  Nothing is said of statements that fail, and
what may reject a statement besides keys and constraints is left out: a server may be unable to hold
a value, or go down.
-/

namespace Appraisal.Postgres

/-! ## Rows in scope -/

/-- Rows that a query looks at together, by the short names of their tables. -/
abbrev Scope : Type := List (Option String × Row)

namespace Scope

/-- The value of a column. -/
def cell? (scope : Scope) (c : Column) : Option Cell :=
  (scope.lookup c.source).bind (·.cell? c.name)

end Scope

/-- The column that a condition is about. -/
def Condition.column : Condition → Column
  | .equals column _ | .isFalse column | .isNull column => column

/-- The row of the table that a condition is about meets it. -/
def Condition.meets (parameters : List Cell) (scope : Scope) (c : Condition) : Bool :=
  (scope.lookup c.column.source).any (c.holds parameters)

/-- Two rows agree on the columns of a join.  Nothing agrees with an empty cell. -/
def Join.agrees (j : Join) (scope : Scope) : Bool :=
  match scope.cell? j.left, scope.cell? j.right with
  | some a, some b => a == b && a != .null
  | _, _ => false

/-! ## Order -/

/-- A value comes before another one.  Empty cells come last.  Texts are not put in order: which one
is first depends on the server, and no query asks for it. -/
def Cell.below : Cell → Cell → Bool
  | .uuid a, .uuid b => rank a < rank b
  | .timestamp a, .timestamp b => a.micros < b.micros
  | .int a, .int b => a < b
  | .bool a, .bool b => !a && b
  | .null, _ => false
  | _, .null => true
  | _, _ => false

/-- A value comes before another one in a direction. -/
def Direction.before : Direction → Cell → Cell → Bool
  | .ascending, a, b => a.below b
  | .descending, a, b => b.below a

/-- Rows must be listed before others. -/
def Scope.before : List (Column × Direction) → Scope → Scope → Bool
  | [], _, _ => false
  | (column, direction) :: order, s, t =>
    match s.cell? column, t.cell? column with
    | some a, some b => direction.before a b || (a == b && before order s t)
    | _, _ => false

/-! ## Queries -/

namespace Select

/-- What the query looks at. -/
def scopes (q : Select) (rows : String → List Row) : List Scope :=
  match q.join with
  | none => (rows q.source.table).map fun row => [(q.source.short, row)]
  | some j =>
    (rows q.source.table).flatMap fun row =>
      ((rows j.source.table).map fun other =>
        [(q.source.short, row), (j.source.short, other)]).filter j.agrees

/-- What meets the conditions. -/
def found (q : Select) (parameters : List Cell) (rows : String → List Row) : List Scope :=
  (q.scopes rows).filter fun scope => q.conditions.all (·.meets parameters scope)

/-- What the query shows of the rows in scope. -/
def view (q : Select) (scope : Scope) : Row :=
  match q.selection with
  | .columns columns => columns.filterMap fun c => (scope.cell? c).map (c.name, ·)
  | .all | .count => scope.flatMap Prod.snd

/-- How many rows a parameter allows, if it makes sense.  Without a parameter, or with an empty one,
there is no limit. -/
def bound? (parameters : List Cell) : Option Nat → Option (Option Nat)
  | none => some none
  | some n =>
    match parameters[n - 1]? with
    | some (.int k) => if k < 0 then none else some (some k.toNat)
    | some .null => some none
    | _ => none

/-- Part of a list: so many elements are skipped, and at most so many taken. -/
def window {α : Type} (skipped most : Option Nat) (xs : List α) : List α :=
  let rest := xs.drop (skipped.getD 0)
  match most with
  | some n => rest.take n
  | none => rest

/-- The query may return these rows. -/
inductive Returns (q : Select) (parameters : List Cell) (rows : String → List Row) :
    List Row → Prop
  | counted (counts : q.selection = .count) :
    Returns q parameters rows [[("count", .int (q.found parameters rows).length)]]
  | listed (lists : q.selection ≠ .count) {scopes : List Scope} {skipped most : Option Nat}
    (all : scopes.Perm (q.found parameters rows))
    (ordered : scopes.Pairwise fun s t => Scope.before q.order t s = false)
    (offset : bound? parameters q.offset = some skipped)
    (limit : bound? parameters q.limit = some most) :
    Returns q parameters rows ((window skipped most scopes).map q.view)

end Select

/-! ## Insertions -/

/-- The keys of a table: lists of columns on which no two rows agree. -/
def keys (table : String) : List (List String) :=
  if table = approvalTable then [["mapping_id"]]
  else if table = requestTable then [["id"]]
  else if table = recipientTable then [["revision_request_id", "recipient_id"]]
  else if table = mappingTable then [["id"], ["evaluation_period_id", "employee_id"]]
  else if table = lineTable then [["id"]]
  else []

/-- The columns that a table fills in itself.  All other columns are listed by every insertion. -/
def defaults (table : String) (now : Timestamp) : Row :=
  if table = mappingTable ∨ table = lineTable then
    [("created_at", .timestamp now), ("deleted_at", .null)]
  else []

/-- Two rows have the same values in some columns. -/
def Row.agrees (columns : List String) (a b : Row) : Bool :=
  columns.all fun c => a.cell? c == b.cell? c

/-- The columns to update, taken from a new row. -/
def OnConflict.over (c : OnConflict) (old new : Row) : Row :=
  old.map fun cell =>
    if cell.1 ∈ c.updated then (cell.1, (new.cell? cell.1).getD .null) else cell

namespace Insert

/-- The row that is inserted. -/
def row (i : Insert) (parameters : List Cell) (now : Timestamp) : Row :=
  i.columns.zip parameters ++ (defaults i.table now).filter fun cell => cell.1 ∉ i.columns

/-- The rows of a table with one more, unless a key of it is taken. -/
def added? (i : Insert) (row : Row) (rows : List Row) : Option (List Row) :=
  if (keys i.table).any fun key => rows.any (row.agrees key) then none else some (row :: rows)

/-- The rows of a table after an insertion. -/
def into? (i : Insert) (row : Row) (rows : List Row) : Option (List Row) :=
  match i.onConflict with
  | none => i.added? row rows
  | some c =>
    if rows.any (row.agrees [c.key]) then
      some (rows.map fun old => if row.agrees [c.key] old then c.over old row else old)
    else i.added? row rows

end Insert

/-! ## Constraints -/

/-- A condition that a table sets on its rows. -/
inductive Check
  /-- The column holds one of some texts. -/
  | oneOf (column : String) (texts : List String)
  /-- The second column is true if the first one is. -/
  | implies (column other : String)

/-- A row meets a condition.  Empty columns break none. -/
def Check.holds (row : Row) : Check → Bool
  | oneOf column texts =>
    ((row.cell? column).bind CellType.ofCell?).all fun text : String => texts.contains text
  | implies column other =>
    !(row.cell? column == some (.bool true) && row.cell? other == some (.bool false))

/-- The conditions of a table. -/
def checks (table : String) : List Check :=
  if table = approvalTable then
    ["criteria_status", "self_status", "primary_status", "secondary_status"].map
      (.oneOf · ["pending", "approved", "revision_requested"])
  else if table = requestTable then
    [.oneOf "step" ["criteria", "self", "primary", "secondary"]]
  else if table = recipientTable then
    [.oneOf "recipient_type" ["evaluatee", "primary_evaluator", "secondary_evaluator"],
      .implies "is_completed" "is_read"]
  else if table = lineTable then [.oneOf "evaluator_type" ["primary", "secondary"]]
  else []

/-- A column whose values stand in a column of another table. -/
structure Reference where
  column : String
  table : String
  key : String

/-- The references of a table. -/
def references (table : String) : List Reference :=
  if table = recipientTable then [⟨"revision_request_id", requestTable, "id"⟩] else []

/-- The tables of the schema. -/
def tables : List String := [approvalTable, requestTable, recipientTable, mappingTable, lineTable]

theorem Reference.table_eq {table : String} {r : Reference} (mem : r ∈ references table) :
    r.table = requestTable := by
  rw [references] at mem
  split at mem
  · rw [List.mem_singleton.1 mem]
  · cases mem

/-! ## The database -/

/-- A database. -/
structure Database where
  /-- The rows of each table. -/
  rows : String → List Row
  /-- When the transaction began. -/
  now : Timestamp

namespace Database

/-- The database with other rows in a table. -/
def set (db : Database) (table : String) (rows : List Row) : Database :=
  { db with rows := Function.update db.rows table rows }

@[simp] theorem rows_set_self (db : Database) (table : String) (rows : List Row) :
    (db.set table rows).rows table = rows :=
  Function.update_self ..

theorem rows_set_of_ne (db : Database) {table other : String} (rows : List Row)
    (h : other ≠ table) : (db.set table rows).rows other = db.rows other :=
  Function.update_of_ne h ..

theorem set_rows (db : Database) (table : String) : db.set table (db.rows table) = db := by
  obtain ⟨rows, now⟩ := db
  show Database.mk (Function.update rows table (rows table)) now = _
  rw [Function.update_eq_self]

@[simp] theorem now_set (db : Database) (table : String) (rows : List Row) :
    (db.set table rows).now = db.now := rfl

/-! ### Rows that may stand in a table -/

/-- The row to which a row refers is there. -/
def finds (db : Database) (row : Row) (r : Reference) : Bool :=
  (db.rows r.table).any fun other => other.cell? r.key == row.cell? r.column

/-- A row may stand in a table: it meets the conditions of the table, and what it refers to is
there. -/
def admits (db : Database) (table : String) (row : Row) : Bool :=
  (checks table).all (·.holds row) && (references table).all (db.finds row)

/-- Every row meets the constraints of its table. -/
def Conforms (db : Database) : Prop :=
  ∀ table ∈ tables, ∀ row ∈ db.rows table, db.admits table row = true

instance (db : Database) : Decidable db.Conforms :=
  inferInstanceAs (Decidable (∀ table ∈ tables, ∀ row ∈ db.rows table, db.admits table row = true))

/-- Nothing refers to the rows of a table other than that of requests. -/
theorem admits_set_of_ne (db : Database) {table : String} (unreferred : table ≠ requestTable)
    (rows : List Row) (other : String) (row : Row) :
    (db.set table rows).admits other row = db.admits other row := by
  have finds : ∀ r ∈ references other, (db.set table rows).finds row r = db.finds row r := by
    intro r mem
    rw [Database.finds, rows_set_of_ne _ _ (r.table_eq mem ▸ unreferred.symm)]
    rfl
  have all : (references other).all ((db.set table rows).finds row) =
      (references other).all (db.finds row) := by
    rw [Bool.eq_iff_iff, List.all_eq_true, List.all_eq_true]
    exact forall₂_congr fun r mem => by rw [finds r mem]
  rw [admits, admits, all]

/-- A row more leaves what others refer to. -/
theorem admits_set_cons {db : Database} {other : String} {row : Row}
    (admitted : db.admits other row = true) (table : String) (new : Row) :
    (db.set table (new :: db.rows table)).admits other row = true := by
  rw [admits, Bool.and_eq_true] at admitted ⊢
  refine ⟨admitted.1, List.all_eq_true.2 fun r mem => ?_⟩
  obtain ⟨found, stands, same⟩ := List.any_eq_true.1 (List.all_eq_true.1 admitted.2 r mem)
  refine List.any_eq_true.2 ⟨found, ?_, same⟩
  by_cases own : r.table = table
  · rw [own] at stands ⊢
    rw [rows_set_self]
    exact List.mem_cons_of_mem _ stands
  · rwa [rows_set_of_ne _ _ own]

namespace Conforms

variable {db : Database} {table : String}

/-- A row more. -/
theorem cons (conforms : db.Conforms) {row : Row} (admitted : db.admits table row = true) :
    (db.set table (row :: db.rows table)).Conforms := by
  intro other known row' stands
  by_cases own : other = table
  · subst own
    rw [rows_set_self] at stands
    rcases List.mem_cons.1 stands with rfl | stands
    · exact admits_set_cons admitted other _
    · exact admits_set_cons (conforms other known _ stands) other _
  · rw [rows_set_of_ne _ _ own] at stands
    exact admits_set_cons (conforms other known _ stands) table _

/-- Other rows in a table to whose rows nothing refers. -/
theorem set_iff (conforms : db.Conforms) (known : table ∈ tables)
    (unreferred : table ≠ requestTable) {rows : List Row} :
    (db.set table rows).Conforms ↔ ∀ row ∈ rows, db.admits table row = true := by
  constructor
  · intro kept row stands
    rw [← db.admits_set_of_ne unreferred rows]
    exact kept table known row (by rwa [rows_set_self])
  · intro admitted other known' row stands
    rw [db.admits_set_of_ne unreferred rows]
    by_cases own : other = table
    · subst own
      rw [rows_set_self] at stands
      exact admitted row stands
    · rw [rows_set_of_ne _ _ own] at stands
      exact conforms other known' row stands

theorem cons_iff (conforms : db.Conforms) (known : table ∈ tables)
    (unreferred : table ≠ requestTable) {row : Row} :
    (db.set table (row :: db.rows table)).Conforms ↔ db.admits table row = true := by
  rw [conforms.set_iff known unreferred, List.forall_mem_cons]
  exact and_iff_left (conforms table known)

end Conforms

/-! ### Statements -/

/-- A row meets the conditions of an update. -/
def meets (u : Update) (parameters : List Cell) (row : Row) : Bool :=
  u.conditions.all (·.holds parameters row)

/-- The database may carry a statement out with this reply.  No statement breaks a constraint. -/
inductive Replies : Database → Bound → Reply → Database → Prop
  | begin (db : Database) (isolation : Option Isolation) (now : Timestamp) :
    Replies db ⟨.begin isolation, []⟩ ⟨[], 0⟩ { db with now }
  | commit (db : Database) : Replies db ⟨.commit, []⟩ ⟨[], 0⟩ db
  | select {db : Database} {q : Select} {parameters : List Cell} {rows : List Row}
    (returned : q.Returns parameters db.rows rows) :
    Replies db ⟨.select q, parameters⟩ ⟨rows, rows.length⟩ db
  | insert {db : Database} {i : Insert} {parameters : List Cell} {rows : List Row}
    (inserted : i.into? (i.row parameters db.now) (db.rows i.table) = some rows)
    (keeps : db.Conforms → (db.set i.table rows).Conforms) :
    Replies db ⟨.insert i, parameters⟩ ⟨[], 1⟩ (db.set i.table rows)
  | update {db : Database} {u : Update} {parameters : List Cell} {rows : List Row}
    (updated : rows = (db.rows u.table).map fun row =>
      if meets u parameters row then u.of parameters row else row)
    (keeps : db.Conforms → (db.set u.table rows).Conforms) :
    Replies db ⟨.update u, parameters⟩ ⟨[], (db.rows u.table).countP (meets u parameters)⟩
      (db.set u.table rows)

/-- The database may answer the requests of an exchange this way, all of them without failure.  The
random bits that the exchange draws are listed. -/
inductive Gives :
    Database → List Uuid → List (Program.Answered Request.Answer) → Database → Prop
  | done (db : Database) : Gives db [] [] db
  | acquire {db after : Database} {drawn : List Uuid}
    {rest : List (Program.Answered Request.Answer)} (later : Gives db drawn rest after) :
    Gives db drawn (⟨.acquire, .ok ()⟩ :: rest) after
  | send {db mid after : Database} {bound : Bound} {reply : Reply} {drawn : List Uuid}
    {rest : List (Program.Answered Request.Answer)} (replied : db.Replies bound reply mid)
    (later : Gives mid drawn rest after) :
    Gives db drawn (⟨.send bound, .ok reply⟩ :: rest) after
  | draw {db after : Database} {drawn : List Uuid}
    {rest : List (Program.Answered Request.Answer)} (bits : Uuid)
    (later : Gives db drawn rest after) :
    Gives db (bits :: drawn) (⟨.draw, bits⟩ :: rest) after

/-- The exchange may come to a value, with every request answered, and leave the database this
way. -/
def Performs {α : Type} (db : Database) (x : FallibleExchange α) (drawn : List Uuid) (a : α)
    (after : Database) : Prop :=
  ∃ trace, x.run.Runs trace (.ok a) ∧ db.Gives drawn trace after

variable {α β : Type} {db mid after : Database} {drawn : List Uuid} {a : α}

/-- Constraints still hold after a statement. -/
theorem Replies.conforms {bound : Bound} {reply : Reply} (replied : db.Replies bound reply after)
    (conforms : db.Conforms) : after.Conforms := by
  cases replied with
  | begin | commit | select => exact conforms
  | insert _ keeps | update _ keeps => exact keeps conforms

/-- Constraints still hold after an exchange. -/
theorem Gives.conforms {trace : List (Program.Answered Request.Answer)}
    (given : db.Gives drawn trace after) (conforms : db.Conforms) : after.Conforms := by
  induction given with
  | done => exact conforms
  | acquire _ ih | draw _ _ ih => exact ih conforms
  | send replied _ ih => exact ih (replied.conforms conforms)

theorem Performs.conforms {x : FallibleExchange α} (performed : db.Performs x drawn a after)
    (conforms : db.Conforms) : after.Conforms := by
  obtain ⟨_, -, given⟩ := performed
  exact given.conforms conforms

theorem Gives.append {drawn₁ drawn₂ : List Uuid}
    {first second : List (Program.Answered Request.Answer)} (h₁ : db.Gives drawn₁ first mid)
    (h₂ : mid.Gives drawn₂ second after) :
    db.Gives (drawn₁ ++ drawn₂) (first ++ second) after := by
  induction h₁ with
  | done db => exact h₂
  | acquire later ih => exact .acquire (ih h₂)
  | send replied later ih => exact .send replied (ih h₂)
  | draw bits later ih => exact .draw bits (ih h₂)

theorem Gives.split {first second : List (Program.Answered Request.Answer)}
    (h : db.Gives drawn (first ++ second) after) :
    ∃ drawn₁ drawn₂ mid, drawn = drawn₁ ++ drawn₂ ∧ db.Gives drawn₁ first mid ∧
      mid.Gives drawn₂ second after := by
  induction first generalizing db drawn with
  | nil => exact ⟨[], drawn, db, rfl, .done db, h⟩
  | cons answered first ih =>
    cases h with
    | acquire later =>
      obtain ⟨drawn₁, drawn₂, mid, rfl, h₁, h₂⟩ := ih later
      exact ⟨drawn₁, drawn₂, mid, rfl, .acquire h₁, h₂⟩
    | send replied later =>
      obtain ⟨drawn₁, drawn₂, mid, rfl, h₁, h₂⟩ := ih later
      exact ⟨drawn₁, drawn₂, mid, rfl, .send replied h₁, h₂⟩
    | draw bits later =>
      obtain ⟨drawn₁, drawn₂, mid, rfl, h₁, h₂⟩ := ih later
      exact ⟨bits :: drawn₁, drawn₂, mid, rfl, .draw bits h₁, h₂⟩

/-! ## Exchanges, step by step -/

@[simp] theorem performs_pure_iff {b : α} :
    db.Performs (pure a) drawn b after ↔ drawn = [] ∧ b = a ∧ after = db := by
  constructor
  · rintro ⟨trace, ran, given⟩
    obtain ⟨rfl, same⟩ := Program.runs_pure_iff.1 ran
    cases same
    cases given
    exact ⟨rfl, rfl, rfl⟩
  · rintro ⟨rfl, rfl, rfl⟩
    exact ⟨[], .done _, .done _⟩

theorem performs_bind_iff {x : FallibleExchange α} {f : α → FallibleExchange β} {b : β} :
    db.Performs (x >>= f) drawn b after ↔
      ∃ drawn₁ drawn₂ a mid, drawn = drawn₁ ++ drawn₂ ∧ db.Performs x drawn₁ a mid ∧
        mid.Performs (f a) drawn₂ b after := by
  constructor
  · rintro ⟨trace, ran, given⟩
    rw [ExceptT.run_bind] at ran
    obtain ⟨first, outcome, second, rfl, left, right⟩ := Program.runs_bind_iff.1 ran
    cases outcome with
    | error f => cases (Program.runs_pure_iff.1 right).2
    | ok a =>
      obtain ⟨drawn₁, drawn₂, mid, rfl, h₁, h₂⟩ := given.split
      exact ⟨drawn₁, drawn₂, a, mid, rfl, ⟨first, left, h₁⟩, ⟨second, right, h₂⟩⟩
  · rintro ⟨drawn₁, drawn₂, a, mid, rfl, ⟨first, left, h₁⟩, ⟨second, right, h₂⟩⟩
    refine ⟨first ++ second, ?_, h₁.append h₂⟩
    rw [ExceptT.run_bind]
    exact Program.runs_bind_iff.2 ⟨first, .ok a, second, rfl, left, right⟩

theorem performs_acquire_iff {u : Unit} :
    db.Performs Exchange.acquire drawn u after ↔ drawn = [] ∧ after = db := by
  constructor
  · rintro ⟨trace, ran, given⟩
    obtain ⟨answer, rest, rfl, ended⟩ := Program.runs_call_iff.1 ran
    obtain ⟨rfl, -⟩ := Program.runs_pure_iff.1 ended
    cases given with
    | acquire later =>
      cases later
      exact ⟨rfl, rfl⟩
  · rintro ⟨rfl, rfl⟩
    exact ⟨_, .ask (.ok ()) (.done _), .acquire (.done _)⟩

theorem performs_send_iff {statement : Statement} {parameters : List Cell} {reply : Reply} :
    db.Performs (Exchange.send statement parameters) drawn reply after ↔
      drawn = [] ∧ db.Replies ⟨statement, parameters⟩ reply after := by
  constructor
  · rintro ⟨trace, ran, given⟩
    obtain ⟨answer, rest, rfl, ended⟩ := Program.runs_call_iff.1 ran
    obtain ⟨rfl, rfl⟩ := Program.runs_pure_iff.1 ended
    cases given with
    | send replied later =>
      cases later
      exact ⟨rfl, replied⟩
  · rintro ⟨rfl, replied⟩
    exact ⟨_, .ask (.ok reply) (.done _), .send replied (.done _)⟩

theorem performs_decoded_iff {result : Except Failure α} :
    db.Performs (Exchange.decoded result) drawn a after ↔
      drawn = [] ∧ result = .ok a ∧ after = db := by
  constructor
  · rintro ⟨trace, ran, given⟩
    obtain ⟨rfl, rfl⟩ := Program.runs_pure_iff.1 ran
    cases given
    exact ⟨rfl, rfl, rfl⟩
  · rintro ⟨rfl, rfl, rfl⟩
    exact ⟨[], .done _, .done _⟩

theorem performs_freshUuid_iff {id : Uuid} :
    db.Performs (ExceptT.lift Exchange.freshUuid) drawn id after ↔
      ∃ bits : Uuid, drawn = [bits] ∧ id = bits.random ∧ after = db := by
  constructor
  · rintro ⟨trace, ran, given⟩
    obtain ⟨answer, rest, rfl, ended⟩ := Program.runs_call_iff.1 ran
    obtain ⟨rfl, same⟩ := Program.runs_pure_iff.1 ended
    cases same
    cases given with
    | draw bits later =>
      cases later
      exact ⟨_, rfl, rfl, rfl⟩
  · rintro ⟨bits, rfl, rfl, rfl⟩
    exact ⟨_, .ask bits (Program.runs_pure_iff.2 ⟨rfl, rfl⟩), .draw bits (.done _)⟩

/-- A call that sends one statement and reads the reply to it. -/
theorem performs_call_iff {s : Session} (connected : s.connected = true) {bound : Bound}
    {read : Reply → Except Failure α} :
    db.Performs (do let reply ← s.send bound; Exchange.decoded (read reply)) drawn a after ↔
      drawn = [] ∧ ∃ reply, db.Replies bound reply after ∧ read reply = .ok a := by
  rw [performs_bind_iff, Session.send, if_pos connected]
  constructor
  · rintro ⟨drawn₁, drawn₂, reply, mid, rfl, sent, decoded⟩
    obtain ⟨rfl, replied⟩ := performs_send_iff.1 sent
    obtain ⟨rfl, read, rfl⟩ := performs_decoded_iff.1 decoded
    exact ⟨rfl, reply, replied, read⟩
  · rintro ⟨rfl, reply, replied, read⟩
    exact ⟨[], [], reply, after, rfl, performs_send_iff.2 ⟨rfl, replied⟩,
      performs_decoded_iff.2 ⟨rfl, read, rfl⟩⟩

/-! ## Replies, statement by statement -/

theorem replies_select_iff {q : Select} {parameters : List Cell} {reply : Reply} :
    db.Replies ⟨.select q, parameters⟩ reply after ↔
      q.Returns parameters db.rows reply.rows ∧ reply.affected = reply.rows.length ∧
        after = db := by
  constructor
  · intro replied
    cases replied with
    | select returned => exact ⟨returned, rfl, rfl⟩
  · rintro ⟨returned, counted, rfl⟩
    obtain ⟨rows, affected⟩ := reply
    obtain rfl : affected = rows.length := counted
    exact .select returned

theorem replies_insert_iff {i : Insert} {parameters : List Cell} {reply : Reply} :
    db.Replies ⟨.insert i, parameters⟩ reply after ↔
      reply = ⟨[], 1⟩ ∧ ∃ rows, i.into? (i.row parameters db.now) (db.rows i.table) = some rows ∧
        (db.Conforms → (db.set i.table rows).Conforms) ∧ after = db.set i.table rows := by
  constructor
  · intro replied
    cases replied with
    | insert inserted keeps => exact ⟨rfl, _, inserted, keeps, rfl⟩
  · rintro ⟨rfl, rows, inserted, keeps, rfl⟩
    exact .insert inserted keeps

theorem replies_update_iff {u : Update} {parameters : List Cell} {reply : Reply} :
    db.Replies ⟨.update u, parameters⟩ reply after ↔
      reply = ⟨[], (db.rows u.table).countP (meets u parameters)⟩ ∧
        (db.Conforms → after.Conforms) ∧
        after = db.set u.table ((db.rows u.table).map fun row =>
          if meets u parameters row then u.of parameters row else row) := by
  constructor
  · intro replied
    cases replied with
    | update updated keeps => exact ⟨rfl, keeps, by rw [updated]⟩
  · rintro ⟨rfl, keeps, rfl⟩
    exact .update rfl keeps

end Database

end Appraisal.Postgres
