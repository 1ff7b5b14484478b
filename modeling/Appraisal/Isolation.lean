/-!
# Isolation levels

The four levels at which a transaction may be shielded from concurrent ones, in their spelling in
SQL.
-/

namespace Appraisal

/-- The isolation level of a transaction. -/
inductive Isolation
  | readUncommitted | readCommitted | repeatableRead | serializable
deriving DecidableEq, Repr

namespace Isolation

/-- Transactions that ask for no level get this one. -/
instance : Inhabited Isolation := ⟨readCommitted⟩

/-- The levels, weakest first. -/
def all : List Isolation := [readUncommitted, readCommitted, repeatableRead, serializable]

/-- The spelling in SQL. -/
def sql : Isolation → String
  | readUncommitted => "READ UNCOMMITTED"
  | readCommitted => "READ COMMITTED"
  | repeatableRead => "REPEATABLE READ"
  | serializable => "SERIALIZABLE"

end Isolation

end Appraisal
