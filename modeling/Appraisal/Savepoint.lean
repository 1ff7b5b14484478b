import Appraisal.Failure

/-!
# Names of savepoints

A savepoint's name cannot be bound as a parameter, so it becomes part of a statement as it stands.
Only plain identifiers are let through: a letter or underscore, then letters, digits and
underscores, all of them ASCII, and at most 63 bytes in all.
-/

namespace Appraisal

/-- The character may stand first in an identifier. -/
def isIdentifierStart (c : Char) : Bool := c.isAlpha || c == '_'

/-- The character may stand in an identifier. -/
def isIdentifierPart (c : Char) : Bool := c.isAlphanum || c == '_'

/-- The characters make up a plain identifier, not counting its length. -/
def isIdentifierText : List Char → Bool
  | [] => false
  | c :: cs => isIdentifierStart c && cs.all isIdentifierPart

/-- The longest identifier, in bytes. -/
def maxIdentifierLength : Nat := 63

/-- The name is a plain identifier. -/
def isIdentifier (name : String) : Bool :=
  isIdentifierText name.toList && decide (name.utf8ByteSize ≤ maxIdentifierLength)

/-- Lets plain identifiers through. -/
def checkIdentifier (name : String) : Except Failure Unit :=
  if isIdentifier name then .ok () else .error (.invalidIdentifier name)

theorem checkIdentifier_eq_ok_iff {name : String} :
    checkIdentifier name = .ok () ↔ isIdentifier name = true := by
  rw [checkIdentifier]
  split <;> simp_all

/-! ## Tests -/

example : isIdentifierText ['_', '1'] = true := by decide
example : isIdentifierText ['1', 'a'] = false := by decide
example : isIdentifierText ['a', ';'] = false := by decide

end Appraisal
