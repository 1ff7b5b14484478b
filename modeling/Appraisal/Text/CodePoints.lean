/-!
# Sets of code points

A set of characters is kept as a table of closed ranges of code points, in increasing order.
`CodePoints.contains` looks a character up and stops at the first range beyond it.
-/

namespace Appraisal.Text

/-- Ranges of code points in increasing order, each with its first and last one. -/
abbrev CodePoints : Type := List (Nat × Nat)

/-- The number is in one of the ranges. -/
def CodePoints.containsNat : CodePoints → Nat → Bool
  | [], _ => false
  | (first, last) :: ranges, n =>
    if n < first then false else if n ≤ last then true else containsNat ranges n

/-- The character is in one of the ranges. -/
def CodePoints.contains (ranges : CodePoints) (c : Char) : Bool := ranges.containsNat c.toNat

/-! ## Tests -/

example : CodePoints.contains [(0x30, 0x39), (0x41, 0x46)] 'A' = true := by decide
example : CodePoints.contains [(0x30, 0x39), (0x41, 0x46)] '@' = false := by decide

end Appraisal.Text
