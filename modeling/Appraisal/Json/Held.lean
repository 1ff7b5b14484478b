import Appraisal.Json

/-!
# Held values

A value that is read before it is known what it must be is held as it is and looked at again later.
Only values that can be taken apart in full are held: every string must have a text, every number
must be in the range of a double, and there is a limit to how deep values nest.

Where a literal is expected, a held value may have the literal's name with an empty object instead
of `null`.  `hold?` puts `null` there, so that it reads like any other.
-/

namespace Appraisal.Json

/-- How deep a held value may nest. -/
def maxHeldDepth : Nat := 126

/-! ## Numbers in range -/

/-- The nearest number of 53 binary digits before any zeros; of two that are as near, the one whose
last digit is even. -/
def roundToDouble (n : Nat) : Nat :=
  let unit := 1 <<< (Nat.log2 n + 1 - 53)
  let below := n / unit
  let rest := 2 * (n % unit)
  if unit < rest ∨ unit = rest ∧ below % 2 = 1 then (below + 1) * unit else below * unit

/-- A significand and the power of ten it is to be multiplied with. -/
structure Scaled where
  /-- The digits that are kept. -/
  significand : Nat
  /-- The power of ten. -/
  power : Int

namespace Scaled

/-- Takes a digit into the significand, which stays below `UInt64.size`. -/
def append? (s : Scaled) (digit : Char) : Option Nat :=
  let next := Nat.ofDigitChars 10 [digit] s.significand
  if next < UInt64.size then some next else none

/-- Takes the digits before the point.  From the first one that does not fit, digits only count. -/
def takeWhole (s : Scaled) : List Char → Scaled
  | [] => s
  | c :: cs =>
    match s.append? c with
    | some next => takeWhole { s with significand := next } cs
    | none => { s with power := s.power + (cs.length + 1) }

/-- Takes the digits after the point, up to the first one that does not fit. -/
def takeFraction (s : Scaled) : List Char → Scaled
  | [] => s
  | c :: cs =>
    match s.append? c with
    | some next => takeFraction ⟨next, s.power - 1⟩ cs
    | none => s

/-- The number does not round to infinity.  The significand and the power of ten are rounded to
doubles before they are multiplied, and so is their product. -/
def isFinite (s : Scaled) : Bool :=
  if s.significand = 0 ∨ s.power ≤ 0 then true
  else if 308 < s.power then false
  else
    let product := roundToDouble s.significand * roundToDouble (Nat.pow 10 s.power.natAbs)
    decide (roundToDouble product < 1 <<< 1024)

end Scaled

/-- The digits of a number before its exponent, and the exponent. -/
def splitExponent (cs : List Char) : List Char × List Char :=
  let isMark := fun c => c == 'e' || c == 'E'
  (cs.takeWhile (!isMark ·), (cs.dropWhile (!isMark ·)).drop 1)

/-- The number of an exponent. -/
def exponentValue : List Char → Int
  | '-' :: cs => -(Nat.ofDigitChars 10 cs 0 : Int)
  | cs => Nat.ofDigitChars 10 (cs.filter Char.isDigit) 0

/-- The number of some digits, with a point and an exponent if there are any. -/
def scaled (digits : String) : Scaled :=
  let (mantissa, exponent) := splitExponent digits.toList
  let (whole, fraction) := (mantissa.takeWhile (· != '.'), mantissa.dropWhile (· != '.'))
  let s := (Scaled.takeWhole ⟨0, 0⟩ (whole.filter Char.isDigit)).takeFraction (fraction.drop 1)
  { s with power := s.power + exponentValue exponent }

/-- The number is in the range of a double. -/
def inDoubleRange (digits : String) : Bool := (scaled digits).isFinite

/-! ## Holding -/

/-- A member's value with `null` for an empty object. -/
def nullForEmpty : Json → Json
  | .object [] => .null
  | j => j

mutual

/-- The value as it is looked at again later, if it can be held.  The number is how much deeper
values may nest. -/
def holdAt : Nat → Json → Option Json
  | _, .null => some .null
  | _, .bool b => some (.bool b)
  | _, .number digits => if inDoubleRange digits then some (.number digits) else none
  | _, .string none => none
  | _, .string (some text) => some (.string (some text))
  | 0, .array _ => none
  | depth + 1, .array items => (holdItems depth items).map .array
  | 0, .object _ => none
  | depth + 1, .object members =>
    match holdMembers depth members with
    | some [(name, value)] => some (.object [(name, nullForEmpty value)])
    | some members => some (.object members)
    | none => none

/-- Holds every item. -/
def holdItems : Nat → List Json → Option (List Json)
  | _, [] => some []
  | depth, item :: items =>
    match holdAt depth item, holdItems depth items with
    | some item, some items => some (item :: items)
    | _, _ => none

/-- Holds every member. -/
def holdMembers : Nat → List (Option String × Json) → Option (List (Option String × Json))
  | _, [] => some []
  | depth, (name, value) :: members =>
    match name, holdAt depth value, holdMembers depth members with
    | some name, some value, some members => some ((some name, value) :: members)
    | _, _, _ => none

end

/-- The value as it is looked at again later, if it can be held. -/
def hold? (value : Json) : Option Json := holdAt maxHeldDepth value

/-! ## Tests -/

example : roundToDouble 0x3fffffffffffff = 0x40000000000000 := by decide
example : (⟨17976931348623157, 292⟩ : Scaled).isFinite = true := by decide +kernel
example : (⟨17976931348623158, 292⟩ : Scaled).isFinite = false := by decide +kernel
example : (Scaled.takeWhole ⟨1844674407370955161, 0⟩ ['6', '7']).power = 2 := by decide
example : (Scaled.takeFraction ⟨1, 0⟩ ['2', '5']).significand = 125 := by decide
example : splitExponent ['1', 'e', '5'] = (['1'], ['5']) := by decide
example : (holdAt 1 (.array [.array []])).isNone = true := by decide

end Appraisal.Json
