import Appraisal.Text.Blank
import Appraisal.Time.Calendar
import Appraisal.Time.Instant

/-!
# Times in RFC 3339

An instant is written as date, `T`, time of day and `Z`.  The fraction of the second has no digits,
three, six or nine, the fewest that are exact.  Years outside 0 to 9999 carry a sign.

Reading is more lenient.  Numbers may lack leading zeros and may have blanks before them, a year
may carry a sign and then have any number of digits, the date may end with `T`, `t` or a space, and
the fraction may have any number of digits, of which nine count.  The offset is `Z`, `UTC`, or a
sign with hours and minutes, and colons and blanks may stand between the two.  Second 60 is a leap
second, at the end of any minute.

Every part of the reader is a step: it takes the text that is left and returns a value and what is
left after it.
-/

namespace Appraisal.Rfc3339

open Text (isBlank trimStart)

/-! ## Writing -/

/-- The last `count` decimal digits of a number. -/
def padded : Nat → Nat → List Char
  | 0, _ => []
  | count + 1, n => padded count (n / 10) ++ [Char.ofNat (48 + n % 10)]

/-- A number without leading zeros, but with at least four digits. -/
def yearDigits (n : Nat) : List Char :=
  if n < 10000 then padded 4 n else Nat.toDigits 10 n

/-- The year, with its sign if it has not four digits. -/
def yearText (y : Int) : List Char :=
  if 0 ≤ y ∧ y ≤ 9999 then padded 4 y.toNat
  else (if y < 0 then '-' else '+') :: yearDigits y.natAbs

/-- The digits after the decimal point, with the point, for nanoseconds below a second. -/
def fractionText (n : Nat) : List Char :=
  if n = 0 then []
  else if n % 1000000 = 0 then '.' :: padded 3 (n / 1000000)
  else if n % 1000 = 0 then '.' :: padded 6 (n / 1000)
  else '.' :: padded 9 n

/-- An instant with its fraction written by the given rule. -/
def textWith (fraction : Nat → List Char) (t : Instant) : String :=
  let date := Date.ofDayNumber (t.seconds / 86400)
  let ofDay := (t.seconds % 86400).toNat
  let leap := t.nanos / 1000000000
  String.ofList <|
    yearText date.year ++ '-' :: padded 2 date.month ++ '-' :: padded 2 date.day ++
      'T' :: padded 2 (ofDay / 3600) ++ ':' :: padded 2 (ofDay / 60 % 60) ++
      ':' :: padded 2 (ofDay % 60 + leap) ++ fraction (t.nanos % 1000000000) ++ ['Z']

/-- An instant with the fewest digits that are exact. -/
def text (t : Instant) : String := textWith fractionText t

/-- An instant with its microseconds always written out. -/
def microsecondText (t : Instant) : String := textWith (fun n => '.' :: padded 6 (n / 1000)) t

/-! ## Reading -/

/-- A step of reading: a value and the text after it. -/
abbrev Reader (α : Type) := List Char → Option (α × List Char)

/-- The value of a decimal digit. -/
def digitValue? (c : Char) : Option Nat :=
  if '0' ≤ c ∧ c ≤ '9' then some (c.toNat - 48) else none

/-- The leading digits, at most `limit` of them, with the number they make after `acc`. -/
def takeDigits : Nat → Nat → List Char → Nat × List Char
  | limit + 1, acc, c :: cs =>
    match digitValue? c with
    | some d => takeDigits limit (10 * acc + d) cs
    | none => (acc, c :: cs)
  | _, acc, cs => (acc, cs)

/-- A number of one digit to `limit` digits. -/
def number (limit : Nat) : Reader Nat
  | [] => none
  | c :: cs => if (digitValue? c).isSome then some (takeDigits limit 0 (c :: cs)) else none

/-- A number in a range, of at most two digits, after any blanks. -/
def field (low high : Nat) : Reader Nat := fun cs =>
  match number 2 (trimStart cs) with
  | some (n, rest) => if low ≤ n ∧ n ≤ high then some (n, rest) else none
  | none => none

/-- A year: four digits at most, or a sign and any number of digits. -/
def year : Reader Int := fun cs =>
  match trimStart cs with
  | '-' :: rest => (number rest.length rest).map fun r => (-(r.1 : Int), r.2)
  | '+' :: rest => (number rest.length rest).map fun r => ((r.1 : Int), r.2)
  | rest => (number 4 rest).map fun r => ((r.1 : Int), r.2)

/-- A mark after any blanks. -/
def mark (c : Char) (cs : List Char) : Option (List Char) :=
  match trimStart cs with
  | d :: rest => if d = c then some rest else none
  | [] => none

/-- The end of the date. -/
def dateEnd : List Char → Option (List Char)
  | c :: rest => if c = 'T' ∨ c = 't' ∨ c = ' ' then some rest else none
  | [] => none

/-- Nanoseconds of the first nine digits of a fraction. -/
def scaleFraction (count n : Nat) : Nat := n * Nat.pow 10 (9 - count)

/-- The fraction of a second in nanoseconds.  Digits beyond the ninth are passed over. -/
def fraction : Reader Nat
  | '.' :: cs =>
    match number 9 cs with
    | some (n, rest) =>
      some (scaleFraction (cs.length - rest.length) n,
        rest.dropWhile fun c => (digitValue? c).isSome)
    | none => none
  | cs => some (0, cs)

/-- Two digits. -/
def twoDigits : Reader Nat
  | c :: d :: rest =>
    match digitValue? c, digitValue? d with
    | some m, some n => some (10 * m + n, rest)
    | _, _ => none
  | _ => none

/-- A sign; true for a negative one. -/
def sign : Reader Bool
  | '+' :: rest => some (false, rest)
  | '-' :: rest => some (true, rest)
  | '\u2212' :: rest => some (true, rest)
  | _ => none

/-- Hours and minutes of an offset with a sign, in seconds. -/
def signedOffset : Reader Int := fun cs => do
  let (negative, cs) ← sign cs
  let (hours, cs) ← twoDigits cs
  let (minutes, cs) ← twoDigits (cs.dropWhile fun c => c == ':' || isBlank c)
  if minutes ≤ 59 then
    let seconds : Int := hours * 3600 + minutes * 60
    some (if negative then -seconds else seconds, cs)
  else none

/-- The offset from Universal Time in seconds, after any blanks. -/
def offset : Reader Int := fun cs =>
  let cs := trimStart cs
  if (cs.take 3).map Char.toUpper = ['U', 'T', 'C'] then some (0, cs.drop 3)
  else match cs with
    | 'Z' :: rest => some (0, rest)
    | 'z' :: rest => some (0, rest)
    | _ => signedOffset cs

/-- The instant of a local date and time of day at an offset, unless it is out of range. -/
def instant? (date : Date) (hour minute second nanos : Nat) (offset : Int) : Option Instant :=
  let leap : Nat := if second = 60 then 1 else 0
  let seconds : Int :=
    date.dayNumber * 86400 + ((hour * 3600 + minute * 60 + (second - leap) : Nat) : Int) - offset
  let utcYear := (Date.ofDayNumber (seconds / 86400)).year
  if date.isValid ∧ -86400 < offset ∧ offset < 86400 ∧
      Date.minYear ≤ utcYear ∧ utcYear ≤ Date.maxYear then
    if h : nanos + leap * 1000000000 < 2000000000 then
      some ⟨seconds, nanos + leap * 1000000000, h⟩
    else none
  else none

/-- The instant a text spells. -/
def read (cs : List Char) : Option Instant := do
  let (y, cs) ← year cs
  let cs ← mark '-' cs
  let (m, cs) ← field 1 12 cs
  let cs ← mark '-' cs
  let (d, cs) ← field 1 31 cs
  let cs ← dateEnd cs
  let (hour, cs) ← field 0 23 cs
  let cs ← mark ':' cs
  let (minute, cs) ← field 0 59 cs
  let cs ← mark ':' cs
  let (second, cs) ← field 0 60 cs
  let (nanos, cs) ← fraction cs
  let (off, cs) ← offset cs
  if cs.all isBlank then instant? ⟨y, m, d⟩ hour minute second nanos off else none

/-- The instant a text spells. -/
def ofText? (text : String) : Option Instant := read text.toList

/-! ## Tests -/

example : fractionText 250000000 = ['.', '2', '5', '0'] := by decide
example : yearText (-1) = ['-', '0', '0', '0', '1'] := by decide
example : takeDigits 2 0 ['1', '2', '3'] = (12, ['3']) := by decide
example : fraction ['.', '5', 'Z'] = some (500000000, ['Z']) := by decide
example : offset [' ', 'u', 't', 'c'] = some (0, []) := by decide
example : offset ['+', '0', '9', ':', '3', '0'] = some (34200, []) := by decide
example : (instant? ⟨2016, 12, 31⟩ 23 59 60 0 0).map Instant.nanos = some 1000000000 := by decide
example : instant? ⟨2023, 2, 29⟩ 0 0 0 0 0 = none := by decide

end Appraisal.Rfc3339
