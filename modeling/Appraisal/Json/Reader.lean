import Appraisal.Json

/-!
# Reading JSON

The reader takes the JSON grammar and nothing else: no comments, no trailing commas, no text after
the value.  Control characters must be escaped inside strings.

Each reader takes the characters that are left and returns a value and the characters after it.
Values nest, so the reader of values counts down a budget.  `parse?` starts it with twice the
length of the text, and every two steps use up a character.
-/

namespace Appraisal.Json

/-- A step of reading: a value and the characters after it. -/
abbrev Reader (α : Type) := List Char → Option (α × List Char)

/-- The characters that may stand between the parts of a value. -/
def isGap (c : Char) : Bool := c == ' ' || c == '\n' || c == '\t' || c == '\r'

/-- The text without leading gaps. -/
def skipGap (cs : List Char) : List Char := cs.dropWhile isGap

/-! ## Strings -/

/-- The value of a hexadecimal digit. -/
def hexValue? (c : Char) : Option Nat :=
  if '0' ≤ c ∧ c ≤ '9' then some (c.toNat - 48)
  else if 'a' ≤ c ∧ c ≤ 'f' then some (c.toNat - 87)
  else if 'A' ≤ c ∧ c ≤ 'F' then some (c.toNat - 55)
  else none

/-- The number of four hexadecimal digits. -/
def hex4? (a b c d : Char) : Option Nat := do
  some (((← hexValue? a) * 16 + (← hexValue? b)) * 256 + (← hexValue? c) * 16 + (← hexValue? d))

/-- The character a one-letter escape stands for. -/
def escape? : Char → Option Char
  | '"' => some '"'
  | '\\' => some '\\'
  | '/' => some '/'
  | 'b' => some '\x08'
  | 'f' => some '\x0c'
  | 'n' => some '\n'
  | 'r' => some '\r'
  | 't' => some '\t'
  | _ => none

/-- The units of a string after its opening quote: code points, and halves of surrogate pairs
where escapes name them. -/
def stringUnits : Reader (List Nat)
  | [] => none
  | '"' :: rest => some ([], rest)
  | '\\' :: 'u' :: a :: b :: c :: d :: rest =>
    match hex4? a b c d with
    | some n => (stringUnits rest).map fun r => (n :: r.1, r.2)
    | none => none
  | '\\' :: c :: rest =>
    match escape? c with
    | some e => (stringUnits rest).map fun r => (e.toNat :: r.1, r.2)
    | none => none
  | c :: rest =>
    if c.toNat < 32 then none else (stringUnits rest).map fun r => (c.toNat :: r.1, r.2)

/-- The unit is the first half of a surrogate pair. -/
def isHighHalf (n : Nat) : Bool := 0xD800 ≤ n && n ≤ 0xDBFF

/-- The unit is the second half of a surrogate pair. -/
def isLowHalf (n : Nat) : Bool := 0xDC00 ≤ n && n ≤ 0xDFFF

/-- The characters of some units, unless half of a pair stands alone. -/
def joinHalves : List Nat → Option (List Char)
  | [] => some []
  | n :: rest =>
    if isLowHalf n then none
    else if isHighHalf n then
      match rest with
      | m :: rest =>
        if isLowHalf m then
          (joinHalves rest).map (Char.ofNat (0x10000 + (n - 0xD800) * 0x400 + (m - 0xDC00)) :: ·)
        else none
      | [] => none
    else (joinHalves rest).map (Char.ofNat n :: ·)

/-- The text of a string after its opening quote. -/
def readString : Reader (Option String) := fun cs =>
  (stringUnits cs).map fun r => ((joinHalves r.1).map String.ofList, r.2)

/-! ## Numbers -/

/-- The leading digits; there must be one. -/
def digits1 : Reader (List Char) := fun cs =>
  let ds := cs.takeWhile Char.isDigit
  if ds.isEmpty then none else some (ds, cs.dropWhile Char.isDigit)

/-- The digits before the point: a single zero, or digits that do not start with one. -/
def wholePart : Reader (List Char)
  | '0' :: rest => some (['0'], rest)
  | cs => digits1 cs

/-- The digits after the point, with the point, if there is one. -/
def fractionPart : Reader (List Char)
  | '.' :: rest => (digits1 rest).map fun r => ('.' :: r.1, r.2)
  | cs => some ([], cs)

/-- A sign, if there is one. -/
def signPart : List Char → List Char × List Char
  | '+' :: rest => (['+'], rest)
  | '-' :: rest => (['-'], rest)
  | cs => ([], cs)

/-- The exponent with its letter, if there is one. -/
def exponentPart : Reader (List Char)
  | c :: rest =>
    if c = 'e' ∨ c = 'E' then
      let (sign, rest) := signPart rest
      (digits1 rest).map fun r => (c :: (sign ++ r.1), r.2)
    else some ([], c :: rest)
  | [] => some ([], [])

/-- A number as it is written. -/
def readNumber : Reader (List Char) := fun cs => do
  let (minus, cs) := match cs with
    | '-' :: rest => (['-'], rest)
    | cs => ([], cs)
  let (whole, cs) ← wholePart cs
  let (fraction, cs) ← fractionPart cs
  let (exponent, cs) ← exponentPart cs
  some (minus ++ whole ++ fraction ++ exponent, cs)

/-! ## Values -/

mutual

/-- A value after any gap. -/
def readValue : Nat → Reader Json
  | 0, _ => none
  | budget + 1, cs =>
    match skipGap cs with
    | 'n' :: 'u' :: 'l' :: 'l' :: rest => some (.null, rest)
    | 't' :: 'r' :: 'u' :: 'e' :: rest => some (.bool true, rest)
    | 'f' :: 'a' :: 'l' :: 's' :: 'e' :: rest => some (.bool false, rest)
    | '"' :: rest => (readString rest).map fun r => (.string r.1, r.2)
    | '[' :: rest =>
      match skipGap rest with
      | ']' :: rest => some (.array [], rest)
      | rest => (readItems budget rest).map fun r => (.array r.1, r.2)
    | '{' :: rest =>
      match skipGap rest with
      | '}' :: rest => some (.object [], rest)
      | rest => (readMembers budget rest).map fun r => (.object r.1, r.2)
    | rest => (readNumber rest).map fun r => (.number (String.ofList r.1), r.2)

/-- The items of an array to its closing bracket. -/
def readItems : Nat → Reader (List Json)
  | 0, _ => none
  | budget + 1, cs =>
    match readValue budget cs with
    | none => none
    | some (item, rest) =>
      match skipGap rest with
      | ']' :: rest => some ([item], rest)
      | ',' :: rest => (readItems budget rest).map fun r => (item :: r.1, r.2)
      | _ => none

/-- The members of an object to its closing brace. -/
def readMembers : Nat → Reader (List (Option String × Json))
  | 0, _ => none
  | budget + 1, cs =>
    match skipGap cs with
    | '"' :: rest =>
      match readString rest with
      | none => none
      | some (name, rest) =>
        match skipGap rest with
        | ':' :: rest =>
          match readValue budget rest with
          | none => none
          | some (value, rest) =>
            match skipGap rest with
            | '}' :: rest => some ([(name, value)], rest)
            | ',' :: rest => (readMembers budget rest).map fun r => ((name, value) :: r.1, r.2)
            | _ => none
        | _ => none
    | _ => none

end

/-- The value a text holds, and nothing after it. -/
def parse? (text : String) : Option Json :=
  let cs := text.toList
  match readValue (2 * cs.length + 2) cs with
  | some (value, rest) => if rest.all isGap then some value else none
  | none => none

/-! ## Tests -/

example : joinHalves [0xD83D, 0xDE00] = some ['😀'] := by decide
example : joinHalves [0xDE00] = none := by decide
example : (stringUnits ['\\', 'n', '"']) = some ([10], []) := by decide
example : readNumber ['0', '1'] = some (['0'], ['1']) := by decide
example : readNumber ['-', '1', '.', '5', 'e', '+', '3'] =
    some (['-', '1', '.', '5', 'e', '+', '3'], []) := by decide
example : (readValue 9 ['[', '1', ',', ']']).isNone = true := by decide

end Appraisal.Json
