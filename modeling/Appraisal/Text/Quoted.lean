import Appraisal.Text.Combining
import Appraisal.Text.Invisible
import Appraisal.Text.Unassigned

/-!
# Quoted text

Messages quote a text so that its extent and its content are plain to see.  The quotes are double.
Inside them a double quote and a backslash follow a backslash, NUL, tab, carriage return and line
feed have their short forms, and every other invisible or combining character and every code point
without a character is written as its number in braces.  A single quote stands for itself.
-/

namespace Appraisal.Text

/-- A code point in lower-case hexadecimal, without leading zeros. -/
def hexDigits (n : Nat) : List Char := Nat.toDigits 16 n

/-- One character as it stands between quotes. -/
def quotedChar (c : Char) : List Char :=
  if c = '"' then ['\\', '"']
  else if c = '\\' then ['\\', '\\']
  else if c = '\x00' then ['\\', '0']
  else if c = '\t' then ['\\', 't']
  else if c = '\r' then ['\\', 'r']
  else if c = '\n' then ['\\', 'n']
  else if isInvisible c || isCombining c || isUnassigned c then
    ['\\', 'u', '\x7b'] ++ hexDigits c.toNat ++ ['\x7d']
  else [c]

/-- The text between double quotes, with what cannot be read as it stands spelled out. -/
def quoted (text : String) : String :=
  String.ofList ('"' :: (text.toList.flatMap quotedChar ++ ['"']))

/-! ## Tests -/

example : quotedChar '"' = ['\\', '"'] := by decide
set_option maxRecDepth 8000 in
example : quotedChar '\'' = ['\''] := by decide

end Appraisal.Text
