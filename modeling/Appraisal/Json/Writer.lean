import Appraisal.Json

/-!
# Writing JSON

The shortest text of a value, without gaps.  Inside strings a quote, a backslash and the control
characters are escaped and nothing else is.
-/

namespace Appraisal.Json

/-- A hexadecimal digit. -/
def hexDigit (d : Nat) : Char :=
  if d < 10 then Char.ofNat (48 + d) else Char.ofNat (87 + d)

/-- A character as it stands in a string. -/
def escapeChar (c : Char) : List Char :=
  if c = '"' then ['\\', '"']
  else if c = '\\' then ['\\', '\\']
  else if c = '\x08' then ['\\', 'b']
  else if c = '\x0c' then ['\\', 'f']
  else if c = '\n' then ['\\', 'n']
  else if c = '\r' then ['\\', 'r']
  else if c = '\t' then ['\\', 't']
  else if c.toNat < 32 then
    ['\\', 'u', '0', '0', hexDigit (c.toNat / 16), hexDigit (c.toNat % 16)]
  else [c]

/-- A string with its quotes.  A string without a text is written as half of a surrogate pair. -/
def writeString : Option String → String
  | some text => String.ofList ('"' :: (text.toList.flatMap escapeChar ++ ['"']))
  | none => "\"\\ud800\""

mutual

/-- The text of a value. -/
def text : Json → String
  | null => "null"
  | bool true => "true"
  | bool false => "false"
  | number digits => digits
  | string t => writeString t
  | array items => "[" ++ itemsText items ++ "]"
  | object members => "\x7b" ++ membersText members ++ "\x7d"

/-- The text of items with commas between them. -/
def itemsText : List Json → String
  | [] => ""
  | [item] => text item
  | item :: rest => text item ++ "," ++ itemsText rest

/-- The text of members with commas between them. -/
def membersText : List (Option String × Json) → String
  | [] => ""
  | [(name, value)] => writeString name ++ ":" ++ text value
  | (name, value) :: rest => writeString name ++ ":" ++ text value ++ "," ++ membersText rest

end

/-! ## Tests -/

example : escapeChar '\x1f' = ['\\', 'u', '0', '0', '1', 'f'] := by decide
example : escapeChar 'é' = ['é'] := by decide

end Appraisal.Json
