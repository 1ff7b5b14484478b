/-!
# JSON values

A JSON value as its text gives it.  Numbers keep their digits, objects keep the order and the
repetitions of their members.  An escape may name one half of a surrogate pair without the other.
No text can hold that, so a string that contains one has no text, but it is a string all the same.
-/

namespace Appraisal

/-- A JSON value. -/
inductive Json
  /-- The value `null`. -/
  | null
  /-- `true` or `false`. -/
  | bool (value : Bool)
  /-- A number, as it is written. -/
  | number (digits : String)
  /-- A string, with its text unless half of a surrogate pair stands alone in it. -/
  | string (text : Option String)
  /-- An array. -/
  | array (items : List Json)
  /-- An object; a member's name is a string like any other. -/
  | object (members : List (Option String × Json))
deriving Repr

namespace Json

instance : Inhabited Json := ⟨null⟩

/-- A string with a text. -/
def ofString (text : String) : Json := .string (some text)

/-- A whole number. -/
def ofNat (n : Nat) : Json := .number (toString n)

/-- An object with members whose names have a text. -/
def ofMembers (members : List (String × Json)) : Json :=
  .object (members.map fun m => (some m.1, m.2))

end Json

end Appraisal
