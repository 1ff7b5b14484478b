import Appraisal.Json
import Appraisal.Literal
import Appraisal.Identifier
import Appraisal.Time.Rfc3339

/-!
# JSON forms

A type with a form has one way to be written as a JSON value, and it reads back from that value.

A structure is written as an object with one member per field.  It reads from an object whose other
members are passed over, or from an array of its fields in order.  A named member must not come
twice.  A field that may be absent may be missing from an object but not from an array.  A field
with a default may be missing from either.

A value of a set of literals is written as its name, and reads from the name alone or from an
object whose one member has that name and holds `null`.
-/

namespace Appraisal

/-- A type whose values have a JSON form. -/
class Form (α : Type) where
  /-- The form of a value. -/
  toJson : α → Json
  /-- The value a form stands for. -/
  ofJson? : Json → Option α

export Form (toJson)

namespace Json

/-! ## Fields -/

/-- What a structure's form has at the place of one field. -/
inductive Slot
  /-- A value. -/
  | given (value : Json)
  /-- The object has no such member. -/
  | missing
  /-- The array ends before it. -/
  | beyond
deriving Inhabited

/-- The values of the members with a name. -/
def membersNamed (name : String) (members : List (Option String × Json)) : List Json :=
  (members.filter fun m => m.1 == some name).map Prod.snd

/-- What an object has for a field. -/
def memberSlot (members : List (Option String × Json)) (name : String) : Option Slot :=
  match membersNamed name members with
  | [] => some .missing
  | [value] => some (.given value)
  | _ :: _ :: _ => none

/-- What an array has for the fields, in order.  It must not have more items than fields. -/
def itemSlots : List String → List Json → Option (List Slot)
  | [], [] => some []
  | [], _ :: _ => none
  | _ :: names, item :: items => (itemSlots names items).map (.given item :: ·)
  | _ :: names, [] => (itemSlots names []).map (.beyond :: ·)

/-- What the form of a structure has for each of its fields. -/
def slots (names : List String) : Json → Option (List Slot)
  | .object members =>
    if members.any (·.1.isNone) then none else names.mapM (memberSlot members)
  | .array items => itemSlots names items
  | _ => none

/-- The value of a field that must be there. -/
def Slot.required? {α : Type} [Form α] : Slot → Option α
  | .given value => Form.ofJson? value
  | _ => none

/-- The value of a field that may be absent. -/
def Slot.optional? {α : Type} [Form α] : Slot → Option (Option α)
  | .given .null => some none
  | .given value => (Form.ofJson? value).map some
  | .missing => some none
  | .beyond => none

/-- The value of a field with a default. -/
def Slot.withDefault? {α : Type} [Form α] (default : α) : Slot → Option α
  | .given value => Form.ofJson? value
  | _ => some default

/-- The form of a value that may be absent. -/
def ofOption {α : Type} [Form α] : Option α → Json
  | some a => toJson a
  | none => .null

/-! ## Simple forms -/

instance : Form Bool where
  toJson := .bool
  ofJson?
    | .bool b => some b
    | _ => none

instance : Form String where
  toJson := .ofString
  ofJson?
    | .string text => text
    | _ => none

/-- The form of a list: an array. -/
def readAll {α : Type} [Form α] : List Json → Option (List α)
  | [] => some []
  | item :: items =>
    match Form.ofJson? item, readAll items with
    | some a, some as => some (a :: as)
    | _, _ => none

instance {α : Type} [Form α] : Form (List α) where
  toJson as := .array (as.map toJson)
  ofJson?
    | .array items => readAll items
    | _ => none

instance {entity : Entity} : Form (Id entity) where
  toJson id := .ofString id.text
  ofJson?
    | .string (some text) => Id.ofText? text
    | _ => none

instance : Form Instant where
  toJson t := .ofString (Rfc3339.text t)
  ofJson?
    | .string (some text) => Rfc3339.ofText? text
    | _ => none

/-- The value of a set of literals that a form names. -/
def readLiteral {α : Type} [Literal α] : Json → Option α
  | .string (some text) => Literal.ofText? text
  | .object [(some name, .null)] => Literal.ofText? name
  | _ => none

instance (priority := low) {α : Type} [Literal α] : Form α where
  toJson a := .ofString (Literal.text a)
  ofJson? := readLiteral

/-! ## Laws -/

theorem readAll_map {α : Type} [Form α] (h : ∀ a : α, Form.ofJson? (toJson a) = some a)
    (as : List α) : readAll (as.map toJson) = some as := by
  induction as with
  | nil => rfl
  | cons a as ih => simp [readAll, h, ih]

theorem readLiteral_text {α : Type} [Literal α] (a : α) :
    readLiteral (.ofString (Literal.text a)) = some a :=
  Literal.ofText?_text a

end Json

end Appraisal
