import Appraisal.Text.Quoted

/-!
# Literals

A literal names one value of a small closed set, on the wire and in a column.  A set of literals
lists its values and their names.  `read_text` says that a written literal reads back, and
`read_eq_ok_iff` that nothing else reads.
-/

namespace Appraisal

/-- A text that names no value of the expected set. -/
structure InvalidLiteral where
  /-- What the text should have named. -/
  field : String
  /-- The text. -/
  value : String
deriving DecidableEq, Repr

/-- The message of an unknown literal. -/
def InvalidLiteral.message (e : InvalidLiteral) : String :=
  s!"Invalid {e.field} literal: {Text.quoted e.value}"

/-- A closed set of named values. -/
class Literal (α : Type) where
  /-- What the values are, as messages call it. -/
  field : String
  /-- Every value. -/
  all : List α
  /-- The name of a value. -/
  text : α → String
  /-- The list leaves no value out. -/
  mem_all : ∀ a : α, a ∈ all
  /-- No two values share a name. -/
  text_inj : ∀ {a b : α}, text a = text b → a = b

namespace Literal

variable {α : Type} [Literal α]

/-- The value a text names. -/
def ofText? (text : String) : Option α := all.find? fun a => Literal.text a == text

/-- The value a text names, or the error that it names none. -/
def read (text : String) : Except InvalidLiteral α :=
  match ofText? (α := α) text with
  | some a => .ok a
  | none => .error ⟨field α, text⟩

theorem ofText?_eq_some_iff {s : String} {a : α} : ofText? s = some a ↔ s = text a := by
  constructor
  · intro h
    have := List.find?_some (p := fun a => text a == s) h
    exact (beq_iff_eq.1 this).symm
  · rintro rfl
    have hsome : (ofText? (α := α) (text a)).isSome := by
      rw [ofText?, List.find?_isSome]
      exact ⟨a, mem_all a, beq_self_eq_true _⟩
    obtain ⟨b, hb⟩ := Option.isSome_iff_exists.1 hsome
    have := List.find?_some (p := fun b => text b == text a) hb
    rw [hb, text_inj (beq_iff_eq.1 this)]

@[simp] theorem ofText?_text (a : α) : ofText? (text a) = some a := ofText?_eq_some_iff.2 rfl

@[simp] theorem read_text (a : α) : read (text a) = .ok a := by
  rw [read, ofText?_text]

theorem read_eq_ok_iff {s : String} {a : α} : read s = .ok a ↔ s = text a := by
  rw [← ofText?_eq_some_iff, read]
  split <;> simp_all

end Literal

end Appraisal
