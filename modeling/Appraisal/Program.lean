/-!
# Programs

A program is a tree of requests.  It either ends with a value or makes a request and goes on with
whatever the answer is.  Nothing in a program says who answers.  The same program can be run to its
end against one store, in turns with other programs, or against answers picked at will.

`run` is the first of these: it threads a state through an answering function.  `run_bind` says
that running two programs in a row is running the second one where the first one ended.
-/

namespace Appraisal

/-- A program that makes requests of type `C`, gets answers of type `R` and ends with a value. -/
inductive Program (C : Type) (R : C → Type) (α : Type) : Type
  /-- The end of the program. -/
  | pure (value : α)
  /-- A request, and what follows its answer. -/
  | call (request : C) (next : R request → Program C R α)

namespace Program

variable {C : Type} {R : C → Type} {α β γ : Type}

/-- One program after the other. -/
protected def bind : Program C R α → (α → Program C R β) → Program C R β
  | .pure a, f => f a
  | .call c next, f => .call c fun r => (next r).bind f

instance : Monad (Program C R) where
  pure := .pure
  bind := Program.bind

/-- A single request. -/
def ask (request : C) : Program C R (R request) := .call request .pure

/-- Runs a program with a function that answers requests and changes a state. -/
def run {σ : Type} (answer : (c : C) → σ → R c × σ) : Program C R α → σ → α × σ
  | .pure a, s => (a, s)
  | .call c next, s => run answer (next (answer c s).1) (answer c s).2

/-! ## Laws -/

@[simp] theorem pure_eq (a : α) : (.pure a : Program C R α) = pure a := rfl

@[simp] theorem pure_bind (a : α) (f : α → Program C R β) : (pure a >>= f) = f a := rfl

@[simp] theorem call_bind (c : C) (next : R c → Program C R α) (f : α → Program C R β) :
    (call c next >>= f) = call c fun r => next r >>= f := rfl

theorem bind_pure (p : Program C R α) : (p >>= pure) = p := by
  induction p with
  | pure a => rfl
  | call c next ih => exact congrArg (call c) (funext ih)

theorem bind_assoc (p : Program C R α) (f : α → Program C R β) (g : β → Program C R γ) :
    (p >>= f >>= g) = (p >>= fun a => f a >>= g) := by
  induction p with
  | pure a => rfl
  | call c next ih => exact congrArg (call c) (funext ih)

instance : LawfulMonad (Program C R) :=
  LawfulMonad.mk' _ bind_pure (fun _ _ => rfl) bind_assoc

@[simp] theorem run_pure {σ : Type} (answer : (c : C) → σ → R c × σ) (a : α) (s : σ) :
    run answer (pure a) s = (a, s) := rfl

theorem run_bind {σ : Type} (answer : (c : C) → σ → R c × σ) (p : Program C R α)
    (f : α → Program C R β) (s : σ) :
    run answer (p >>= f) s = run answer (f (run answer p s).1) (run answer p s).2 := by
  induction p generalizing s with
  | pure a => rfl
  | call c next ih => exact ih _ _

end Program

end Appraisal
