import Appraisal.Proofs.Program

/-!
# What becomes of a program

Three statements about a program whose answers are known in part.  `Program.Under` bounds its
requests and its value as long as the answers are as given.  `Program.Ends` says besides that it
ends, after so many requests at most.  `Program.Throughout` describes every request that it may
come to, with what follows it, whatever the answers before.

The first two have a rule for two programs in a row.
-/

namespace Appraisal.Program

variable {C : Type} {R : C → Type} {α β : Type}

/-- As long as the answers are as given, the program asks only for what is allowed, and it ends as
described. -/
def Under (may : (c : C) → R c → Prop) (allowed : C → Prop) (post : α → Prop) :
    Program C R α → Prop
  | .pure a => post a
  | .call c next => allowed c ∧ ∀ r, may c r → Under may allowed post (next r)

/-- As long as the answers are as given, the program ends as described after so many requests at
most. -/
def Ends (may : (c : C) → R c → Prop) (post : α → Prop) : Nat → Program C R α → Prop
  | _, .pure a => post a
  | 0, .call _ _ => False
  | k + 1, .call c next => ∀ r, may c r → Ends may post k (next r)

/-- Every request that the program may come to is as described, with what follows it. -/
def Throughout (holds : (c : C) → (R c → Program C R α) → Prop) : Program C R α → Prop
  | .pure _ => True
  | .call c next => holds c next ∧ ∀ r, Throughout holds (next r)

variable {may : (c : C) → R c → Prop} {allowed : C → Prop} {post : α → Prop} {after : β → Prop}
  {k m : Nat} {p : Program C R α} {f : α → Program C R β}

theorem Under.bind (h : p.Under may allowed post)
    (hf : ∀ a, post a → (f a).Under may allowed after) : (p >>= f).Under may allowed after := by
  induction p with
  | pure a => exact hf a h
  | call c next ih => exact ⟨h.1, fun r known => ih r (h.2 r known)⟩

theorem Under.mono {post' : α → Prop} (h : p.Under may allowed post)
    (weaker : ∀ a, post a → post' a) : p.Under may allowed post' := by
  induction p with
  | pure a => exact weaker a h
  | call c next ih => exact ⟨h.1, fun r known => ih r (h.2 r known)⟩

/-- What holds whatever the answers. -/
theorem Within.under (h : p.Within allowed post) : p.Under may allowed post := by
  induction p with
  | pure a => exact h
  | call c next ih => exact ⟨h.1, fun r _ => ih r (h.2 r)⟩

theorem ends_pure (a : α) : (pure a : Program C R α).Ends may post k ↔ post a := by
  cases k <;> rfl

theorem Ends.mono (h : p.Ends may post k) (le : k ≤ m) : p.Ends may post m := by
  induction p generalizing k m with
  | pure a => exact (ends_pure a).2 ((ends_pure a).1 h)
  | call c next ih =>
    cases k with
    | zero => exact h.elim
    | succ k =>
      obtain ⟨m, rfl⟩ : ∃ m', m = m' + 1 := ⟨m - 1, by omega⟩
      exact fun r known => ih r (h r known) (Nat.le_of_succ_le_succ le)

theorem Ends.next {c : C} {next : R c → Program C R α} (h : (call c next).Ends may post k) {r : R c}
    (known : may c r) : (next r).Ends may post (k - 1) := by
  cases k with
  | zero => exact h.elim
  | succ k => exact h r known

theorem Ends.bind (h : p.Ends may post k) (hf : ∀ a, post a → (f a).Ends may after m) :
    (p >>= f).Ends may after (k + m) := by
  induction p generalizing k with
  | pure a => exact (hf a ((ends_pure a).1 h)).mono (Nat.le_add_left _ _)
  | call c next ih =>
    cases k with
    | zero => exact h.elim
    | succ k =>
      rw [Nat.add_right_comm]
      exact fun r known => ih r (h r known)

/-- A program that has made all its requests has ended. -/
theorem Ends.pure_of_zero (h : p.Ends may post 0) : ∃ a, p = pure a ∧ post a := by
  cases p with
  | pure a => exact ⟨a, rfl, h⟩
  | call c next => exact h.elim

/-- Requests that are as described whatever follows them. -/
theorem Within.throughout {holds : (c : C) → (R c → Program C R α) → Prop}
    (h : p.Within (fun c => ∀ next, holds c next) post) : p.Throughout holds := by
  induction p with
  | pure a => trivial
  | call c next ih => exact ⟨h.1 _, fun r => ih r (h.2 r)⟩

end Appraisal.Program
