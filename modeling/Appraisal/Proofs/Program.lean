import Appraisal.Program

/-!
# What programs may do

Four statements about a program before anybody answers its requests.  `Program.Within` bounds the
requests that it makes and the values that it ends with, whatever the answers.  `Program.Obeys`
bounds them by a state that the answers change.  `Program.Path` follows it along some requests to
what is left of it.  `Program.Emits` says that those of its requests that matter are the same on
every path to its end (`Emits.of_path`).
-/

namespace Appraisal.Program

variable {C : Type} {R : C → Type} {α β : Type}

/-- Whatever the answers, the program makes only requests that are allowed, and it ends only with
values as described. -/
def Within (allowed : C → Prop) (post : α → Prop) : Program C R α → Prop
  | .pure a => post a
  | .call c next => allowed c ∧ ∀ r, Within allowed post (next r)

/-- What may be asked for in a state, and how an answer changes the state. -/
structure Rules (R : C → Type) (S : Type) where
  allows : S → C → Prop
  next : S → (request : C) → R request → S

/-- Whatever the answers, the program keeps to the rules, and it ends as described. -/
def Obeys {S : Type} (rules : Rules R S) (post : α → S → Prop) : Program C R α → S → Prop
  | .pure a, s => post a s
  | .call c next, s => rules.allows s c ∧ ∀ r, Obeys rules post (next r) (rules.next s c r)

/-- The program makes some requests and is then left as another program. -/
inductive Path (p : Program C R α) : List C → Program C R α → Prop
  /-- It has not made any request. -/
  | refl : Path p [] p
  /-- It gets an answer to one more request. -/
  | snoc {made : List C} {c : C} {next : R c → Program C R α} (path : Path p made (.call c next))
    (r : R c) : Path p (made ++ [c]) (next r)

/-- What some requests stand for is the same list on every path of the program to its end. -/
def Emits {X : Type} (f : C → Option X) : Program C R α → List X → Prop
  | .pure _, xs => xs = []
  | .call c next, xs => ∃ ys, xs = (f c).toList ++ ys ∧ ∀ r, Emits f (next r) ys

/-- The value that the program ends with, once it makes no more requests. -/
def value? : Program C R α → Option α
  | .pure a => some a
  | .call _ _ => none

theorem eq_pure_of_isSome {p : Program C R α} (h : p.value?.isSome) : ∃ a, p = pure a := by
  cases p with
  | pure a => exact ⟨a, rfl⟩
  | call c next => cases h

/-- Running programs in a row, by where the first one ends. -/
theorem run_bind_eq_iff {σ : Type} {answer : (c : C) → σ → R c × σ} {p : Program C R α}
    {f : α → Program C R β} {b : β} {s s' : σ} :
    (p >>= f).run answer s = (b, s') ↔
      ∃ a t, p.run answer s = (a, t) ∧ (f a).run answer t = (b, s') := by
  rw [run_bind]
  constructor
  · exact fun ran => ⟨_, _, rfl, ran⟩
  · rintro ⟨a, t, first, second⟩
    rw [first]
    exact second

variable {allowed allowed' : C → Prop} {post post' : α → Prop}

theorem Within.mono {p : Program C R α} (h : p.Within allowed post)
    (hc : ∀ c, allowed c → allowed' c) (ha : ∀ a, post a → post' a) : p.Within allowed' post' := by
  induction p with
  | pure a => exact ha a h
  | call c next ih => exact ⟨hc c h.1, fun r => ih r (h.2 r)⟩

theorem Within.and {p : Program C R α} (h : p.Within allowed post)
    (h' : p.Within allowed' post') : p.Within allowed fun a => post a ∧ post' a := by
  induction p with
  | pure a => exact ⟨h, h'⟩
  | call c next ih => exact ⟨h.1, fun r => ih r (h.2 r) (h'.2 r)⟩

theorem Within.bind {p : Program C R α} {f : α → Program C R β} {after : β → Prop}
    (h : p.Within allowed post) (hf : ∀ a, post a → (f a).Within allowed after) :
    (p >>= f).Within allowed after := by
  induction p with
  | pure a => exact hf a h
  | call c next ih => exact ⟨h.1, fun r => ih r (h.2 r)⟩

theorem Within.any (p : Program C R α) : p.Within (fun _ => True) fun _ => True := by
  induction p with
  | pure a => trivial
  | call c next ih => exact ⟨trivial, ih⟩

/-- The value at the end of a path. -/
theorem Within.of_path {p : Program C R α} {made : List C} {a : α} (h : p.Within allowed post)
    (path : p.Path made (pure a)) : post a := by
  have left : ∀ {made q}, p.Path made q → q.Within allowed post := by
    intro made q path
    induction path with
    | refl => exact h
    | snoc path r ih => exact ih.2 r
  exact left path

/-- The value that a run ends with. -/
theorem Within.of_run {σ : Type} {answer : (c : C) → σ → R c × σ} {p : Program C R α} {a : α}
    {s s' : σ} (h : p.Within allowed post) (ran : p.run answer s = (a, s')) : post a := by
  induction p generalizing s with
  | pure b =>
    cases ran
    exact h
  | call c next ih => exact ih _ (h.2 _) ran

theorem Obeys.bind {S : Type} {rules : Rules R S} {s : S} {post : α → S → Prop}
    {after : β → S → Prop} {p : Program C R α} {f : α → Program C R β} (h : p.Obeys rules post s)
    (hf : ∀ a s, post a s → (f a).Obeys rules after s) : (p >>= f).Obeys rules after s := by
  induction p generalizing s with
  | pure a => exact hf a s h
  | call c next ih => exact ⟨h.1, fun r => ih r (h.2 r)⟩

namespace Emits

variable {X : Type} {f : C → Option X} {xs ys : List X}

theorem bind {p : Program C R α} {g : α → Program C R β} (h : p.Emits f xs)
    (hg : ∀ a, (g a).Emits f ys) : (p >>= g).Emits f (xs ++ ys) := by
  induction p generalizing xs with
  | pure a =>
    obtain rfl : xs = [] := h
    exact hg a
  | call c next ih =>
    obtain ⟨zs, rfl, later⟩ := h
    refine ⟨zs ++ ys, List.append_assoc _ _ _, fun r => ih r (later r)⟩

theorem bind_nil {p : Program C R α} {g : α → Program C R β} (h : p.Emits f xs)
    (hg : ∀ a, (g a).Emits f []) : (p >>= g).Emits f xs := by
  have both := h.bind hg
  rwa [List.append_nil] at both

/-- A program none of whose requests matters. -/
theorem of_within {p : Program C R α} (h : p.Within (fun c => f c = none) post) :
    p.Emits f [] := by
  induction p with
  | pure a => rfl
  | call c next ih => exact ⟨[], by rw [h.1]; rfl, fun r => ih r (h.2 r)⟩

/-- The requests on a path to the end. -/
theorem of_path {p : Program C R α} {made : List C} {a : α} (h : p.Emits f xs)
    (path : p.Path made (pure a)) : made.filterMap f = xs := by
  have left : ∀ {made q}, p.Path made q → ∃ ys, xs = made.filterMap f ++ ys ∧ q.Emits f ys := by
    intro made q path
    induction path with
    | refl => exact ⟨xs, rfl, h⟩
    | @snoc made c next path r ih =>
      obtain ⟨ys, rfl, zs, rfl, later⟩ := ih
      refine ⟨zs, ?_, later r⟩
      rw [List.filterMap_append, List.append_assoc]
      cases hc : f c <;> simp [hc]
  obtain ⟨ys, same, none⟩ := left path
  obtain rfl : ys = [] := none
  rw [same, List.append_nil]

end Emits

end Appraisal.Program
