import Appraisal.Proofs.Program

/-!
# Runs against any answers

A run of a program lists its requests, each with the answer that it got.  Nothing is assumed of the
answers, so what holds of all runs holds whatever the program is run against.

The runs of two programs in a row are the runs of the first, each followed by one of the second
(`runs_bind_iff`).  A run cannot end inside of another one: if two runs agree as long as both go on,
they are the same (`Runs.eq_of_append`).  Whoever answers the requests, every program has a run
(`runs_record`).
-/

namespace Appraisal.Program

variable {C : Type} {R : C → Type} {α β : Type}

/-- A request with its answer. -/
structure Answered (R : C → Type) where
  request : C
  answer : R request

/-- The program may run to its end with these answers, and with this value. -/
inductive Runs : Program C R α → List (Answered R) → α → Prop
  | done (a : α) : Runs (.pure a) [] a
  | ask {request : C} {next : R request → Program C R α} {trace : List (Answered R)} {a : α}
    (answer : R request) (rest : Runs (next answer) trace a) :
    Runs (.call request next) (⟨request, answer⟩ :: trace) a

variable {p : Program C R α} {f : α → Program C R β} {trace trace' : List (Answered R)} {a b : α}

@[simp] theorem runs_pure_iff : (pure a : Program C R α).Runs trace b ↔ trace = [] ∧ b = a := by
  constructor
  · intro ran
    cases ran
    exact ⟨rfl, rfl⟩
  · rintro ⟨rfl, rfl⟩
    exact .done _

theorem runs_call_iff {request : C} {next : R request → Program C R α} :
    (call request next).Runs trace a ↔
      ∃ answer rest, trace = ⟨request, answer⟩ :: rest ∧ (next answer).Runs rest a := by
  constructor
  · intro ran
    cases ran with
    | ask answer rest => exact ⟨answer, _, rfl, rest⟩
  · rintro ⟨answer, rest, rfl, ran⟩
    exact .ask answer ran

/-- A single request, and what follows its answer. -/
theorem runs_ask_bind_iff {request : C} {f : R request → Program C R β} {b : β} :
    ((call request .pure : Program C R (R request)) >>= f).Runs trace b ↔
      ∃ answer rest, trace = ⟨request, answer⟩ :: rest ∧ (f answer).Runs rest b :=
  runs_call_iff

theorem runs_bind_iff {b : β} :
    (p >>= f).Runs trace b ↔
      ∃ first a second, trace = first ++ second ∧ p.Runs first a ∧ (f a).Runs second b := by
  constructor
  · intro ran
    induction p generalizing trace with
    | pure a => exact ⟨[], a, trace, rfl, .done a, ran⟩
    | call request next ih =>
      obtain ⟨answer, rest, rfl, go⟩ := runs_call_iff.1 ran
      obtain ⟨first, a, second, rfl, left, right⟩ := ih answer go
      exact ⟨_ :: first, a, second, rfl, .ask answer left, right⟩
  · rintro ⟨first, a, second, rfl, left, right⟩
    induction left with
    | done a => exact right
    | ask answer rest ih => exact .ask answer (ih right)

theorem Runs.eq_of_append {more more' : List (Answered R)} (ran : p.Runs trace a)
    (ran' : p.Runs trace' b) (same : trace ++ more = trace' ++ more') : trace = trace' ∧ a = b := by
  induction ran generalizing trace' with
  | done a =>
    cases ran'
    exact ⟨rfl, rfl⟩
  | ask answer rest ih =>
    obtain ⟨answer', rest', rfl, go⟩ := runs_call_iff.1 ran'
    obtain ⟨head, tail⟩ := List.cons.inj same
    cases head
    obtain ⟨rfl, rfl⟩ := ih go tail
    exact ⟨rfl, rfl⟩

/-- What bounds a program bounds its runs. -/
theorem Within.of_runs {allowed : C → Prop} {post : α → Prop} (h : p.Within allowed post)
    (ran : p.Runs trace a) : (∀ asked ∈ trace, allowed asked.request) ∧ post a := by
  induction ran with
  | done a => exact ⟨fun _ mem => absurd mem List.not_mem_nil, h⟩
  | ask answer rest ih =>
    obtain ⟨all, last⟩ := ih (h.2 answer)
    exact ⟨fun asked mem => (List.mem_cons.1 mem).elim (· ▸ h.1) (all asked), last⟩

/-! ## Runs against a given outside -/

/-- The run of a program against a function that answers requests and changes a state. -/
def record {σ : Type} (answer : (c : C) → σ → R c × σ) :
    Program C R α → σ → List (Answered R) × α
  | .pure a, _ => ([], a)
  | .call c next, s =>
    let later := record answer (next (answer c s).1) (answer c s).2
    (⟨c, (answer c s).1⟩ :: later.1, later.2)

theorem runs_record {σ : Type} (answer : (c : C) → σ → R c × σ) (p : Program C R α) (s : σ) :
    p.Runs (record answer p s).1 (record answer p s).2 := by
  induction p generalizing s with
  | pure a => exact .done a
  | call c next ih => exact .ask _ (ih _ _)

/-- What is recorded is the run. -/
theorem record_value {σ : Type} (answer : (c : C) → σ → R c × σ) (p : Program C R α) (s : σ) :
    (record answer p s).2 = (run answer p s).1 := by
  induction p generalizing s with
  | pure a => rfl
  | call c next ih => exact ih _ _

/-- The requests that a run makes, in this order. -/
def asked {σ : Type} (answer : (c : C) → σ → R c × σ) (p : Program C R α) (s : σ) : List C :=
  (record answer p s).1.map Answered.request

section

variable {σ : Type} {answer : (c : C) → σ → R c × σ}

theorem asked_bind (p : Program C R α) (f : α → Program C R β) (s : σ) :
    asked answer (p >>= f) s =
      asked answer p s ++ asked answer (f (run answer p s).1) (run answer p s).2 := by
  induction p generalizing s with
  | pure a => rfl
  | call c next ih => exact congrArg (c :: ·) (ih _ _)

/-- A run makes only requests that the program may make. -/
theorem Within.of_mem_asked {allowed : C → Prop} {post : α → Prop} {p : Program C R α}
    (h : p.Within allowed post) {s : σ} {c : C} (mem : c ∈ asked answer p s) : allowed c := by
  obtain ⟨made, recorded, rfl⟩ := List.mem_map.1 mem
  exact (h.of_runs (runs_record answer p s)).1 made recorded

theorem Emits.filterMap_asked {X : Type} {f : C → Option X} {p : Program C R α} {xs : List X}
    (h : p.Emits f xs) (s : σ) : (asked answer p s).filterMap f = xs := by
  induction p generalizing s xs with
  | pure a => exact h.symm
  | call c next ih =>
    obtain ⟨ys, rfl, later⟩ := h
    have rest := ih (answer c s).1 (later _) (answer c s).2
    show (c :: asked answer (next (answer c s).1) (answer c s).2).filterMap f = _
    rw [List.filterMap_cons, rest]
    cases f c <;> rfl

end

end Appraisal.Program
