/-!
# Tables

A table holds at most one row per key and lists its rows in the order of their keys.  Keys are
compared by rank, a number that no two keys share.  The order is kept as a proof beside the rows,
so two tables with the same rows are equal.

`get?_insert` and `get?_erase` say what the two updates do to every look-up.  `ext` says that
equal look-ups make equal tables.  `mem_entries` ties the listed rows to the look-up.
-/

namespace Appraisal

/-- Keys with a rank of their own. -/
class Ranked (K : Type) where
  /-- The place of the key among all keys. -/
  rank : K → Nat
  /-- No two keys share a rank. -/
  rank_inj : ∀ {a b : K}, rank a = rank b → a = b

export Ranked (rank rank_inj)

/-- Rows by key, in the order of the keys. -/
structure Table (K V : Type) [Ranked K] where
  /-- The rows with their keys. -/
  entries : List (K × V)
  /-- The keys are in strictly increasing order. -/
  sorted : entries.Pairwise fun a b => rank a.1 < rank b.1

namespace Table

variable {K V : Type} [Ranked K]

/-! ## Operations -/

/-- The table without rows. -/
def empty : Table K V := ⟨[], .nil⟩

instance : EmptyCollection (Table K V) := ⟨empty⟩
instance : Inhabited (Table K V) := ⟨empty⟩

/-- The row of a key in a list of entries. -/
def lookup (k : K) : List (K × V) → Option V
  | [] => none
  | e :: es => if rank e.1 = rank k then some e.2 else lookup k es

/-- The row of a key. -/
def get? (t : Table K V) (k : K) : Option V := lookup k t.entries

/-- The key has a row. -/
def contains (t : Table K V) (k : K) : Bool := (t.get? k).isSome

/-- Entries with a row put in its place, instead of the row its key had. -/
def insertEntry (k : K) (v : V) : List (K × V) → List (K × V)
  | [] => [(k, v)]
  | e :: es =>
    if rank k < rank e.1 then (k, v) :: e :: es
    else if rank k = rank e.1 then (k, v) :: es
    else e :: insertEntry k v es

/-- Entries without the row of a key. -/
def eraseEntry (k : K) : List (K × V) → List (K × V)
  | [] => []
  | e :: es => if rank e.1 = rank k then es else e :: eraseEntry k es

theorem mem_insertEntry {k : K} {v : V} {es : List (K × V)} {e : K × V}
    (h : e ∈ insertEntry k v es) : e = (k, v) ∨ e ∈ es := by
  induction es with
  | nil => simpa [insertEntry] using h
  | cons d ds ih =>
    unfold insertEntry at h
    split at h
    · simpa using h
    · split at h
      · rcases List.mem_cons.1 h with h | h
        · exact .inl h
        · exact .inr (List.mem_cons_of_mem _ h)
      · rcases List.mem_cons.1 h with h | h
        · exact .inr (h ▸ List.mem_cons_self)
        · exact (ih h).imp id (List.mem_cons_of_mem _)

theorem mem_of_mem_eraseEntry {k : K} {es : List (K × V)} {e : K × V}
    (h : e ∈ eraseEntry k es) : e ∈ es := by
  induction es with
  | nil => exact h
  | cons d ds ih =>
    unfold eraseEntry at h
    split at h
    · exact List.mem_cons_of_mem _ h
    · rcases List.mem_cons.1 h with h | h
      · exact h ▸ List.mem_cons_self
      · exact List.mem_cons_of_mem _ (ih h)

theorem sorted_insertEntry {k : K} {v : V} {es : List (K × V)}
    (h : es.Pairwise fun a b => rank a.1 < rank b.1) :
    (insertEntry k v es).Pairwise fun a b => rank a.1 < rank b.1 := by
  induction es with
  | nil => simp [insertEntry]
  | cons d ds ih =>
    obtain ⟨hd, hds⟩ := List.pairwise_cons.1 h
    unfold insertEntry
    split
    · refine List.pairwise_cons.2 ⟨fun e he => ?_, h⟩
      rcases List.mem_cons.1 he with rfl | he
      · assumption
      · exact Nat.lt_trans ‹_› (hd e he)
    · split
      · refine List.pairwise_cons.2 ⟨fun e he => ?_, hds⟩
        have := hd e he
        simp_all
      · refine List.pairwise_cons.2 ⟨fun e he => ?_, ih hds⟩
        rcases mem_insertEntry he with rfl | he
        · simp only
          omega
        · exact hd e he

theorem sorted_eraseEntry {k : K} {es : List (K × V)}
    (h : es.Pairwise fun a b => rank a.1 < rank b.1) :
    (eraseEntry k es).Pairwise fun a b => rank a.1 < rank b.1 := by
  induction es with
  | nil => exact h
  | cons d ds ih =>
    obtain ⟨hd, hds⟩ := List.pairwise_cons.1 h
    unfold eraseEntry
    split
    · exact hds
    · exact List.pairwise_cons.2 ⟨fun e he => hd e (mem_of_mem_eraseEntry he), ih hds⟩

/-- The table with a row put in, instead of the row its key had. -/
def insert (t : Table K V) (k : K) (v : V) : Table K V :=
  ⟨insertEntry k v t.entries, sorted_insertEntry t.sorted⟩

/-- The table without the row of a key. -/
def erase (t : Table K V) (k : K) : Table K V :=
  ⟨eraseEntry k t.entries, sorted_eraseEntry t.sorted⟩

/-- The rows in the order of their keys. -/
def values (t : Table K V) : List V := t.entries.map Prod.snd

/-- The keys that have a row, in order. -/
def keys (t : Table K V) : List K := t.entries.map Prod.fst

/-! ## Equality -/

theorem entries_inj {t u : Table K V} (h : t.entries = u.entries) : t = u := by
  cases t; cases u; cases h; rfl

instance [DecidableEq K] [DecidableEq V] : DecidableEq (Table K V) := fun t u =>
  decidable_of_iff (t.entries = u.entries) ⟨entries_inj, fun h => h ▸ rfl⟩

/-! ## Look-ups after an update -/

theorem lookup_eq_none_of_lt {k : K} {es : List (K × V)} (h : ∀ e ∈ es, rank k < rank e.1) :
    lookup k es = none := by
  induction es with
  | nil => rfl
  | cons e es ih =>
    have := h e List.mem_cons_self
    rw [lookup, if_neg (by omega), ih fun e' he => h e' (List.mem_cons_of_mem _ he)]

@[simp] theorem get?_empty (k : K) : (empty : Table K V).get? k = none := rfl

theorem lookup_insertEntry {k k' : K} {v : V} {es : List (K × V)} :
    lookup k' (insertEntry k v es) = if rank k = rank k' then some v else lookup k' es := by
  induction es with
  | nil => simp [insertEntry, lookup]
  | cons e es ih =>
    unfold insertEntry
    split
    · simp [lookup]
    · split
      · simp only [lookup]
        split <;> simp_all
      · simp only [lookup, ih]
        split <;> split <;> simp_all

theorem get?_insert (t : Table K V) (k k' : K) (v : V) :
    (t.insert k v).get? k' = if rank k = rank k' then some v else t.get? k' :=
  lookup_insertEntry

@[simp] theorem get?_insert_self (t : Table K V) (k : K) (v : V) :
    (t.insert k v).get? k = some v := by
  simp [get?_insert]

theorem get?_insert_of_ne (t : Table K V) {k k' : K} (v : V) (h : k ≠ k') :
    (t.insert k v).get? k' = t.get? k' := by
  rw [get?_insert, if_neg fun e => h (rank_inj e)]

theorem lookup_eraseEntry {k k' : K} {es : List (K × V)}
    (h : es.Pairwise fun a b => rank a.1 < rank b.1) :
    lookup k' (eraseEntry k es) = if rank k = rank k' then none else lookup k' es := by
  induction es with
  | nil => simp [eraseEntry, lookup]
  | cons e es ih =>
    obtain ⟨he, hes⟩ := List.pairwise_cons.1 h
    unfold eraseEntry
    split
    · rename_i hk
      by_cases hkk : rank k = rank k'
      · rw [if_pos hkk]
        exact lookup_eq_none_of_lt fun d hd => by have := he d hd; omega
      · rw [if_neg hkk, lookup, if_neg (by omega)]
    · simp only [lookup, ih hes]
      grind

theorem get?_erase (t : Table K V) (k k' : K) :
    (t.erase k).get? k' = if rank k = rank k' then none else t.get? k' :=
  lookup_eraseEntry t.sorted

/-! ## Rows and look-ups -/

theorem lookup_eq_some_iff {k : K} {v : V} {es : List (K × V)}
    (h : es.Pairwise fun a b => rank a.1 < rank b.1) :
    lookup k es = some v ↔ (k, v) ∈ es := by
  induction es with
  | nil => simp [lookup]
  | cons e es ih =>
    obtain ⟨he, hes⟩ := List.pairwise_cons.1 h
    obtain ⟨ke, ve⟩ := e
    rw [lookup, List.mem_cons]
    split
    · rename_i hk
      cases rank_inj hk
      constructor
      · intro h
        exact .inl (by simp_all)
      · rintro (h | h)
        · simp_all
        · exact absurd (he _ h) (Nat.lt_irrefl _)
    · rename_i hk
      rw [ih hes]
      constructor
      · exact .inr
      · rintro (h | h)
        · cases h
          exact absurd rfl hk
        · exact h

theorem mem_entries (t : Table K V) {k : K} {v : V} : (k, v) ∈ t.entries ↔ t.get? k = some v :=
  (lookup_eq_some_iff t.sorted).symm

theorem mem_values (t : Table K V) {v : V} : v ∈ t.values ↔ ∃ k, t.get? k = some v := by
  simp only [values, List.mem_map, Prod.exists]
  constructor
  · rintro ⟨k, w, hm, rfl⟩
    exact ⟨k, (mem_entries t).1 hm⟩
  · rintro ⟨k, hk⟩
    exact ⟨k, v, (mem_entries t).2 hk, rfl⟩

/-- Putting a row in counts it instead of the row its key had. -/
theorem countP_insertEntry (p : V → Bool) {k : K} {v : V} {es : List (K × V)}
    (h : es.Pairwise fun a b => rank a.1 < rank b.1) :
    ((insertEntry k v es).map Prod.snd).countP p + (if (lookup k es).any p then 1 else 0) =
      (es.map Prod.snd).countP p + if p v then 1 else 0 := by
  induction es with
  | nil => simp [insertEntry, lookup, List.countP_cons]
  | cons e es ih =>
    obtain ⟨he, hes⟩ := List.pairwise_cons.1 h
    unfold insertEntry
    split
    · rename_i before
      have none : lookup k (e :: es) = none := lookup_eq_none_of_lt fun d hd => by
        rcases List.mem_cons.1 hd with rfl | hd
        · exact before
        · exact Nat.lt_trans before (he d hd)
      simp [none, List.countP_cons]
    · split
      · rename_i same
        simp only [lookup, if_pos same.symm, List.map_cons, List.countP_cons, Option.any_some]
        omega
      · rename_i other
        have later := ih hes
        simp only [lookup, if_neg (Ne.symm other), List.map_cons, List.countP_cons]
        omega

theorem countP_values_insert (p : V → Bool) (t : Table K V) (k : K) (v : V) :
    (t.insert k v).values.countP p + (if (t.get? k).any p then 1 else 0) =
      t.values.countP p + if p v then 1 else 0 :=
  countP_insertEntry p t.sorted

theorem entries_eq_of_lookup {es ds : List (K × V)}
    (he : es.Pairwise fun a b => rank a.1 < rank b.1)
    (hd : ds.Pairwise fun a b => rank a.1 < rank b.1)
    (h : ∀ k, lookup k es = lookup k ds) : es = ds := by
  induction es generalizing ds with
  | nil =>
    cases ds with
    | nil => rfl
    | cons d ds => simpa [lookup] using h d.1
  | cons e es ih =>
    cases ds with
    | nil => simpa [lookup] using h e.1
    | cons d ds =>
      obtain ⟨hes, hes'⟩ := List.pairwise_cons.1 he
      obtain ⟨hds, hds'⟩ := List.pairwise_cons.1 hd
      obtain ⟨ke, ve⟩ := e
      obtain ⟨kd, vd⟩ := d
      have head : rank ke = rank kd := by
        rcases Nat.lt_trichotomy (rank ke) (rank kd) with hlt | heq | hgt
        · have h1 := h ke
          rw [lookup, if_pos rfl, lookup, if_neg (by simp only; omega),
            lookup_eq_none_of_lt fun d hd => Nat.lt_trans hlt (hds d hd)] at h1
          cases h1
        · exact heq
        · have h1 := h kd
          rw [lookup, if_neg (by simp only; omega), lookup, if_pos rfl,
            lookup_eq_none_of_lt fun d hd => Nat.lt_trans hgt (hes d hd)] at h1
          cases h1
      cases rank_inj head
      have hv : ve = vd := by simpa [lookup] using h ke
      subst hv
      congr 1
      refine ih hes' hds' fun k => ?_
      by_cases hk : rank ke = rank k
      · rw [lookup_eq_none_of_lt fun d hd => by have := hes d hd; simp only at this; omega,
          lookup_eq_none_of_lt fun d hd => by have := hds d hd; simp only at this; omega]
      · simpa [lookup, hk] using h k

/-- Tables that answer every look-up alike are equal. -/
theorem ext {t u : Table K V} (h : ∀ k, t.get? k = u.get? k) : t = u :=
  entries_inj (entries_eq_of_lookup t.sorted u.sorted h)

end Table

end Appraisal
