import Mathlib.Data.List.Perm.Basic
import Appraisal.Table

/-!
# Tables whose rows say their keys

A row of the store holds its own key.  The rows of such a table that have a key are therefore the
row that is looked up under it, if there is one (`Keyed.filter_values`), and the rows are in strict
order (`Keyed.sorted_values`).

Putting a row in adds it if its key is free (`values_insert_of_free`).  Otherwise it takes the place
of the row that its key had, and the others stay where they are (`Keyed.values_insert_of_held`).
-/

namespace Appraisal.Table

variable {K V W : Type} [Ranked K]

/-- Every row stands under the key that it says. -/
def Keyed (key : V → K) (t : Table K V) : Prop := ∀ k v, t.get? k = some v → key v = k

variable {key : V → K} {t : Table K V} {k : K} {v old : V}

theorem Keyed.entries (keyed : t.Keyed key) : ∀ e ∈ t.entries, key e.2 = e.1 :=
  fun e stands => keyed e.1 e.2 ((mem_entries t).1 stands)

/-- No two rows say one key. -/
theorem Keyed.eq_of_key (keyed : t.Keyed key) (first : v ∈ t.values) (second : old ∈ t.values)
    (same : key v = key old) : v = old := by
  obtain ⟨k, found⟩ := (mem_values t).1 first
  obtain ⟨k', found'⟩ := (mem_values t).1 second
  obtain rfl : k = k' := (keyed k v found).symm.trans (same.trans (keyed k' old found'))
  exact Option.some.inj (found.symm.trans found')

/-- The rows are in the order of their keys. -/
theorem Keyed.sorted_values (keyed : t.Keyed key) :
    t.values.Pairwise fun a b => rank (key a) < rank (key b) := by
  rw [values, List.pairwise_map]
  refine t.sorted.imp_of_mem fun {a b} first second before => ?_
  rwa [keyed.entries a first, keyed.entries b second]

/-- A list in strict order repeats nothing. -/
theorem nodup_of_sorted {vs : List V}
    (sorted : vs.Pairwise fun a b => rank (key a) < rank (key b)) : vs.Nodup :=
  sorted.imp fun before same => by
    rw [same] at before
    exact Nat.lt_irrefl _ before

/-! ## The row of a key -/

theorem filter_lookup [DecidableEq K] {es : List (K × V)}
    (sorted : es.Pairwise fun a b => rank a.1 < rank b.1) (keyed : ∀ e ∈ es, key e.2 = e.1)
    (k : K) : (es.map Prod.snd).filter (fun v => key v = k) = (lookup k es).toList := by
  induction es with
  | nil => rfl
  | cons e es ih =>
    obtain ⟨first, sorted⟩ := List.pairwise_cons.1 sorted
    obtain ⟨head, keyed⟩ := List.forall_mem_cons.1 keyed
    have later := ih sorted keyed
    rw [List.map_cons, List.filter_cons, head, later, lookup]
    by_cases same : e.1 = k
    · rw [if_pos (decide_eq_true same), if_pos (by rw [same]),
        lookup_eq_none_of_lt fun d stands => by rw [← same]; exact first d stands]
      rfl
    · rw [if_neg (by simpa using same), if_neg fun e => same (rank_inj e)]

theorem Keyed.filter_values [DecidableEq K] (keyed : t.Keyed key) (k : K) :
    t.values.filter (fun v => key v = k) = (t.get? k).toList :=
  filter_lookup t.sorted keyed.entries k

/-! ## Putting a row in -/

theorem perm_insertEntry {es : List (K × V)} (free : lookup k es = none) :
    (insertEntry k v es).Perm ((k, v) :: es) := by
  induction es with
  | nil => exact .refl _
  | cons e es ih =>
    rw [lookup] at free
    unfold insertEntry
    split at free
    · cases free
    · rename_i other
      split
      · exact .refl _
      · rw [if_neg (Ne.symm other)]
        exact ((ih free).cons e).trans (.swap _ _ es)

/-- A new row is added. -/
theorem values_insert_of_free (free : t.get? k = none) (v : V) :
    (t.insert k v).values.Perm (v :: t.values) :=
  (perm_insertEntry free).map Prod.snd

theorem map_insertEntry [DecidableEq K] {es : List (K × V)}
    (sorted : es.Pairwise fun a b => rank a.1 < rank b.1) (keyed : ∀ e ∈ es, key e.2 = e.1)
    (held : lookup k es = some old) (v : V) :
    (insertEntry k v es).map Prod.snd =
      (es.map Prod.snd).map fun w => if key w = k then v else w := by
  induction es with
  | nil => cases held
  | cons e es ih =>
    obtain ⟨first, sorted⟩ := List.pairwise_cons.1 sorted
    obtain ⟨head, keyed⟩ := List.forall_mem_cons.1 keyed
    have stays : ∀ w ∈ es.map Prod.snd, rank e.1 < rank (key w) := by
      intro w listed
      obtain ⟨d, stands, rfl⟩ := List.mem_map.1 listed
      rw [keyed d stands]
      exact first d stands
    rw [lookup] at held
    simp only [insertEntry, List.map_cons, head]
    split at held
    · rename_i same
      have rest : (es.map Prod.snd).map (fun w => if key w = k then v else w) =
          es.map Prod.snd := by
        refine List.map_congr_left (g := id) (fun w listed => if_neg fun at_ => ?_) |>.trans
          (List.map_id _)
        have := stays w listed
        rw [at_] at this
        omega
      rw [if_neg (by omega), if_pos same.symm, if_pos (rank_inj same), rest, List.map_cons]
    · rename_i other
      have after : ¬ rank k < rank e.1 := by
        intro before
        rw [lookup_eq_none_of_lt fun d stands => Nat.lt_trans before (first d stands)] at held
        cases held
      rw [if_neg after, if_neg (Ne.symm other), if_neg fun same => other (by rw [same]),
        List.map_cons, ih sorted keyed held]

/-- A row that is put in takes the place of the one that its key had. -/
theorem Keyed.values_insert_of_held [DecidableEq K] (keyed : t.Keyed key)
    (held : t.get? k = some old) (v : V) :
    (t.insert k v).values = t.values.map fun w => if key w = k then v else w :=
  map_insertEntry t.sorted keyed.entries held v

/-! ## Changing every row -/

/-- The table with every row changed. -/
def map (f : V → W) (t : Table K V) : Table K W :=
  ⟨t.entries.map fun e => (e.1, f e.2), List.pairwise_map.2 t.sorted⟩

@[simp] theorem values_map (f : V → W) (t : Table K V) : (t.map f).values = t.values.map f := by
  simp [values, map, Function.comp_def]

@[simp] theorem get?_map (f : V → W) (t : Table K V) (k : K) :
    (t.map f).get? k = (t.get? k).map f := by
  show lookup k (t.entries.map fun e => (e.1, f e.2)) = (lookup k t.entries).map f
  induction t.entries with
  | nil => rfl
  | cons e es ih =>
    simp only [List.map_cons, lookup]
    split
    · rfl
    · exact ih

/-- A row is put in, and every row is changed.  The others may have been changed before. -/
theorem map_insert {f g : V → W} {t : Table K V} {k : K}
    (same : ∀ k' v, k' ≠ k → t.get? k' = some v → g v = f v) (v : V) :
    (t.insert k v).map g = (t.map f).insert k (g v) := by
  refine ext fun k' => ?_
  rw [get?_map, get?_insert, get?_insert, get?_map]
  split
  · rfl
  · rename_i other
    exact Option.map_congr fun w held => same k' w (fun own => other (by rw [own])) held

end Appraisal.Table
