import Mathlib.Data.List.Induction
import Mathlib.Data.List.Nodup
import Appraisal.Mapping

/-!
# Recipients without repeats

What `Recipient.distinct` keeps of a list: of every employee the recipient that comes first
(`find?_distinct`, `mem_distinct`), and the employees in the order in which they first appear
(`map_id_distinct`).  So applying it again has no effect (`distinct_distinct`), and a request has
the same recipients whether repeats are dropped when it is prepared or only when it is stored
(`distinct_recipientsFor`).
-/

namespace Appraisal

namespace Recipient

/-- The last recipient of a list is kept if the employee is new. -/
theorem distinct_append_singleton (rs : List Recipient) (r : Recipient) :
    distinct (rs ++ [r]) =
      if (distinct rs).any fun k => k.id == r.id then distinct rs else distinct rs ++ [r] := by
  rw [distinct, List.foldl_append]
  rfl

theorem find?_distinct (rs : List Recipient) (e : EmployeeId) :
    (distinct rs).find? (fun r => r.id == e) = rs.find? (fun r => r.id == e) := by
  induction rs using List.reverseRecOn with
  | nil => rfl
  | append_singleton rs r ih =>
    rw [distinct_append_singleton, List.find?_append, ← ih]
    split
    · rename_i known
      by_cases own : r.id = e
      · -- the employee came before, so it is not the last recipient that is found
        subst own
        obtain ⟨first, found⟩ := Option.isSome_iff_exists.1
          (List.find?_isSome.2 (List.any_eq_true.1 known))
        rw [found, Option.some_or]
      · rw [List.find?_singleton, if_neg (by simpa using own), Option.or_none]
    · rw [List.find?_append]

theorem map_id_distinct (rs : List Recipient) :
    (distinct rs).map id = (rs.map id).eraseDups := by
  induction rs using List.reverseRecOn with
  | nil => rfl
  | append_singleton rs r ih =>
    have known : ((distinct rs).any fun k => k.id == r.id) = true ↔ r.id ∈ rs.map id := by
      rw [← List.mem_eraseDups, ← ih, List.any_eq_true, List.mem_map]
      simp only [beq_iff_eq]
    have last : ([r.id].removeAll (rs.map id)).eraseDups =
        if r.id ∈ rs.map id then [] else [r.id] := by
      rw [List.removeAll, List.filter_cons, List.filter_nil, List.elem_eq_mem]
      by_cases came : r.id ∈ rs.map id <;> simp [came, List.eraseDups_cons]
    rw [distinct_append_singleton, List.map_append, List.map_singleton, List.eraseDups_append, last,
      ← ih]
    by_cases came : r.id ∈ rs.map id
    · rw [if_pos (known.2 came), if_pos came, List.append_nil]
    · rw [if_neg fun h => came (known.1 h), if_neg came, List.map_append, List.map_singleton]

theorem nodup_distinct (rs : List Recipient) : ((distinct rs).map id).Nodup := by
  induction rs using List.reverseRecOn with
  | nil => exact .nil
  | append_singleton rs r ih =>
    rw [distinct_append_singleton]
    split
    · exact ih
    · rename_i new
      rw [List.map_append, List.map_singleton, ← List.concat_eq_append, List.nodup_concat]
      refine ⟨fun came => new ?_, ih⟩
      obtain ⟨k, kept, own⟩ := List.mem_map.1 came
      exact List.any_eq_true.2 ⟨k, kept, beq_iff_eq.2 own⟩

theorem mem_distinct {rs : List Recipient} {r : Recipient} :
    r ∈ distinct rs ↔ rs.find? (fun k => k.id == r.id) = some r := by
  rw [← find?_distinct]
  constructor
  · intro kept
    obtain ⟨first, found⟩ := Option.isSome_iff_exists.1
      (List.find?_isSome (p := fun k => k.id == r.id) |>.2 ⟨r, kept, beq_self_eq_true r.id⟩)
    have own : first.id = r.id := by simpa using List.find?_some found
    have there := List.mem_of_find?_eq_some found
    rw [found, List.inj_on_of_nodup_map (nodup_distinct rs) there kept own]
  · exact List.mem_of_find?_eq_some

theorem distinct_eq_self {rs : List Recipient} (nodup : (rs.map id).Nodup) : distinct rs = rs := by
  induction rs using List.reverseRecOn with
  | nil => rfl
  | append_singleton rs r ih =>
    rw [List.map_append, List.map_singleton, ← List.concat_eq_append, List.nodup_concat] at nodup
    obtain ⟨new, nodup⟩ := nodup
    rw [distinct_append_singleton, ih nodup, if_neg]
    rw [List.any_eq_true]
    rintro ⟨k, kept, own⟩
    exact new (beq_iff_eq.1 own ▸ List.mem_map_of_mem kept)

theorem distinct_distinct (rs : List Recipient) : distinct (distinct rs) = distinct rs :=
  distinct_eq_self (nodup_distinct rs)

theorem distinct_ne_nil {rs : List Recipient} (h : rs ≠ []) : distinct rs ≠ [] := by
  obtain ⟨r, rs, rfl⟩ := List.exists_cons_of_ne_nil h
  have first : r ∈ distinct (r :: rs) :=
    mem_distinct.2 (List.find?_cons_of_pos (beq_self_eq_true r.id))
  exact List.ne_nil_of_mem first

end Recipient

namespace EvaluationMapping

/-- Who is asked to revise a step, with whatever repeats there are: those who are named, or else the
defaults of the step. -/
def addressees (m : EvaluationMapping) (step : Step) (named : List Recipient) : List Recipient :=
  if named = [] then m.defaultRecipients step else named

variable (m : EvaluationMapping) (step : Step) (named : List Recipient)

theorem distinct_recipientsFor :
    Recipient.distinct (m.recipientsFor step named) =
      Recipient.distinct (m.addressees step named) := by
  cases named with
  | nil => rfl
  | cons r named => exact Recipient.distinct_distinct (r :: named)

theorem addressees_eq_nil_iff :
    m.addressees step named = [] ↔ named = [] ∧ m.defaultRecipients step = [] := by
  cases named with
  | nil => exact (and_iff_right rfl).symm
  | cons r named => exact iff_of_false (List.cons_ne_nil r named) fun h => by cases h.1

theorem recipientsFor_eq_nil_iff :
    m.recipientsFor step named = [] ↔ m.addressees step named = [] := by
  cases named with
  | nil => rfl
  | cons r named =>
    exact iff_of_false (Recipient.distinct_ne_nil (List.cons_ne_nil r named))
      (List.cons_ne_nil r named)

end EvaluationMapping

end Appraisal
