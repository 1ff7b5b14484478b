import Mathlib.Data.List.Nodup
import Appraisal.Json.Form

/-!
# Members of objects

What a structure reads from an object depends on the members that its fields name, and on nothing
else.

*All there.*  If the object has one member for each field, every field gets the value of its member
(`slots_ofMembers`).

*Left out.*  A member may be left out if the structure reads the same as with a certain value there
(`Omits`).  The other fields do not see the member, wherever it stands (`memberSlot_insert`).
-/

namespace Appraisal.Json

/-! ## All members -/

theorem membersNamed_cons_self (name : String) (value : Json)
    (members : List (Option String × Json)) :
    membersNamed name ((some name, value) :: members) = value :: membersNamed name members := by
  simp [membersNamed]

theorem membersNamed_cons_of_ne {name : String} {m : Option String × Json} (other : m.1 ≠ some name)
    (members : List (Option String × Json)) :
    membersNamed name (m :: members) = membersNamed name members := by
  simp [membersNamed, other]

theorem membersNamed_append (name : String) (before after : List (Option String × Json)) :
    membersNamed name (before ++ after) = membersNamed name before ++ membersNamed name after := by
  simp [membersNamed]

theorem membersNamed_eq_nil {name : String} {members : List (Option String × Json)}
    (none : ∀ m ∈ members, m.1 ≠ some name) : membersNamed name members = [] := by
  simpa [membersNamed] using none

/-- Each name of an object whose names are distinct has one value. -/
theorem membersNamed_of_mem {members : List (String × Json)}
    (distinct : (members.map Prod.fst).Nodup) {m : String × Json} (mem : m ∈ members) :
    membersNamed m.1 (members.map fun m => (some m.1, m.2)) = [m.2] := by
  obtain ⟨before, after, rfl⟩ := List.append_of_mem mem
  rw [List.map_append, List.map_cons, List.nodup_append] at distinct
  obtain ⟨-, later, apart⟩ := distinct
  have first : ∀ m' ∈ before.map (fun m => (some m.1, m.2)), m'.1 ≠ some m.1 := by
    intro m' hm' same
    obtain ⟨m'', hm'', rfl⟩ := List.mem_map.1 hm'
    exact apart m''.1 (List.mem_map_of_mem hm'') m.1 List.mem_cons_self (Option.some.inj same)
  have second : ∀ m' ∈ after.map (fun m => (some m.1, m.2)), m'.1 ≠ some m.1 := by
    intro m' hm' same
    obtain ⟨m'', hm'', rfl⟩ := List.mem_map.1 hm'
    rw [← Option.some.inj same] at later
    exact (List.nodup_cons.1 later).1 (List.mem_map_of_mem hm'')
  rw [List.map_append, List.map_cons, membersNamed_append, membersNamed_eq_nil first,
    membersNamed_cons_self, membersNamed_eq_nil second, List.nil_append]

/-- If an object has just one member for each field, every field gets its value. -/
theorem slots_ofMembers {names : List String} {members : List (String × Json)}
    (same : members.map Prod.fst = names) (distinct : names.Nodup) :
    slots names (.ofMembers members) = some (members.map fun m => .given m.2) := by
  subst same
  have named : (members.map fun m => (some m.1, m.2)).any (·.1.isNone) = false := by
    simp
  have each : ∀ part ⊆ members,
      (part.map Prod.fst).mapM (memberSlot (members.map fun m => (some m.1, m.2))) =
        some (part.map fun m => Slot.given m.2) := by
    intro part sub
    induction part with
    | nil => rfl
    | cons m part ih =>
      rw [List.cons_subset] at sub
      have slot : memberSlot (members.map fun m => (some m.1, m.2)) m.1 = some (.given m.2) := by
        rw [memberSlot, membersNamed_of_mem distinct sub.1]
      rw [List.map_cons, List.mapM_cons, slot, ih sub.2]
      rfl
  simp only [slots, ofMembers, named, Bool.false_eq_true, if_false]
  exact each members fun _ => id

/-! ## Members that are left out -/

/-- An object without a member of this name reads as with this value there, wherever it stands. -/
def Omits (α : Type) [Form α] (name : String) (value : Json) : Prop :=
  ∀ before after : List (Option String × Json), (∀ m ∈ before ++ after, m.1 ≠ some name) →
    (Form.ofJson? (.object (before ++ after)) : Option α) =
      Form.ofJson? (.object (before ++ (some name, value) :: after))

section

variable {name : String} {before after : List (Option String × Json)}
  (absent : ∀ m ∈ before ++ after, m.1 ≠ some name) (value : Json)

include absent

theorem memberSlot_absent : memberSlot (before ++ after) name = some .missing := by
  rw [memberSlot, membersNamed_eq_nil absent]

theorem memberSlot_inserted :
    memberSlot (before ++ (some name, value) :: after) name = some (.given value) := by
  rw [List.forall_mem_append] at absent
  rw [memberSlot, membersNamed_append, membersNamed_eq_nil absent.1, membersNamed_cons_self,
    membersNamed_eq_nil absent.2, List.nil_append]

end

theorem any_isNone_insert (name : String) (value : Json)
    (before after : List (Option String × Json)) :
    (before ++ (some name, value) :: after).any (·.1.isNone) =
      (before ++ after).any (·.1.isNone) := by
  simp

/-- Other fields do not see a member. -/
theorem memberSlot_insert (name : String) (value : Json)
    (before after : List (Option String × Json)) {other : String} (ne : other ≠ name) :
    memberSlot (before ++ (some name, value) :: after) other =
      memberSlot (before ++ after) other := by
  have same : membersNamed other (before ++ (some name, value) :: after) =
      membersNamed other (before ++ after) := by
    rw [membersNamed_append, membersNamed_append,
      membersNamed_cons_of_ne (fun h => ne (Option.some.inj h).symm)]
  simp only [memberSlot, same]

theorem mapM_memberSlot_insert {name : String} (value : Json)
    (before after : List (Option String × Json)) {others : List String} (apart : name ∉ others) :
    others.mapM (memberSlot (before ++ (some name, value) :: after)) =
      others.mapM (memberSlot (before ++ after)) := by
  induction others with
  | nil => rfl
  | cons other others ih =>
    rw [List.mem_cons, not_or] at apart
    rw [List.mapM_cons, List.mapM_cons, ih apart.2,
      memberSlot_insert name value before after (Ne.symm apart.1)]

/-- What the fields get, if each gets something. -/
theorem mapM_eq_map {names : List String} {slot : String → Option Slot} {found : List Slot}
    (h : names.mapM slot = some found) :
    found = names.map fun name => (slot name).getD .missing := by
  induction names generalizing found with
  | nil => exact (Option.some.inj h).symm
  | cons name names ih =>
    rw [List.mapM_cons, Option.bind_eq_bind, Option.bind_eq_some_iff] at h
    obtain ⟨first, here, h⟩ := h
    rw [Option.bind_eq_bind, Option.bind_eq_some_iff] at h
    obtain ⟨rest, there, same⟩ := h
    rw [← Option.some.inj same, ih there, List.map_cons, here, Option.getD_some]

/-- A member may be left out of an object if what the structure makes of its fields is the same
without a member for one field as with this value for it. -/
theorem omits_of_slots {α : Type} [Form α] (first last : List String) {name : String}
    {value : Json} {make : List Slot → Option α}
    (reads : ∀ j, (Form.ofJson? j : Option α) = (slots (first ++ name :: last) j).bind make)
    (apart : name ∉ first ++ last)
    (same : ∀ s : String → Slot, make (first.map s ++ .missing :: last.map s) =
      make (first.map s ++ .given value :: last.map s)) :
    Omits α name value := by
  intro before after absent
  rw [List.mem_append, not_or] at apart
  simp only [reads, slots, any_isNone_insert, List.mapM_append, List.mapM_cons,
    mapM_memberSlot_insert value before after apart.1,
    mapM_memberSlot_insert value before after apart.2,
    memberSlot_absent absent, memberSlot_inserted absent]
  split
  · rfl
  · cases head : first.mapM (memberSlot (before ++ after)) with
    | none => rfl
    | some a =>
      cases tail : last.mapM (memberSlot (before ++ after)) with
      | none => rfl
      | some b =>
        rw [mapM_eq_map head, mapM_eq_map tail]
        exact same _

end Appraisal.Json
