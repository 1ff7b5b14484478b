import Appraisal.Identifier.Uuid

/-!
# Identifiers of entities

Mappings, evaluation periods, employees and revision requests each have identifiers of a type of
their own, so that an employee can never stand where a mapping is expected.

Identifiers are ranked by their bits, and pairs of identifiers by the first one and then the
second.  `rank_pair_lt_iff` states the order of pairs.
-/

namespace Appraisal

/-- The kinds of entity that carry an identifier. -/
inductive Entity
  /-- The pairing of an employee with an evaluation period. -/
  | mapping
  /-- An evaluation period. -/
  | period
  /-- An employee. -/
  | employee
  /-- A revision request. -/
  | revisionRequest
deriving DecidableEq, Repr

/-- An identifier of one kind of entity. -/
structure Id (entity : Entity) where
  /-- The identifier without its kind. -/
  uuid : Uuid
deriving DecidableEq

/-- Identifier of the pairing of an employee with an evaluation period. -/
abbrev MappingId := Id .mapping

/-- Identifier of an evaluation period. -/
abbrev PeriodId := Id .period

/-- Identifier of an employee. -/
abbrev EmployeeId := Id .employee

/-- Identifier of a revision request. -/
abbrev RevisionRequestId := Id .revisionRequest

namespace Id

variable {entity : Entity}

instance : Inhabited (Id entity) := ⟨⟨default⟩⟩

/-- The written form. -/
def text (id : Id entity) : String := id.uuid.text

/-- The identifier a text spells. -/
def ofText? (text : String) : Option (Id entity) := (Uuid.ofText? text).map Id.mk

/-- The identifier made of 128 random bits. -/
def random (drawn : Uuid) : Id entity := ⟨drawn.random⟩

instance : Ranked (Id entity) where
  rank id := rank id.uuid
  rank_inj h := by
    rename_i a b
    cases a; cases b
    exact congrArg Id.mk (rank_inj h)

theorem rank_lt (id : Id entity) : rank id < Uuid.count := id.uuid.bits.isLt

end Id

instance {a b : Entity} : Ranked (Id a × Id b) where
  rank p := rank p.1 * Uuid.count + rank p.2
  rank_inj h := by
    rename_i p q
    have hp := Id.rank_lt p.2
    have hq := Id.rank_lt q.2
    unfold Uuid.count at h hp hq
    exact Prod.ext (rank_inj (by omega)) (rank_inj (by omega))

/-- Pairs are ordered by their first parts, and by their second parts where these agree. -/
theorem rank_pair_lt_iff {a b : Entity} {p q : Id a × Id b} :
    rank p < rank q ↔ rank p.1 < rank q.1 ∨ rank p.1 = rank q.1 ∧ rank p.2 < rank q.2 := by
  have hp := Id.rank_lt p.2
  have hq := Id.rank_lt q.2
  simp only [show rank p = rank p.1 * Uuid.count + rank p.2 from rfl,
    show rank q = rank q.1 * Uuid.count + rank q.2 from rfl]
  unfold Uuid.count at *
  omega

/-- Identifiers in increasing order. -/
def sortIds {entity : Entity} : List (Id entity) → List (Id entity)
  | [] => []
  | id :: ids => place id (sortIds ids)
where
  /-- Puts an identifier in front of the first one that is not below it. -/
  place (id : Id entity) : List (Id entity) → List (Id entity)
    | [] => [id]
    | x :: xs => if rank id ≤ rank x then id :: x :: xs else x :: place id xs

end Appraisal
