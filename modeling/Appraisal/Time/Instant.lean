import Appraisal.Time.Duration

/-!
# Instants

An instant is a point of Universal Time: the whole seconds since the start of 1970 and the
nanoseconds beyond them.  A leap second has no number of its own.  It is the second before it with
a thousand million nanoseconds or more.

Instants are ordered by their seconds and then by their nanoseconds.  `order_inj` says that one
number holds both, so the order is total.
-/

namespace Appraisal

/-- A point in time. -/
structure Instant where
  /-- Whole seconds since the start of 1970. -/
  seconds : Int
  /-- Nanoseconds beyond them; a second's worth or more inside a leap second. -/
  nanos : Nat
  /-- The nanoseconds end with the leap second. -/
  nanos_lt : nanos < 2000000000
deriving DecidableEq

namespace Instant

/-- The start of 1970. -/
def epoch : Instant := ⟨0, 0, by decide⟩

instance : Inhabited Instant := ⟨epoch⟩

/-- The place of an instant among all instants. -/
def order (t : Instant) : Int := t.seconds * 2000000000 + t.nanos

theorem order_inj {a b : Instant} (h : a.order = b.order) : a = b := by
  obtain ⟨s, n, hn⟩ := a
  obtain ⟨s', n', hn'⟩ := b
  simp only [order] at h
  obtain ⟨rfl, rfl⟩ : s = s' ∧ n = n' := by omega
  rfl

instance : LE Instant := ⟨fun a b => a.order ≤ b.order⟩
instance : LT Instant := ⟨fun a b => a.order < b.order⟩

instance (a b : Instant) : Decidable (a ≤ b) := inferInstanceAs (Decidable (a.order ≤ b.order))
instance (a b : Instant) : Decidable (a < b) := inferInstanceAs (Decidable (a.order < b.order))

/-- The instant so many nanoseconds after the start of 1970, outside every leap second. -/
def ofNanos (n : Int) : Instant :=
  ⟨n / 1000000000, (n % 1000000000).toNat, by omega⟩

/-- The nanoseconds since the start of 1970. -/
def toNanos (t : Instant) : Int := t.seconds * 1000000000 + t.nanos

theorem toNanos_ofNanos (n : Int) : (ofNanos n).toNanos = n := by
  simp only [ofNanos, toNanos]
  omega

/-- The instant a duration later, outside every leap second. -/
def add (t : Instant) (d : Duration) : Instant := ofNanos (t.toNanos + d.nanos)

theorem toNanos_add (t : Instant) (d : Duration) : (t.add d).toNanos = t.toNanos + d.nanos :=
  toNanos_ofNanos _

end Instant

end Appraisal
