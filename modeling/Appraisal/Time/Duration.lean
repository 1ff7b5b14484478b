/-!
# Durations

A duration is a number of nanoseconds.  Its whole seconds are a number below `UInt64.size`, so sums
and products that would be longer stop at the longest one.

`nanos_mul` says when a product stops.
-/

namespace Appraisal

/-- The nanoseconds of a second. -/
def nanosPerSecond : Nat := 1000000000

/-- The nanoseconds of the longest duration. -/
def maxNanos : Nat := UInt64.size * nanosPerSecond - 1

/-- A length of time. -/
structure Duration where
  /-- Its nanoseconds. -/
  nanos : Nat
  /-- Its whole seconds fit into 64 bits. -/
  le_max : nanos ≤ maxNanos
deriving DecidableEq

namespace Duration

/-- The duration of some nanoseconds, or the longest one. -/
def ofNanos (n : Nat) : Duration := ⟨min n maxNanos, Nat.min_le_right ..⟩

/-- No time at all. -/
def zero : Duration := ⟨0, Nat.zero_le _⟩

instance : Inhabited Duration := ⟨zero⟩

/-- The duration of some milliseconds. -/
def ofMillis (n : Nat) : Duration := ofNanos (n * 1000000)

/-- The duration of some seconds. -/
def ofSeconds (n : Nat) : Duration := ofNanos (n * nanosPerSecond)

/-- Its whole seconds. -/
def seconds (d : Duration) : Nat := d.nanos / nanosPerSecond

/-- The nanoseconds beyond its whole seconds. -/
def subsecNanos (d : Duration) : Nat := d.nanos % nanosPerSecond

/-- Its whole milliseconds. -/
def millis (d : Duration) : Nat := d.nanos / 1000000

/-- The duration so many times as long, or the longest one. -/
def mul (d : Duration) (k : Nat) : Duration := ofNanos (d.nanos * k)

instance : Min Duration := ⟨fun a b => if a.nanos ≤ b.nanos then a else b⟩

theorem ext {a b : Duration} (h : a.nanos = b.nanos) : a = b := by
  cases a; cases b; cases h; rfl

@[simp] theorem nanos_ofNanos (n : Nat) : (ofNanos n).nanos = min n maxNanos := rfl

theorem nanos_mul (d : Duration) (k : Nat) : (d.mul k).nanos = min (d.nanos * k) maxNanos := rfl

theorem nanos_min (a b : Duration) : (min a b).nanos = min a.nanos b.nanos := by
  show (if a.nanos ≤ b.nanos then a else b).nanos = _
  split <;> omega

/-! ## Tests -/

example : (ofMillis 1500).seconds = 1 ∧ (ofMillis 1500).subsecNanos = 500000000 := by decide
example : ((ofSeconds (1 <<< 63)).mul 4).nanos = maxNanos := by decide

end Duration

end Appraisal
