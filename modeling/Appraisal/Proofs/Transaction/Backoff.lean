import Mathlib.Algebra.Group.Nat.Defs
import Appraisal.Retry

/-!
# The wait between two attempts

The wait after an attempt is meant to be `min (base * 2 ^ (attempt - 1)) cap`.  Two things stand
between this number and the one that is computed.  A product that is too long for a duration stops
at the longest duration, and the number of doublings stops at 31.

The first is never seen.  The cap is a duration, so a product that stops is cut down to the cap
anyway (`nanos_min_mul`).  The second is seen.  After 32 attempts the wait has stopped growing, and
if the cap is still ahead of it there, it stays below what is meant for ever.
`backoffDelay_exact_iff` says for which policies and attempts this happens: not up to attempt 32,
and not where the cap is at most `2 ^ 31` times the base.

What the wait is used for holds all the same.  It does not shrink from one attempt to a later one,
and it is never above the cap.
-/

namespace Appraisal

/-- A product cut down to a duration is exact, although it may itself have been too long. -/
theorem Duration.nanos_min_mul (d cap : Duration) (k : Nat) :
    (min (d.mul k) cap).nanos = min (d.nanos * k) cap.nanos := by
  have := cap.le_max
  rw [Duration.nanos_min, Duration.nanos_mul]
  omega

namespace RetryPolicy

variable (p : RetryPolicy) (attempt : Nat)

theorem doublings_mono {first later : Nat} (h : first ≤ later) :
    doublings first ≤ doublings later := by
  unfold doublings
  omega

theorem doublings_of_le {attempt : Nat} (h : attempt ≤ 32) : doublings attempt = attempt - 1 := by
  unfold doublings
  omega

theorem doublings_of_gt {attempt : Nat} (h : 32 < attempt) : doublings attempt = 31 := by
  unfold doublings
  omega

/-- The wait in exact numbers, with the doublings that are made. -/
theorem nanos_backoffDelay : (p.backoffDelay attempt).nanos =
    min (p.backoffBase.nanos * 2 ^ doublings attempt) p.backoffCap.nanos := by
  rw [backoffDelay, Duration.nanos_min_mul, Nat.one_shiftLeft]

/-- A number that doubles further than 31 times is cut down to the same cap as before if and only
if the cap was reached before or the number is zero. -/
theorem min_doubled_eq_iff {base cap n : Nat} (h : 31 < n) :
    min (base * 2 ^ 31) cap = min (base * 2 ^ n) cap ↔ base = 0 ∨ cap ≤ base * 2 ^ 31 := by
  obtain rfl | positive := Nat.eq_zero_or_pos base
  · simp
  have grows : base * 2 ^ 31 < base * 2 ^ n :=
    Nat.mul_lt_mul_of_pos_left (Nat.pow_lt_pow_right Nat.one_lt_two h) positive
  omega

/-- The wait after an attempt doubles with every attempt up to the cap, but at most 31 times.  It is
the base doubled for every attempt after the first and cut down to the cap if and only if there were
at most 32 attempts, or the base is no time at all, or the cap is at most `2 ^ 31` times the base.
It is never above the cap, and later waits are not shorter. -/
theorem backoffDelay_exact_iff :
    (p.backoffDelay attempt).nanos =
        min (p.backoffBase.nanos * 2 ^ min (attempt - 1) 31) p.backoffCap.nanos ∧
      ((p.backoffDelay attempt).nanos =
          min (p.backoffBase.nanos * 2 ^ (attempt - 1)) p.backoffCap.nanos ↔
        attempt ≤ 32 ∨ p.backoffBase.nanos = 0 ∨
          p.backoffCap.nanos ≤ p.backoffBase.nanos * 2 ^ 31) ∧
      (p.backoffDelay attempt).nanos ≤ p.backoffCap.nanos ∧
      ∀ later, attempt ≤ later →
        (p.backoffDelay attempt).nanos ≤ (p.backoffDelay later).nanos := by
  refine ⟨nanos_backoffDelay p attempt, ?exact, ?capped, ?mono⟩
  case exact =>
    rw [nanos_backoffDelay]
    by_cases early : attempt ≤ 32
    · simp [doublings_of_le early, early]
    · have late : 31 < attempt - 1 := by omega
      rw [doublings_of_gt (by omega), min_doubled_eq_iff late]
      simp [early]
  case capped =>
    rw [nanos_backoffDelay]
    exact Nat.min_le_right _ _
  case mono =>
    intro later h
    have fewer : p.backoffBase.nanos * 2 ^ doublings attempt ≤
        p.backoffBase.nanos * 2 ^ doublings later :=
      Nat.mul_le_mul_left _ (Nat.pow_le_pow_right Nat.two_pos (doublings_mono h))
    rw [nanos_backoffDelay, nanos_backoffDelay]
    omega

/-- A policy with a base of one nanosecond and a cap of ten seconds. -/
def patient : RetryPolicy := (default : RetryPolicy).withBackoff (.ofNanos 1) (.ofSeconds 10)

/-- With such a policy the wait after attempt 33 is the same as after attempt 32, and half of what
is meant. -/
theorem backoffDelay_stops_doubling :
    (patient.backoffDelay 32).nanos = 2147483648 ∧
      (patient.backoffDelay 33).nanos = 2147483648 ∧
      min (patient.backoffBase.nanos * 2 ^ (33 - 1)) patient.backoffCap.nanos = 4294967296 ∧
      (patient.backoffDelay 33).nanos ≠
        min (patient.backoffBase.nanos * 2 ^ (33 - 1)) patient.backoffCap.nanos := by
  decide

end RetryPolicy

end Appraisal
