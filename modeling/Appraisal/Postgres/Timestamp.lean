import Appraisal.Time.Instant

/-!
# Times of the server

The server keeps times in microseconds.  An instant is cut off toward the start of 2000, from which
the server counts, and a leap second runs into the second after it.

`ofInstant_instant` says that a time of the server comes back as it was.
-/

namespace Appraisal.Postgres

/-- A time of the server. -/
structure Timestamp where
  /-- The microseconds since the start of 2000. -/
  micros : Int
deriving DecidableEq, Repr

namespace Timestamp

/-- The nanoseconds from the start of 1970 to the start of 2000. -/
def startNanos : Int := 946684800000000000

/-- The time the server keeps for an instant. -/
def ofInstant (t : Instant) : Timestamp := ⟨(t.toNanos - startNanos).tdiv 1000⟩

/-- The instant of a time of the server. -/
def instant (t : Timestamp) : Instant := .ofNanos (startNanos + t.micros * 1000)

theorem ofInstant_instant (t : Timestamp) : ofInstant t.instant = t := by
  have h : startNanos + t.micros * 1000 - startNanos = t.micros * 1000 := by omega
  rw [ofInstant, instant, Instant.toNanos_ofNanos, h, Int.mul_tdiv_cancel _ (by decide)]

/-! ## Tests -/

example : (ofInstant (.ofNanos (startNanos + 1999))).micros = 1 := by decide
example : (ofInstant (.ofNanos (startNanos - 1999))).micros = -1 := by decide

end Timestamp

end Appraisal.Postgres
