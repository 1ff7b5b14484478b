import Mathlib.Tactic.IntervalCases
import Appraisal.Time.Calendar

/-!
# Days and dates

Every number is the number of a date: of the one that `Date.ofDayNumber` gives
(`Date.dayNumber_ofDayNumber`), and this date exists (`Date.isValid_ofDayNumber`).

A day of an era is split into centuries, groups of four years, years and days (`EraDay`).  The last
day of the last year of a group exists if the year has a leap day.  The splitting by 1460, 36524
and 146096 days in `ofDayNumber` finds the year of this decomposition (`EraDay.year_number`).
-/

namespace Appraisal.Date

/-- A day of an era, counted in centuries, groups of four years, years and days. -/
structure EraDay where
  century : Int
  group : Int
  year : Int
  day : Int
  century_mem : 0 ≤ century ∧ century ≤ 3
  group_mem : 0 ≤ group ∧ group ≤ 24
  year_mem : 0 ≤ year ∧ year ≤ 3
  day_mem : 0 ≤ day ∧ day ≤ 365
  /-- The last day of a leap year. -/
  leap : day = 365 → year = 3 ∧ (group ≤ 23 ∨ century = 3)

namespace EraDay

/-- The number of the day in its era. -/
def number (e : EraDay) : Int := 36524 * e.century + 1461 * e.group + 365 * e.year + e.day

/-- The number of its year in the era. -/
def yearOfEra (e : EraDay) : Int := 100 * e.century + 4 * e.group + e.year

theorem exists_number {n : Int} (nonneg : 0 ≤ n) (lt : n < 146097) :
    ∃ e : EraDay, e.number = n := by
  obtain ⟨c, s, rfl, hc, hs⟩ : ∃ c s : Int, n = 36524 * c + s ∧ (0 ≤ c ∧ c ≤ 3) ∧
      0 ≤ s ∧ (s < 36524 ∨ c = 3 ∧ s = 36524) := by
    by_cases last : n = 146096
    · exact ⟨3, 36524, by omega⟩
    · exact ⟨n / 36524, n % 36524, by omega⟩
  obtain ⟨y, d, split, hy, hd⟩ : ∃ y d : Int, s % 1461 = 365 * y + d ∧ (0 ≤ y ∧ y ≤ 3) ∧
      0 ≤ d ∧ (d < 365 ∨ y = 3 ∧ d = 365) := by
    by_cases last : s % 1461 = 1460
    · exact ⟨3, 365, by omega⟩
    · exact ⟨s % 1461 / 365, s % 1461 % 365, by omega⟩
  refine ⟨⟨c, s / 1461, y, d, hc, by omega, hy, by omega, by omega⟩, ?_⟩
  simp only [number]
  omega

/-- The year that `ofDayNumber` finds. -/
theorem year_number (e : EraDay) :
    (e.number - e.number / 1460 + e.number / 36524 - e.number / 146096) / 365 = e.yearOfEra := by
  obtain ⟨c, q, y, d, hc, hq, hy, hd, leap⟩ := e
  simp only [number, yearOfEra]
  have centuries : (36524 * c + 1461 * q + 365 * y + d) / 36524 -
      (36524 * c + 1461 * q + 365 * y + d) / 146096 = c := by
    by_cases last : 36524 * c + 1461 * q + 365 * y + d = 146096
    · omega
    · have below : 1461 * q + 365 * y + d < 36524 := by omega
      have : (36524 * c + 1461 * q + 365 * y + d) / 36524 = c := by omega
      omega
  -- Four years are one day longer than 1460, so after most of an era one more of these has passed.
  have groups : (36524 * c + 1461 * q + 365 * y + d) / 1460 = 25 * c + q ∨
      (36524 * c + 1461 * q + 365 * y + d) / 1460 = 25 * c + q + 1 := by omega
  omega

/-- The day of the year that `ofDayNumber` finds. -/
theorem day_number (e : EraDay) :
    e.number - (365 * e.yearOfEra + e.yearOfEra / 4 - e.yearOfEra / 100) = e.day := by
  obtain ⟨c, q, y, d, hc, hq, hy, hd, leap⟩ := e
  simp only [number, yearOfEra]
  omega

end EraDay

/-! ## Dates -/

/-- The month of a day of a year that begins in March, with March as 0. -/
def monthFromMarch (day : Int) : Int := (5 * day + 2) / 153

/-- The number of a month with January as 1. -/
def monthNumber (fromMarch : Int) : Int :=
  if fromMarch < 10 then fromMarch + 3 else fromMarch - 9

theorem monthFromMarch_mem {day : Int} (mem : 0 ≤ day ∧ day ≤ 365) :
    0 ≤ monthFromMarch day ∧ monthFromMarch day ≤ 11 ∧
      153 * monthFromMarch day ≤ 5 * day + 2 ∧ 5 * day + 2 < 153 * (monthFromMarch day + 1) := by
  simp only [monthFromMarch]
  omega

/-- The date of a day of an era. -/
def EraDay.date (era : Int) (e : EraDay) : Date :=
  let fromMarch := monthFromMarch e.day
  let month := monthNumber fromMarch
  let year := e.yearOfEra + era * 400
  ⟨if month ≤ 2 then year + 1 else year, month.toNat,
    (e.day - (153 * fromMarch + 2) / 5 + 1).toNat⟩

theorem ofDayNumber_of_number (era : Int) (e : EraDay) :
    ofDayNumber (era * 146097 + e.number - 719468) = e.date era := by
  have bounds : 0 ≤ e.number ∧ e.number < 146097 := by
    obtain ⟨c, q, y, d, hc, hq, hy, hd, leap⟩ := e
    simp only [EraDay.number]
    omega
  have eraOf : (era * 146097 + e.number - 719468 + 719468) / 146097 = era := by omega
  have dayOf : (era * 146097 + e.number - 719468 + 719468) % 146097 = e.number := by omega
  simp only [ofDayNumber, eraOf, dayOf, e.year_number, e.day_number]
  rfl

theorem dayNumber_date (era : Int) (e : EraDay) :
    (e.date era).dayNumber = era * 146097 + e.number - 719468 := by
  obtain ⟨c, q, y, d, hc, hq, hy, hd, leap⟩ := e
  simp only [EraDay.date, EraDay.number, EraDay.yearOfEra, dayNumber, monthNumber]
  obtain ⟨nonneg, le, first, last⟩ := monthFromMarch_mem hd
  generalize monthFromMarch d = m at nonneg le first last
  split <;> split <;> split <;> omega

/-- The last day of a leap year falls in the February of the year after, which has a leap day. -/
theorem EraDay.isLeapYear (era : Int) (e : EraDay) (last : e.day = 365) :
    Date.isLeapYear (e.yearOfEra + era * 400 + 1) = true := by
  obtain ⟨c, q, y, d, hc, hq, hy, hd, leap⟩ := e
  obtain ⟨rfl, late⟩ := leap last
  simp only [Date.isLeapYear, yearOfEra, Bool.and_eq_true, Bool.or_eq_true, beq_iff_eq,
    bne_iff_ne]
  omega

/-- A month but February ends where the next one begins. -/
theorem daysInMonth_monthNumber (year : Int) {m : Int} (nonneg : 0 ≤ m) (le : m ≤ 10) :
    (daysInMonth year (monthNumber m).toNat : Int) =
      (153 * (m + 1) + 2) / 5 - (153 * m + 2) / 5 := by
  interval_cases m <;> rfl

theorem EraDay.day_le (era : Int) (e : EraDay) :
    (e.date era).day ≤ daysInMonth (e.date era).year (e.date era).month := by
  obtain ⟨nonneg, le, first, last⟩ := monthFromMarch_mem e.day_mem
  simp only [date]
  rcases Int.lt_or_eq_of_le le with le | february
  · have length := daysInMonth_monthNumber (if monthNumber (monthFromMarch e.day) ≤ 2 then
      e.yearOfEra + era * 400 + 1 else e.yearOfEra + era * 400) nonneg (Int.le_of_lt_add_one le)
    omega
  · rw [february] at first last ⊢
    by_cases leap : e.day = 365
    · have length : daysInMonth (e.yearOfEra + era * 400 + 1) 2 = 29 := by
        rw [daysInMonth, if_pos rfl, if_pos (e.isLeapYear era leap)]
      exact Nat.le_trans (by rw [leap]; decide) (Nat.le_of_eq length.symm)
    · have length : 28 ≤ daysInMonth (e.yearOfEra + era * 400 + 1) 2 := by
        rw [daysInMonth, if_pos rfl]
        split <;> decide
      have day := e.day_mem
      exact Nat.le_trans (by omega) length

theorem isValid_date (era : Int) (e : EraDay) (low : minYear ≤ (e.date era).year)
    (high : (e.date era).year ≤ maxYear) : (e.date era).isValid = true := by
  obtain ⟨nonneg, le, first, last⟩ := monthFromMarch_mem e.day_mem
  have day := e.day_le era
  have month : 1 ≤ (e.date era).month ∧ (e.date era).month ≤ 12 := by
    simp only [EraDay.date, monthNumber]
    split <;> omega
  have begun : 1 ≤ (e.date era).day := by
    simp only [EraDay.date]
    omega
  simp only [isValid, Bool.and_eq_true, decide_eq_true_eq]
  exact ⟨⟨⟨⟨⟨low, high⟩, month.1⟩, month.2⟩, begun⟩, day⟩

/-- Every number is that of a date. -/
theorem dayNumber_ofDayNumber (n : Int) : (ofDayNumber n).dayNumber = n := by
  obtain ⟨e, number⟩ := EraDay.exists_number (n := (n + 719468) % 146097) (by omega) (by omega)
  have split : n = (n + 719468) / 146097 * 146097 + e.number - 719468 := by omega
  rw [split, ofDayNumber_of_number, dayNumber_date]

/-- The date of a number exists, unless its year is out of range. -/
theorem isValid_ofDayNumber {n : Int} (low : minYear ≤ (ofDayNumber n).year)
    (high : (ofDayNumber n).year ≤ maxYear) : (ofDayNumber n).isValid = true := by
  obtain ⟨e, number⟩ := EraDay.exists_number (n := (n + 719468) % 146097) (by omega) (by omega)
  have split : n = (n + 719468) / 146097 * 146097 + e.number - 719468 := by omega
  rw [split, ofDayNumber_of_number] at low high ⊢
  exact isValid_date _ e low high

theorem month_mem {d : Date} (valid : d.isValid = true) : 1 ≤ d.month ∧ d.month ≤ 12 := by
  simp only [isValid, Bool.and_eq_true, decide_eq_true_eq] at valid
  omega

theorem day_mem {d : Date} (valid : d.isValid = true) : 1 ≤ d.day ∧ d.day ≤ 31 := by
  have longest : daysInMonth d.year d.month ≤ 31 := by
    rw [daysInMonth]
    split
    · split <;> decide
    · split <;> decide
  simp only [isValid, Bool.and_eq_true, decide_eq_true_eq] at valid
  omega

end Appraisal.Date
