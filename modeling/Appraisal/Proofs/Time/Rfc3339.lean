import Mathlib.Data.Nat.Digits.Defs
import Appraisal.Proofs.Time.Calendar
import Appraisal.Time.Rfc3339

/-!
# Times read back

A time that is written in RFC 3339 reads back as the same time (`Rfc3339.ofText?_text`), if its year
is in range and its leap second, if it is one, ends a minute (`Instant.Proper`).  A leap second
elsewhere would be written as the second after it, and no text is read as one
(`Rfc3339.proper_of_ofText?`).

Numbers are written with a fixed number of digits, except years of more than four.  The reader stops
at the first character that is no digit or when it has enough, and either way what it has read is
`Nat.ofDigitChars` of the digits (`takeDigits_append`).
-/

namespace Appraisal

/-- The year is in range, and a leap second ends a minute. -/
structure Instant.Proper (t : Instant) : Prop where
  year_mem : Date.minYear ≤ (Date.ofDayNumber (t.seconds / 86400)).year ∧
    (Date.ofDayNumber (t.seconds / 86400)).year ≤ Date.maxYear
  leap : 1000000000 ≤ t.nanos → t.seconds % 60 = 59

namespace Rfc3339

open Text (isBlank trimStart)

/-! ## Digits -/

/-- The text does not go on with a digit. -/
def Stops (rest : List Char) : Prop := ∀ c ∈ rest.head?, c.isDigit = false

theorem stops_cons {c : Char} (rest : List Char) (h : c.isDigit = false) : Stops (c :: rest) := by
  rintro _ ⟨⟩
  exact h

theorem digitValue?_of_isDigit {c : Char} (h : c.isDigit = true) :
    digitValue? c = some (c.toNat - 48) := by
  simp only [Char.isDigit, Bool.and_eq_true, decide_eq_true_eq] at h
  exact if_pos h

theorem digitValue?_of_not_isDigit {c : Char} (h : c.isDigit = false) : digitValue? c = none := by
  simp only [Char.isDigit, Bool.and_eq_false_iff, decide_eq_false_iff_not] at h
  exact if_neg (not_and_or.2 h)

theorem toNat_of_isDigit {c : Char} (h : c.isDigit = true) : 48 ≤ c.toNat ∧ c.toNat ≤ 57 := by
  simp only [Char.isDigit, Bool.and_eq_true, decide_eq_true_eq] at h
  exact ⟨UInt32.le_iff_toNat_le.1 h.1, UInt32.le_iff_toNat_le.1 h.2⟩

theorem isBlank_of_isDigit {c : Char} (h : c.isDigit = true) : isBlank c = false := by
  have range := toNat_of_isDigit h
  simp only [isBlank, Bool.or_eq_false_iff, Bool.and_eq_false_iff, decide_eq_false_iff_not,
    beq_eq_false_iff_ne]
  omega

theorem trimStart_of_isDigit {c : Char} (rest : List Char) (h : c.isDigit = true) :
    trimStart (c :: rest) = c :: rest := by
  rw [trimStart, List.dropWhile_cons_of_neg (by rw [isBlank_of_isDigit h]; decide)]

/-- The reader of digits takes as many as there are, if it does not have to stop before. -/
theorem takeDigits_append {digits rest : List Char} (all : ∀ c ∈ digits, c.isDigit = true)
    {limit : Nat} (fits : digits.length ≤ limit) (ends : digits.length = limit ∨ Stops rest)
    (acc : Nat) :
    takeDigits limit acc (digits ++ rest) = (Nat.ofDigitChars 10 digits acc, rest) := by
  induction digits generalizing limit acc with
  | nil =>
    cases limit with
    | zero => cases rest <;> rfl
    | succ limit =>
      cases rest with
      | nil => rfl
      | cons c rest =>
        have stop := ends.resolve_left nofun c rfl
        simp only [List.nil_append, takeDigits, digitValue?_of_not_isDigit stop]
        rfl
  | cons c digits ih =>
    cases limit with
    | zero => exact absurd fits (by simp)
    | succ limit =>
      have first := digitValue?_of_isDigit (all c List.mem_cons_self)
      simp only [List.cons_append, takeDigits, first]
      refine (ih (fun c hc => all c (List.mem_cons_of_mem _ hc)) (Nat.le_of_succ_le_succ fits)
        (ends.imp_left Nat.succ.inj) _).trans ?_
      rfl

theorem number_append {digits rest : List Char} (all : ∀ c ∈ digits, c.isDigit = true)
    (some_ : digits ≠ []) {limit : Nat} (fits : digits.length ≤ limit)
    (ends : digits.length = limit ∨ Stops rest) :
    number limit (digits ++ rest) = some (Nat.ofDigitChars 10 digits 0, rest) := by
  have taken := takeDigits_append all fits ends 0
  cases digits with
  | nil => exact absurd rfl some_
  | cons c digits =>
    have first := digitValue?_of_isDigit (all c List.mem_cons_self)
    rw [List.cons_append] at taken ⊢
    simp only [number, first, taken]
    rfl

/-! ## Padded numbers -/

theorem length_padded (count n : Nat) : (padded count n).length = count := by
  induction count generalizing n with
  | zero => rfl
  | succ count ih => simp only [padded, List.length_append, ih, List.length_singleton]

theorem isDigit_ofNat : ∀ d < 10, (Char.ofNat (48 + d)).isDigit = true := by decide

theorem toNat_ofNat : ∀ d < 10, (Char.ofNat (48 + d)).toNat - 48 = d := by decide

theorem isDigit_of_mem_padded {count n : Nat} {c : Char} (h : c ∈ padded count n) :
    c.isDigit = true := by
  induction count generalizing n with
  | zero => cases h
  | succ count ih =>
    rcases List.mem_append.1 h with h | h
    · exact ih h
    · rw [List.mem_singleton.1 h]
      exact isDigit_ofNat _ (Nat.mod_lt _ (by decide))

theorem ofDigitChars_padded (count n : Nat) :
    Nat.ofDigitChars 10 (padded count n) 0 = n % Nat.pow 10 count := by
  induction count generalizing n with
  | zero => exact (Nat.mod_one n).symm
  | succ count ih =>
    have last := toNat_ofNat (n % 10) (Nat.mod_lt _ (by decide))
    rw [padded, Nat.ofDigitChars_append, ih, Nat.ofDigitChars_cons,
      show (Char.ofNat (48 + n % 10)).toNat - '0'.toNat = n % 10 from last]
    have carry : n % Nat.pow 10 (count + 1) = n % 10 + 10 * (n / 10 % Nat.pow 10 count) := by
      show n % (10 ^ (count + 1)) = n % 10 + 10 * (n / 10 % 10 ^ count)
      rw [Nat.pow_succ', Nat.mod_mul]
    rw [carry, Nat.add_comm]
    rfl

/-- A number with enough digits reads back. -/
theorem number_padded {count n : Nat} (some_ : count ≠ 0) (fits : n < Nat.pow 10 count)
    {limit : Nat} (enough : count ≤ limit) {rest : List Char}
    (ends : count = limit ∨ Stops rest) :
    number limit (padded count n ++ rest) = some (n, rest) := by
  have length := length_padded count n
  rw [number_append (fun c => isDigit_of_mem_padded)
    (List.ne_nil_of_length_pos (by omega : 0 < (padded count n).length)) (by omega)
    (by rwa [length]), ofDigitChars_padded, Nat.mod_eq_of_lt fits]

/-! ## The parts of a time -/

/-- Blanks are looked for before a number, and a number does not begin with one. -/
theorem trimStart_padded (count n : Nat) (rest : List Char) :
    trimStart (padded (count + 1) n ++ rest) = padded (count + 1) n ++ rest := by
  cases digits : padded (count + 1) n with
  | nil => exact absurd (congrArg List.length digits) (by rw [length_padded]; nofun)
  | cons c cs =>
    have first : c ∈ padded (count + 1) n := by rw [digits]; exact List.mem_cons_self
    exact trimStart_of_isDigit _ (isDigit_of_mem_padded first)

theorem field_padded {low high n : Nat} (mem : low ≤ n ∧ n ≤ high) (fits : n < 100)
    (rest : List Char) : field low high (padded 2 n ++ rest) = some (n, rest) := by
  simp only [field, trimStart_padded, number_padded (by decide) fits (Nat.le_refl 2) (.inl rfl),
    mem, and_self, if_true]

theorem mark_cons {c : Char} (seen : isBlank c = false) (rest : List Char) :
    mark c (c :: rest) = some rest := by
  rw [mark, trimStart, List.dropWhile_cons_of_neg (by rw [seen]; decide)]
  exact if_pos rfl

theorem isDigit_of_mem_yearDigits {n : Nat} {c : Char} (h : c ∈ yearDigits n) :
    c.isDigit = true := by
  rw [yearDigits] at h
  split at h
  · exact isDigit_of_mem_padded h
  · exact Nat.isDigit_of_mem_toDigits (by decide) (by decide) h

theorem ofDigitChars_yearDigits (n : Nat) : Nat.ofDigitChars 10 (yearDigits n) 0 = n := by
  rw [yearDigits]
  split
  · rename_i fits
    rw [ofDigitChars_padded]
    exact Nat.mod_eq_of_lt fits
  · exact Nat.ofDigitChars_toDigits (by decide) (by decide)

theorem yearDigits_ne_nil (n : Nat) : yearDigits n ≠ [] := by
  rw [yearDigits]
  split
  · exact List.ne_nil_of_length_pos (by rw [length_padded]; decide)
  · exact List.ne_nil_of_length_pos Nat.length_toDigits_pos

/-- After its sign a year has as many digits as there are. -/
theorem number_yearDigits (n : Nat) {rest : List Char} (stops : Stops rest) :
    number (yearDigits n ++ rest).length (yearDigits n ++ rest) = some (n, rest) := by
  rw [number_append (fun c => isDigit_of_mem_yearDigits) (yearDigits_ne_nil n) (by simp)
    (.inr stops), ofDigitChars_yearDigits]

theorem year_minus (rest : List Char) :
    year ('-' :: rest) = (number rest.length rest).map fun r => (-(r.1 : Int), r.2) := rfl

theorem year_plus (rest : List Char) :
    year ('+' :: rest) = (number rest.length rest).map fun r => ((r.1 : Int), r.2) := rfl

theorem year_of_isDigit {c : Char} (digit : c.isDigit = true) (rest : List Char) :
    year (c :: rest) = (number 4 (c :: rest)).map fun r => ((r.1 : Int), r.2) := by
  rw [year, trimStart_of_isDigit rest digit]
  split
  · rename_i same
    cases same
    exact absurd digit (by decide)
  · rename_i same
    cases same
    exact absurd digit (by decide)
  · rfl

theorem year_padded (n : Nat) (rest : List Char) :
    year (padded 4 n ++ rest) =
      (number 4 (padded 4 n ++ rest)).map fun r => ((r.1 : Int), r.2) := by
  cases digits : padded 4 n with
  | nil => exact absurd (congrArg List.length digits) (by rw [length_padded]; nofun)
  | cons c cs =>
    have first : c ∈ padded 4 n := by rw [digits]; exact List.mem_cons_self
    exact year_of_isDigit (isDigit_of_mem_padded first) _

theorem dateEnd_T (rest : List Char) : dateEnd ('T' :: rest) = some rest := rfl

/-- A year reads back whether it has a sign or not. -/
theorem year_yearText (y : Int) {rest : List Char} (stops : Stops rest) :
    year (yearText y ++ rest) = some (y, rest) := by
  rw [yearText]
  split
  · rename_i short
    have fits : y.toNat < 10000 := by omega
    rw [year_padded, number_padded (by decide) fits (Nat.le_refl 4) (.inl rfl), Option.map_some,
      Int.toNat_of_nonneg short.1]
  · split
    · rename_i negative
      rw [List.cons_append, year_minus, number_yearDigits _ stops, Option.map_some]
      exact congrArg (fun y => some (y, rest)) (by omega)
    · rename_i nonneg
      rw [List.cons_append, year_plus, number_yearDigits _ stops, Option.map_some]
      exact congrArg (fun y => some (y, rest)) (by omega)

theorem fraction_padded {count n : Nat} (some_ : count ≠ 0) (le : count ≤ 9)
    (fits : n < Nat.pow 10 count) {rest : List Char} (stops : Stops rest) :
    fraction ('.' :: (padded count n ++ rest)) = some (n * Nat.pow 10 (9 - count), rest) := by
  have read := number_padded some_ fits le (.inr stops)
  have count_eq : (padded count n ++ rest).length - rest.length = count := by
    rw [List.length_append, length_padded, Nat.add_sub_cancel]
  have ends : rest.dropWhile (fun c => (digitValue? c).isSome) = rest := by
    cases rest with
    | nil => rfl
    | cons c rest =>
      rw [List.dropWhile_cons_of_neg]
      rw [digitValue?_of_not_isDigit (stops c rfl)]
      decide
  simp only [fraction, read, count_eq, ends, scaleFraction]

theorem fraction_fractionText {n : Nat} (fits : n < 1000000000) {rest : List Char}
    (stops : Stops rest) (noPoint : ∀ tail, rest ≠ '.' :: tail) :
    fraction (fractionText n ++ rest) = some (n, rest) := by
  rw [fractionText]
  split
  · rename_i zero
    rw [List.nil_append, fraction.eq_2 _ noPoint, zero]
  · split
    · rename_i millis
      have short : n / 1000000 < 1000 := by omega
      have whole : n / 1000000 * 1000000 = n := by omega
      rw [List.cons_append, fraction_padded (by decide) (by decide) short stops]
      exact congrArg (fun n => some (n, rest)) whole
    · split
      · rename_i micros
        have short : n / 1000 < 1000000 := by omega
        have whole : n / 1000 * 1000 = n := by omega
        rw [List.cons_append, fraction_padded (by decide) (by decide) short stops]
        exact congrArg (fun n => some (n, rest)) whole
      · rw [List.cons_append, fraction_padded (by decide) (by decide) fits stops]
        exact congrArg (fun n => some (n, rest)) (Nat.mul_one n)

/-! ## Times -/

/-- A step that reads something is followed by what comes after it. -/
theorem bind_of_eq_some {α β : Type} {step : Option α} {found : α} (read : step = some found)
    (next : α → Option β) : step.bind next = next found := by
  rw [read, Option.bind_some]

/-- A time of day reads back as the time on the clock, and the letter that ends it as no offset. -/
theorem read_parts {date : Date} (month : 1 ≤ date.month ∧ date.month ≤ 12)
    (day : 1 ≤ date.day ∧ date.day ≤ 31) {hour minute second nanos : Nat} (hours : hour ≤ 23)
    (minutes : minute ≤ 59) (seconds : second ≤ 60) (fits : nanos < 1000000000) :
    read (yearText date.year ++ '-' :: padded 2 date.month ++ '-' :: padded 2 date.day ++
      'T' :: padded 2 hour ++ ':' :: padded 2 minute ++ ':' :: padded 2 second ++
      fractionText nanos ++ ['Z']) = instant? date hour minute second nanos 0 := by
  have point : ∀ tail, ['Z'] ≠ '.' :: tail := nofun
  simp only [List.append_assoc, List.cons_append]
  refine (bind_of_eq_some (year_yearText date.year (stops_cons _ rfl)) _).trans ?_
  refine (bind_of_eq_some (mark_cons rfl _) _).trans ?_
  refine (bind_of_eq_some (field_padded month (by omega) _) _).trans ?_
  refine (bind_of_eq_some (mark_cons rfl _) _).trans ?_
  refine (bind_of_eq_some (field_padded day (by omega) _) _).trans ?_
  refine (bind_of_eq_some (dateEnd_T _) _).trans ?_
  refine (bind_of_eq_some (field_padded ⟨Nat.zero_le _, hours⟩ (by omega) _) _).trans ?_
  refine (bind_of_eq_some (mark_cons rfl _) _).trans ?_
  refine (bind_of_eq_some (field_padded ⟨Nat.zero_le _, minutes⟩ (by omega) _) _).trans ?_
  refine (bind_of_eq_some (mark_cons rfl _) _).trans ?_
  refine (bind_of_eq_some (field_padded ⟨Nat.zero_le _, seconds⟩ (by omega) _) _).trans ?_
  refine (bind_of_eq_some (fraction_fractionText fits (stops_cons [] rfl) point) _).trans ?_
  rfl

/-- The time on the clock, on its date and without an offset, is the time itself. -/
theorem instant?_eq {t : Instant} (proper : t.Proper) :
    instant? (Date.ofDayNumber (t.seconds / 86400)) ((t.seconds % 86400).toNat / 3600)
      ((t.seconds % 86400).toNat / 60 % 60)
      ((t.seconds % 86400).toNat % 60 + t.nanos / 1000000000) (t.nanos % 1000000000) 0 =
        some t := by
  obtain ⟨year, leap⟩ := proper
  obtain ⟨seconds, nanos, lt⟩ := t
  simp only at year leap ⊢
  have valid := Date.isValid_ofDayNumber year.1 year.2
  -- The second is 60 exactly in a leap second.
  have counted : (if (seconds % 86400).toNat % 60 + nanos / 1000000000 = 60 then 1 else 0) =
      nanos / 1000000000 := by
    split <;> omega
  have whole : seconds / 86400 * 86400 + (((seconds % 86400).toNat / 3600 * 3600 +
      (seconds % 86400).toNat / 60 % 60 * 60 + ((seconds % 86400).toNat % 60 +
        nanos / 1000000000 - nanos / 1000000000) : Nat) : Int) - 0 = seconds := by omega
  have fraction : nanos % 1000000000 + nanos / 1000000000 * 1000000000 = nanos := by omega
  simp only [instant?, counted, Date.dayNumber_ofDayNumber, whole, fraction]
  rw [if_pos ⟨valid, by decide, by decide, year⟩, dif_pos lt]

/-- A time that is written reads back. -/
theorem ofText?_text {t : Instant} (proper : t.Proper) : ofText? (text t) = some t := by
  have valid := Date.isValid_ofDayNumber proper.year_mem.1 proper.year_mem.2
  have leap := proper.leap
  have lt := t.nanos_lt
  have read := read_parts (Date.month_mem valid) (Date.day_mem valid)
    (show (t.seconds % 86400).toNat / 3600 ≤ 23 by omega)
    (show (t.seconds % 86400).toNat / 60 % 60 ≤ 59 by omega)
    (show (t.seconds % 86400).toNat % 60 + t.nanos / 1000000000 ≤ 60 by omega)
    (show t.nanos % 1000000000 < 1000000000 by omega)
  rw [ofText?, text, textWith, String.toList_ofList]
  exact read.trans (instant?_eq proper)

/-! ## Only these times -/

theorem digitValue?_le {c : Char} {d : Nat} (h : digitValue? c = some d) : d ≤ 9 := by
  rw [digitValue?] at h
  split at h
  · rename_i range
    have upper : c.toNat ≤ 57 := UInt32.le_iff_toNat_le.1 range.2
    have value := Option.some.inj h
    omega
  · cases h

/-- Digits make a number that is as long as they are. -/
theorem takeDigits_lt (limit acc : Nat) (cs : List Char) :
    (takeDigits limit acc cs).2.length ≤ cs.length ∧
      cs.length - (takeDigits limit acc cs).2.length ≤ limit ∧
      (takeDigits limit acc cs).1 <
        (acc + 1) * 10 ^ (cs.length - (takeDigits limit acc cs).2.length) := by
  induction limit generalizing acc cs with
  | zero => cases cs <;> simp [takeDigits]
  | succ limit ih =>
    cases cs with
    | nil => simp [takeDigits]
    | cons c cs =>
      cases value : digitValue? c with
      | none => simp [takeDigits, value]
      | some d =>
        obtain ⟨shorter, few, lt⟩ := ih (10 * acc + d) cs
        have small := digitValue?_le value
        simp only [takeDigits, value, List.length_cons]
        refine ⟨by omega, by omega, Nat.lt_of_lt_of_le lt ?_⟩
        rw [Nat.succ_sub shorter, Nat.pow_succ', ← Nat.mul_assoc]
        exact Nat.mul_le_mul_right _ (by omega)

/-- What a number of at most `limit` digits is. -/
theorem number_eq {limit : Nat} {cs rest : List Char} {n : Nat}
    (h : number limit cs = some (n, rest)) : takeDigits limit 0 cs = (n, rest) := by
  cases cs with
  | nil => cases h
  | cons c cs =>
    rw [number] at h
    split at h
    · exact Option.some.inj h
    · cases h

theorem fraction_lt {cs rest : List Char} {n : Nat} (h : fraction cs = some (n, rest)) :
    n < 1000000000 := by
  rw [fraction.eq_def] at h
  split at h
  · rename_i digits
    split at h
    · rename_i m left read
      obtain rfl : scaleFraction (digits.length - left.length) m = n :=
        congrArg Prod.fst (Option.some.inj h)
      obtain ⟨-, few, lt⟩ := takeDigits_lt 9 0 digits
      rw [number_eq read] at few lt
      rw [scaleFraction]
      calc m * 10 ^ (9 - (digits.length - left.length))
        _ < (0 + 1) * 10 ^ (digits.length - left.length) *
            10 ^ (9 - (digits.length - left.length)) :=
          Nat.mul_lt_mul_of_pos_right lt (Nat.pow_pos (by decide))
        _ = 10 ^ 9 := by
          rw [Nat.zero_add, Nat.one_mul, ← Nat.pow_add, Nat.add_sub_cancel' few]
    · cases h
  · cases h
    decide

theorem signedOffset_mod {cs rest : List Char} {off : Int}
    (h : signedOffset cs = some (off, rest)) : off % 60 = 0 := by
  simp only [signedOffset, Option.bind_eq_bind, Option.bind_eq_some_iff] at h
  obtain ⟨⟨negative, cs⟩, -, ⟨hours, cs⟩, -, ⟨minutes, cs⟩, -, h⟩ := h
  split at h
  · cases h
    cases negative <;> simp <;> omega
  · cases h

theorem offset_mod {cs rest : List Char} {off : Int} (h : offset cs = some (off, rest)) :
    off % 60 = 0 := by
  unfold offset at h
  simp only at h
  split at h
  · cases h
    rfl
  · split at h
    · cases h
      rfl
    · cases h
      rfl
    · exact signedOffset_mod h

theorem instant?_proper {date : Date} {hour minute second nanos : Nat} {off : Int} {t : Instant}
    (h : instant? date hour minute second nanos off = some t) (fits : nanos < 1000000000)
    (whole : off % 60 = 0) : t.Proper := by
  obtain ⟨leap, counted, ends⟩ : ∃ leap : Nat, (if second = 60 then 1 else 0) = leap ∧
      (leap = 0 ∨ leap = 1 ∧ second = 60) := by
    by_cases sixty : second = 60
    · exact ⟨1, if_pos sixty, .inr ⟨rfl, sixty⟩⟩
    · exact ⟨0, if_neg sixty, .inl rfl⟩
  rw [instant?, counted] at h
  split at h
  · rename_i valid
    split at h
    · have same := Option.some.inj h
      have sec := congrArg Instant.seconds same
      have nan := congrArg Instant.nanos same
      simp only at sec nan
      refine ⟨?_, fun late => ?_⟩
      · rw [← sec]
        exact valid.2.2.2
      · omega
    · cases h
  · cases h

/-- Only proper times can be read. -/
theorem proper_of_ofText? {s : String} {t : Instant} (h : ofText? s = some t) : t.Proper := by
  -- Neither the date nor the time of day matters.
  obtain ⟨⟨_, _⟩, -, h⟩ := Option.bind_eq_some_iff.1 h
  obtain ⟨_, -, h⟩ := Option.bind_eq_some_iff.1 h
  obtain ⟨⟨_, _⟩, -, h⟩ := Option.bind_eq_some_iff.1 h
  obtain ⟨_, -, h⟩ := Option.bind_eq_some_iff.1 h
  obtain ⟨⟨_, _⟩, -, h⟩ := Option.bind_eq_some_iff.1 h
  obtain ⟨_, -, h⟩ := Option.bind_eq_some_iff.1 h
  obtain ⟨⟨_, _⟩, -, h⟩ := Option.bind_eq_some_iff.1 h
  obtain ⟨_, -, h⟩ := Option.bind_eq_some_iff.1 h
  obtain ⟨⟨_, _⟩, -, h⟩ := Option.bind_eq_some_iff.1 h
  obtain ⟨_, -, h⟩ := Option.bind_eq_some_iff.1 h
  obtain ⟨⟨_, _⟩, -, h⟩ := Option.bind_eq_some_iff.1 h
  obtain ⟨⟨_, _⟩, frac, h⟩ := Option.bind_eq_some_iff.1 h
  obtain ⟨⟨_, _⟩, zone, h⟩ := Option.bind_eq_some_iff.1 h
  dsimp only at h
  split at h
  · exact instant?_proper h (fraction_lt frac) (offset_mod zone)
  · cases h

/-- A time reads back exactly if it is proper. -/
theorem ofText?_text_iff (t : Instant) : ofText? (text t) = some t ↔ t.Proper :=
  ⟨proper_of_ofText?, ofText?_text⟩

end Rfc3339

end Appraisal
