import Appraisal.Table

/-!
# Universally unique identifiers

An identifier is 128 bits.  It is written as 32 lower-case hexadecimal digits in five groups with
hyphens between them.  Reading takes digits of either case and three more spellings: the digits
without hyphens, the hyphenated form in braces, and the hyphenated form after `urn:uuid:`, also in
either case.

`readDigits_append` says that digits written out read back, and `readGroups_writeGroups` that
the hyphenated form does.  Identifiers are ordered by their bits, which is the order of their
written forms.
-/

namespace Appraisal

/-- An identifier of 128 bits. -/
structure Uuid where
  /-- The bits, the first written digit highest. -/
  bits : BitVec 128
deriving DecidableEq

namespace Uuid

instance : Ranked Uuid where
  rank u := u.bits.toNat
  rank_inj h := by
    rename_i a b
    cases a; cases b
    exact congrArg Uuid.mk (BitVec.eq_of_toNat_eq h)

instance : Inhabited Uuid := ⟨⟨0⟩⟩

/-- How many identifiers there are. -/
def count : Nat := 0x100000000000000000000000000000000

/-- The identifier made of 128 random bits: the four bits of the version say 4, the two bits of
the variant say 2, and all others are as drawn. -/
def random (drawn : Uuid) : Uuid :=
  ⟨(drawn.bits &&& 0xffffffffffff0fff3fffffffffffffff#128) |||
    0x00000000000040008000000000000000#128⟩

/-! ## Writing -/

/-- The digit of a number below 16. -/
def digit (d : Nat) : Char :=
  if d < 10 then Char.ofNat (48 + d) else Char.ofNat (87 + d)

/-- The last `count` digits of a number before some text. -/
def writeDigits : Nat → Nat → List Char → List Char
  | 0, _, rest => rest
  | count + 1, n, rest => writeDigits count (n / 16) (digit (n % 16) :: rest)

/-- How many numbers have at most so many digits. -/
def span : Nat → Nat
  | 0 => 1
  | length + 1 => 16 * span length

/-- The lengths of the groups of digits. -/
def groups : List Nat := [8, 4, 4, 4, 12]

/-- How many digits groups have together. -/
def digitCount : List Nat → Nat
  | [] => 0
  | g :: gs => g + digitCount gs

/-- A number in groups of digits with hyphens between them. -/
def writeGroups : List Nat → Nat → List Char
  | [], _ => []
  | [g], n => writeDigits g n []
  | g :: gs, n =>
    let unit := span (digitCount gs)
    writeDigits g (n / unit) ('-' :: writeGroups gs (n % unit))

/-- The hyphenated form in lower case. -/
def text (u : Uuid) : String := String.ofList (writeGroups groups u.bits.toNat)

/-! ## Reading -/

/-- The value of a digit of either case. -/
def digitValue? (c : Char) : Option Nat :=
  if '0' ≤ c ∧ c ≤ '9' then some (c.toNat - 48)
  else if 'a' ≤ c ∧ c ≤ 'f' then some (c.toNat - 87)
  else if 'A' ≤ c ∧ c ≤ 'F' then some (c.toNat - 55)
  else none

/-- Reads exactly `count` digits after those that make up `acc`. -/
def readDigits : Nat → Nat → List Char → Option (Nat × List Char)
  | 0, acc, cs => some (acc, cs)
  | _ + 1, _, [] => none
  | count + 1, acc, c :: cs =>
    match digitValue? c with
    | none => none
    | some d => readDigits count (16 * acc + d) cs

/-- Reads groups of digits with hyphens between them, to the end of the text. -/
def readGroups : List Nat → Nat → List Char → Option Nat
  | [], acc, [] => some acc
  | [], _, _ :: _ => none
  | g :: gs, acc, cs =>
    match readDigits g acc cs, gs with
    | some (n, []), [] => some n
    | some (n, '-' :: rest), _ :: _ => readGroups gs n rest
    | _, _ => none

/-- The text after the name of the identifier scheme, if it starts with that name. -/
def afterScheme? (cs : List Char) : Option (List Char) :=
  if (cs.take 9).map Char.toLower = "urn:uuid:".toList then some (cs.drop 9) else none

/-- Reads the digits of an identifier in any of the four spellings. -/
def readText (cs : List Char) : Option Nat :=
  if cs.length = 32 then readGroups [32] 0 cs
  else match afterScheme? cs with
    | some rest => readGroups groups 0 rest
    | none =>
      match cs with
      | '{' :: rest =>
        if rest.getLast? = some '}' then readGroups groups 0 rest.dropLast else none
      | _ => readGroups groups 0 cs

/-- The identifier a text spells. -/
def ofText? (text : String) : Option Uuid :=
  (readText text.toList).map fun n => ⟨BitVec.ofNat 128 n⟩

/-! ## Reading what was written -/

theorem digitValue?_digit : ∀ d < 16, digitValue? (digit d) = some d := by decide

theorem span_add (a b : Nat) : span (a + b) = span a * span b := by
  induction a with
  | zero => simp [span]
  | succ a ih => rw [Nat.succ_add, span, span, ih, Nat.mul_assoc]

theorem readDigits_append (count n acc : Nat) (tail rest : List Char) :
    readDigits (count + tail.length) acc (writeDigits count n tail ++ rest) =
      readDigits tail.length (span count * acc + n % span count) (tail ++ rest) := by
  induction count generalizing n tail with
  | zero => simp [writeDigits, span, Nat.mod_one]
  | succ count ih =>
    have h := ih (n / 16) (digit (n % 16) :: tail)
    rw [List.length_cons] at h
    rw [writeDigits, show count + 1 + tail.length = count + (tail.length + 1) by omega, h]
    simp only [List.cons_append, readDigits]
    rw [digitValue?_digit _ (Nat.mod_lt _ (by decide))]
    simp only
    congr 1
    have e1 : n % span (count + 1) = 16 * (n / 16 % span count) + n % 16 := by
      rw [span, Nat.mod_mul]
      omega
    rw [e1, span, Nat.mul_add, Nat.mul_assoc]
    omega

theorem writeDigits_append (count n : Nat) (tail rest : List Char) :
    writeDigits count n (tail ++ rest) = writeDigits count n tail ++ rest := by
  induction count generalizing n tail with
  | zero => rfl
  | succ count ih => exact ih (n / 16) (digit (n % 16) :: tail)

theorem readDigits_writeDigits (count n acc : Nat) (rest : List Char) :
    readDigits count acc (writeDigits count n rest) =
      some (span count * acc + n % span count, rest) := by
  have h := readDigits_append count n acc [] rest
  rw [← writeDigits_append] at h
  simpa [readDigits] using h

theorem readGroups_writeGroups (g : Nat) (gs : List Nat) (n acc : Nat) :
    readGroups (g :: gs) acc (writeGroups (g :: gs) n) =
      some (span (digitCount (g :: gs)) * acc + n % span (digitCount (g :: gs))) := by
  induction gs generalizing g n acc with
  | nil => simp [writeGroups, readGroups, readDigits_writeDigits, digitCount]
  | cons h t ih =>
    have first := readDigits_writeDigits g (n / span (digitCount (h :: t))) acc
      ('-' :: writeGroups (h :: t) (n % span (digitCount (h :: t))))
    have step : readGroups (g :: h :: t) acc (writeGroups (g :: h :: t) n) =
        readGroups (h :: t) (span g * acc + n / span (digitCount (h :: t)) % span g)
          (writeGroups (h :: t) (n % span (digitCount (h :: t)))) := by
      have written : writeGroups (g :: h :: t) n = writeDigits g (n / span (digitCount (h :: t)))
          ('-' :: writeGroups (h :: t) (n % span (digitCount (h :: t)))) := rfl
      rw [written, readGroups.eq_def]
      simp only [first]
    have widen : span (digitCount (g :: h :: t)) = span (digitCount (h :: t)) * span g := by
      rw [Nat.mul_comm, ← span_add, digitCount]
    rw [step, ih, Nat.mod_mod, widen, Nat.mod_mul, Nat.mul_add, Nat.mul_assoc]
    congr 1
    omega

/-- The digits of an identifier in hyphenated groups read back as its bits. -/
theorem readGroups_writeGroups_groups (u : Uuid) :
    readGroups groups 0 (writeGroups groups u.bits.toNat) = some u.bits.toNat := by
  have h := readGroups_writeGroups 8 [4, 4, 4, 12] u.bits.toNat 0
  rw [groups, h]
  have := u.bits.isLt
  rw [Nat.mul_zero, Nat.zero_add]
  exact congrArg some (Nat.mod_eq_of_lt (show u.bits.toNat < span 32 from this))

/-! ## Tests -/

example : writeGroups [2, 1] 0xabc = ['a', 'b', '-', 'c'] := by decide
example : readGroups [2, 1] 0 ['A', 'b', '-', 'C'] = some 0xabc := by decide
example : readGroups [2, 1] 0 ['a', 'b', 'c'] = none := by decide
example : (random ⟨0⟩).bits = 0x00000000000040008000000000000000#128 := by decide
example : (random ⟨-1⟩).bits = 0xffffffffffff4fffbfffffffffffffff#128 := by decide

end Uuid

end Appraisal
