/-!
# Blank text

Blank characters are those with the Unicode property White_Space.  Comments that hold nothing else
count as missing, and times may carry blanks between their parts.

`isBlank_of_isWhitespace` says that the blanks include every character that ASCII calls white
space.  `trimStart_append` says that dropping the leading blanks loses nothing else.
-/

namespace Appraisal.Text

/-- The character has the property White_Space. -/
def isBlank (c : Char) : Bool :=
  let n := c.toNat
  (9 ≤ n && n ≤ 13) || n == 0x20 || n == 0x85 || n == 0xA0 || n == 0x1680 ||
    (0x2000 ≤ n && n ≤ 0x200A) || n == 0x2028 || n == 0x2029 || n == 0x202F || n == 0x205F ||
    n == 0x3000

/-- The text without its leading blanks. -/
def trimStart (cs : List Char) : List Char := cs.dropWhile isBlank

/-- The text holds no character but blanks. -/
def allBlank (text : String) : Bool := text.toList.all isBlank

/-! ## Laws -/

theorem isBlank_of_isWhitespace (c : Char) (h : c.isWhitespace = true) : isBlank c = true := by
  simp only [Char.isWhitespace, Bool.or_eq_true, decide_eq_true_eq] at h
  rcases h with ((rfl | rfl) | rfl) | rfl <;> decide

theorem trimStart_append (cs : List Char) : cs.takeWhile isBlank ++ trimStart cs = cs :=
  List.takeWhile_append_dropWhile

/-! ## Tests -/

example : allBlank "" = true := by decide
example : allBlank " \t\u3000" = true := by decide
example : allBlank " x " = false := by decide
example : isBlank '\u200b' = false := by decide

end Appraisal.Text
