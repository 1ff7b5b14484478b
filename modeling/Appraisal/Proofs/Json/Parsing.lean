import Appraisal.Json.Reader
import Appraisal.Json.Writer

/-!
# JSON texts read back

The text of a value reads back as the value (`Json.parse?_text`), if it has no numbers and every
string in it has a text (`Json.Plain`).  So two such values never share a text.

*Strings.*  What stands for a character reads back as its code point (`stringUnits_escapeChar`), and
no code point is half of a surrogate pair.

*Values.*  The text of a value starts with a character that is no gap and closes nothing
(`Opens`).  From this and the budget of two steps for each character, `readValue_text` follows by
induction on the value, together with its counterparts for items and members.
-/

namespace Appraisal.Json

/-! ## Strings -/

theorem hexValue?_hexDigit : ∀ d < 16, hexValue? (hexDigit d) = some d := by decide

theorem stringUnits_escapeChar (c : Char) (rest : List Char) :
    stringUnits (escapeChar c ++ rest) = (stringUnits rest).map fun r => (c.toNat :: r.1, r.2) := by
  unfold escapeChar
  split
  · subst c; rfl
  split
  · subst c; rfl
  split
  · subst c; rfl
  split
  · subst c; rfl
  split
  · subst c; rfl
  split
  · subst c; rfl
  split
  · subst c; rfl
  split
  · have high := hexValue?_hexDigit (c.toNat / 16) (by omega)
    have low := hexValue?_hexDigit (c.toNat % 16) (by omega)
    have zero : hexValue? '0' = some 0 := rfl
    have whole : c.toNat / 16 * 16 + c.toNat % 16 = c.toNat := by omega
    simp only [List.cons_append, List.nil_append, stringUnits, hex4?, zero, high, low,
      Option.bind_eq_bind, Option.bind_some, Nat.zero_mul, Nat.zero_add, whole]
  · rename_i quote backslash _ _ _ _ _ control
    rw [List.singleton_append, stringUnits.eq_5 c rest (fun same => quote same)
      (fun _ _ _ _ _ same => absurd same backslash) (fun _ _ same => absurd same backslash),
      if_neg control]

theorem stringUnits_flatMap (cs rest : List Char) :
    stringUnits (cs.flatMap escapeChar ++ '"' :: rest) = some (cs.map Char.toNat, rest) := by
  induction cs with
  | nil => rfl
  | cons c cs ih =>
    rw [List.flatMap_cons, List.append_assoc, stringUnits_escapeChar, ih]
    rfl

theorem joinHalves_map_toNat (cs : List Char) : joinHalves (cs.map Char.toNat) = some cs := by
  induction cs with
  | nil => rfl
  | cons c cs ih =>
    have valid : c.toNat < 0xD800 ∨ 0xDFFF < c.toNat := c.valid.imp_right And.left
    have low : isLowHalf c.toNat = false := by
      simp only [isLowHalf, Bool.and_eq_false_iff, decide_eq_false_iff_not]
      omega
    have high : isHighHalf c.toNat = false := by
      simp only [isHighHalf, Bool.and_eq_false_iff, decide_eq_false_iff_not]
      omega
    rw [List.map_cons, joinHalves.eq_def]
    simp only [low, high, Bool.false_eq_true, if_false, ih, Option.map_some, Char.ofNat_toNat]

/-- A string reads back. -/
theorem readString_text (s : String) (rest : List Char) :
    readString (s.toList.flatMap escapeChar ++ '"' :: rest) = some (some s, rest) := by
  simp only [readString, stringUnits_flatMap, joinHalves_map_toNat, Option.map_some,
    String.ofList_toList]

/-! ## Values that read back -/

/-- There are no numbers, and every string has a text. -/
inductive Plain : Json → Prop
  | null : Plain .null
  | bool (b : Bool) : Plain (.bool b)
  | string (s : String) : Plain (.ofString s)
  | array {items : List Json} (all : ∀ item ∈ items, Plain item) : Plain (.array items)
  | object {members : List (Option String × Json)} (named : ∀ m ∈ members, m.1.isSome)
      (all : ∀ m ∈ members, Plain m.2) : Plain (.object members)

/-- A text starts with a character that is no gap and closes nothing. -/
def Opens (cs : List Char) : Prop :=
  ∃ c rest, cs = c :: rest ∧ isGap c = false ∧ c ≠ ']' ∧ c ≠ '}'

theorem toList_writeString (s : String) :
    (writeString (some s)).toList = '"' :: (s.toList.flatMap escapeChar ++ ['"']) :=
  String.toList_ofList

theorem toList_array (items : List Json) :
    (text (.array items)).toList = '[' :: ((itemsText items).toList ++ [']']) := by
  simp [text]

theorem toList_object (members : List (Option String × Json)) :
    (text (.object members)).toList = '{' :: ((membersText members).toList ++ ['}']) := by
  simp [text]

theorem opens_text {j : Json} (plain : Plain j) : Opens (text j).toList := by
  cases plain with
  | null => exact ⟨'n', _, rfl, by decide⟩
  | bool b => cases b <;> exact ⟨_, _, rfl, by decide⟩
  | string s => exact ⟨'"', _, toList_writeString s, by decide⟩
  | array all => exact ⟨'[', _, toList_array _, by decide⟩
  | object named all => exact ⟨'{', _, toList_object _, by decide⟩

theorem toList_items_cons (a b : Json) (items : List Json) :
    (itemsText (a :: b :: items)).toList =
      (text a).toList ++ ',' :: (itemsText (b :: items)).toList := by
  simp [itemsText]

theorem toList_member (name : String) (value : Json) :
    (membersText [(some name, value)]).toList =
      '"' :: (name.toList.flatMap escapeChar ++ '"' :: ':' :: (text value).toList) := by
  simp [membersText, toList_writeString]

theorem toList_members_cons (name : String) (value : Json) (m : Option String × Json)
    (members : List (Option String × Json)) :
    (membersText ((some name, value) :: m :: members)).toList =
      '"' :: (name.toList.flatMap escapeChar ++ '"' :: ':' ::
        ((text value).toList ++ ',' :: (membersText (m :: members)).toList)) := by
  simp [membersText, toList_writeString]

/-! ## Single steps of the reader -/

theorem skipGap_cons {c : Char} (gap : isGap c = false) (cs : List Char) :
    skipGap (c :: cs) = c :: cs :=
  List.dropWhile_cons_of_neg (by rw [gap]; decide)

theorem readValue_string (budget : Nat) (cs : List Char) :
    readValue (budget + 1) ('"' :: cs) = (readString cs).map fun r => (.string r.1, r.2) := rfl

theorem readValue_array (budget : Nat) {cs : List Char} (opens : Opens cs) :
    readValue (budget + 1) ('[' :: cs) = (readItems budget cs).map fun r => (.array r.1, r.2) := by
  obtain ⟨c, rest, rfl, gap, bracket, -⟩ := opens
  simp only [readValue, skipGap_cons (show isGap '[' = false from rfl), skipGap_cons gap]
  split
  · rename_i same
    exact absurd (List.cons.inj same).1 bracket
  · rfl

theorem readValue_object (budget : Nat) (cs : List Char) :
    readValue (budget + 1) ('{' :: '"' :: cs) =
      (readMembers budget ('"' :: cs)).map fun r => (.object r.1, r.2) := rfl

/-- The reader of members at the last one. -/
theorem readMembers_last (budget : Nat) (name : String) {value : Json} {cs rest : List Char}
    (read : readValue budget cs = some (value, '}' :: rest)) :
    readMembers (budget + 1) ('"' :: (name.toList.flatMap escapeChar ++ '"' :: ':' :: cs)) =
      some ([(some name, value)], rest) := by
  simp only [readMembers, skipGap_cons (show isGap '"' = false from rfl), readString_text,
    skipGap_cons (show isGap ':' = false from rfl), read,
    skipGap_cons (show isGap '}' = false from rfl)]

/-- The reader of members at one that is followed by others. -/
theorem readMembers_more (budget : Nat) (name : String) {value : Json} {cs rest : List Char}
    (read : readValue budget cs = some (value, ',' :: rest)) :
    readMembers (budget + 1) ('"' :: (name.toList.flatMap escapeChar ++ '"' :: ':' :: cs)) =
      (readMembers budget rest).map fun r => ((some name, value) :: r.1, r.2) := by
  simp only [readMembers, skipGap_cons (show isGap '"' = false from rfl), readString_text,
    skipGap_cons (show isGap ':' = false from rfl), read,
    skipGap_cons (show isGap ',' = false from rfl)]

theorem readValue_null (budget : Nat) (rest : List Char) :
    readValue (budget + 1) ((text .null).toList ++ rest) = some (.null, rest) := rfl

theorem readValue_bool (budget : Nat) (b : Bool) (rest : List Char) :
    readValue (budget + 1) ((text (.bool b)).toList ++ rest) = some (.bool b, rest) := by
  cases b <;> rfl

/-! ## Reading what was written -/

/-- The text of the value reads back with two steps for each of its characters. -/
def Reads (j : Json) : Prop :=
  ∀ budget rest, 2 * (text j).toList.length ≤ budget →
    readValue budget ((text j).toList ++ rest) = some (j, rest)

/-- A text is not empty, so reading it begins with one step. -/
theorem reads_of_succ {j : Json} (plain : Plain j)
    (h : ∀ budget rest, 2 * (text j).toList.length ≤ budget + 1 →
      readValue (budget + 1) ((text j).toList ++ rest) = some (j, rest)) : Reads j := by
  intro budget rest enough
  cases budget with
  | zero =>
    obtain ⟨c, cs, starts, -⟩ := opens_text plain
    rw [starts] at enough
    exact absurd enough (Nat.not_le_of_lt (Nat.succ_pos _))
  | succ budget => exact h budget rest enough

theorem readItems_text {items : List Json} (nonempty : items ≠ [])
    (all : ∀ item ∈ items, Reads item) (budget : Nat) (rest : List Char)
    (enough : 2 * (itemsText items).toList.length < budget) :
    readItems budget ((itemsText items).toList ++ ']' :: rest) = some (items, rest) := by
  induction items generalizing budget with
  | nil => exact absurd rfl nonempty
  | cons item items ih =>
    obtain ⟨budget, rfl⟩ := Nat.exists_eq_succ_of_ne_zero (Nat.ne_zero_of_lt enough)
    cases items with
    | nil =>
      have read := all item List.mem_cons_self budget (']' :: rest) (Nat.le_of_lt_succ enough)
      simp only [itemsText, readItems, read]
      rfl
    | cons next items =>
      rw [toList_items_cons, List.length_append, List.length_cons] at enough
      have first := all item List.mem_cons_self budget
        (',' :: ((itemsText (next :: items)).toList ++ ']' :: rest)) (by omega)
      have others := ih nofun (fun x hx => all x (List.mem_cons_of_mem _ hx)) budget (by omega)
      rw [toList_items_cons, List.append_assoc, List.cons_append, readItems, first]
      show (readItems budget _).map _ = _
      rw [others]
      rfl

theorem readMembers_text {members : List (Option String × Json)} (nonempty : members ≠ [])
    (named : ∀ m ∈ members, m.1.isSome) (all : ∀ m ∈ members, Reads m.2) (budget : Nat)
    (rest : List Char) (enough : 2 * (membersText members).toList.length < budget) :
    readMembers budget ((membersText members).toList ++ '}' :: rest) = some (members, rest) := by
  induction members generalizing budget with
  | nil => exact absurd rfl nonempty
  | cons m members ih =>
    obtain ⟨name, value⟩ := m
    obtain ⟨name, rfl⟩ := Option.isSome_iff_exists.1 (named _ List.mem_cons_self)
    obtain ⟨budget, rfl⟩ := Nat.exists_eq_succ_of_ne_zero (Nat.ne_zero_of_lt enough)
    cases members with
    | nil =>
      rw [toList_member] at enough ⊢
      simp only [List.length_cons, List.length_append] at enough
      have read : readValue budget ((text value).toList ++ '}' :: rest) = _ :=
        all _ List.mem_cons_self budget _ (by simp only; omega)
      rw [List.cons_append, List.append_assoc, List.cons_append, List.cons_append,
        readMembers_last budget name read]
    | cons next members =>
      rw [toList_members_cons] at enough ⊢
      simp only [List.length_cons, List.length_append] at enough
      have read : readValue budget ((text value).toList ++
          (',' :: ((membersText (next :: members)).toList ++ '}' :: rest))) = _ :=
        all _ List.mem_cons_self budget _ (by simp only; omega)
      have others := ih nofun (fun m hm => named m (List.mem_cons_of_mem _ hm))
        (fun m hm => all m (List.mem_cons_of_mem _ hm)) budget (by omega)
      rw [List.cons_append, List.append_assoc, List.cons_append, List.cons_append,
        List.append_assoc, List.cons_append, readMembers_more budget name read, others,
        Option.map_some]

/-- The text of items starts with that of the first one. -/
theorem opens_items {item : Json} (plain : Plain item) (items : List Json) (rest : List Char) :
    Opens ((itemsText (item :: items)).toList ++ rest) := by
  obtain ⟨c, cs, starts, opens⟩ := opens_text plain
  cases items with
  | nil =>
    rw [itemsText, starts]
    exact ⟨c, _, rfl, opens⟩
  | cons next items =>
    rw [toList_items_cons, starts]
    exact ⟨c, _, rfl, opens⟩

theorem members_quote (name : String) (value : Json) (members : List (Option String × Json)) :
    ∃ cs, (membersText ((some name, value) :: members)).toList = '"' :: cs := by
  cases members with
  | nil => exact ⟨_, toList_member name value⟩
  | cons next members => exact ⟨_, toList_members_cons name value next members⟩

theorem reads_of_plain {j : Json} (plain : Plain j) : Reads j := by
  induction plain with
  | null => exact reads_of_succ .null fun budget rest _ => readValue_null budget rest
  | bool b => exact reads_of_succ (.bool b) fun budget rest _ => readValue_bool budget b rest
  | string s =>
    refine reads_of_succ (.string s) fun budget rest _ => ?_
    rw [ofString, text, toList_writeString, List.cons_append, List.append_assoc,
      readValue_string, List.singleton_append, readString_text, Option.map_some]
  | @array items all ih =>
    refine reads_of_succ (.array all) fun budget rest enough => ?_
    cases items with
    | nil => rfl
    | cons item items =>
      rw [toList_array] at enough ⊢
      simp only [List.length_cons, List.length_append, List.length_nil] at enough
      have read := readItems_text (List.cons_ne_nil item items) ih budget rest (by omega)
      rw [List.cons_append, List.append_assoc, List.singleton_append,
        readValue_array budget (opens_items (all item List.mem_cons_self) items _), read,
        Option.map_some]
  | @object members named all ih =>
    refine reads_of_succ (.object named all) fun budget rest enough => ?_
    cases members with
    | nil => rfl
    | cons m members =>
      obtain ⟨name, value⟩ := m
      obtain ⟨name, rfl⟩ := Option.isSome_iff_exists.1 (named _ List.mem_cons_self)
      rw [toList_object] at enough ⊢
      simp only [List.length_cons, List.length_append, List.length_nil] at enough
      have read := readMembers_text (List.cons_ne_nil _ members) named ih budget rest (by omega)
      obtain ⟨cs, quoted⟩ := members_quote name value members
      rw [quoted] at read
      rw [List.cons_append, List.append_assoc, List.singleton_append, quoted, List.cons_append,
        readValue_object, ← List.cons_append, read, Option.map_some]

/-- A value without numbers whose strings have texts reads back from its text. -/
theorem parse?_text {j : Json} (plain : Plain j) : parse? (text j) = some j := by
  have read := reads_of_plain plain (2 * (text j).toList.length + 2) [] (by omega)
  rw [List.append_nil] at read
  simp only [parse?, read, List.all_nil, if_true]

end Appraisal.Json
