import Mathlib.Tactic.Tauto
import Appraisal.Postgres.Session
import Appraisal.Proofs.Answers

/-!
# Names in statements

The calls about savepoints write a name that a client chose into a statement.  A name is let through
if it is a plain one (`checkIdentifier_ok_iff`): an ASCII letter or underscore, and then letters,
digits and underscores, 63 characters at most.  Such a name has no blank, quote, hyphen, slash or
semicolon in it, so the statement splits at its blanks into the keywords and the name, and that is
all there is in it (`names_kept_whole`).

The check comes before anything else.  A session that was given back has no connection to send a
statement over, so it refuses a plain name too, with a failure of its own
(`plain_name_refused`).
-/

namespace Appraisal

/-! ## Plain names -/

/-- An ASCII letter or an underscore. -/
def IsNameStart (c : Char) : Prop := 'a' ≤ c ∧ c ≤ 'z' ∨ 'A' ≤ c ∧ c ≤ 'Z' ∨ c = '_'

/-- An ASCII letter, a digit or an underscore. -/
def IsNamePart (c : Char) : Prop := IsNameStart c ∨ '0' ≤ c ∧ c ≤ '9'

/-- A name as a statement may hold it. -/
structure PlainName (name : String) : Prop where
  one_le : 1 ≤ name.length
  length_le : name.length ≤ 63
  start : ∀ c, name.toList.head? = some c → IsNameStart c
  parts : ∀ c ∈ name.toList, IsNamePart c

theorem isIdentifierStart_iff {c : Char} : isIdentifierStart c = true ↔ IsNameStart c := by
  have upper : c.isUpper = true ↔ 'A' ≤ c ∧ c ≤ 'Z' := decide_eq_true_iff
  have lower : c.isLower = true ↔ 'a' ≤ c ∧ c ≤ 'z' :=
    Bool.and_eq_true_iff.trans (and_congr decide_eq_true_iff decide_eq_true_iff)
  show (c.isUpper || c.isLower || c == '_') = true ↔ _
  rw [Bool.or_eq_true, Bool.or_eq_true, upper, lower, beq_iff_eq, IsNameStart]
  tauto

theorem isIdentifierPart_iff {c : Char} : isIdentifierPart c = true ↔ IsNamePart c := by
  have start : (c.isAlpha || c == '_') = true ↔ IsNameStart c := isIdentifierStart_iff
  have digit : c.isDigit = true ↔ '0' ≤ c ∧ c ≤ '9' := by
    simp only [Char.isDigit, Bool.and_eq_true, decide_eq_true_eq, Char.le_def]
  rw [IsNamePart, ← start, ← digit, isIdentifierPart, Char.isAlphanum]
  simp only [Bool.or_eq_true]
  tauto

/-- The character is one of ASCII, so it takes one byte. -/
theorem IsNamePart.utf8Size {c : Char} (h : IsNamePart c) : c.utf8Size = 1 := by
  have below : ∀ {d : Char}, c ≤ d → d.val ≤ 127 → c.utf8Size = 1 := fun le small =>
    Char.utf8Size_eq_one_iff.2 (UInt32.le_trans (Char.le_def.1 le) small)
  rcases h with (⟨-, le⟩ | ⟨-, le⟩ | rfl) | ⟨-, le⟩
  · exact below le (by decide)
  · exact below le (by decide)
  · rfl
  · exact below le (by decide)

/-- A text of such characters has as many bytes as characters. -/
theorem utf8ByteSize_of_parts {name : String} (h : ∀ c ∈ name.toList, IsNamePart c) :
    name.utf8ByteSize = name.length := by
  have count : ∀ cs : List Char, (∀ c ∈ cs, IsNamePart c) →
      (String.ofList cs).utf8ByteSize = cs.length := by
    intro cs
    induction cs with
    | nil => exact fun _ => rfl
    | cons c cs ih =>
      intro all
      rw [String.ofList_cons, String.utf8ByteSize_append, String.utf8ByteSize_singleton,
        (all c List.mem_cons_self).utf8Size, ih fun d hd => all d (List.mem_cons_of_mem c hd),
        List.length_cons, Nat.add_comm]
  have same := count name.toList h
  rwa [String.ofList_toList, String.length_toList] at same

theorem isIdentifier_iff {name : String} : isIdentifier name = true ↔ PlainName name := by
  rw [isIdentifier, Bool.and_eq_true, decide_eq_true_eq]
  constructor
  · rintro ⟨text, short⟩
    cases chars : name.toList with
    | nil => simp [chars, isIdentifierText] at text
    | cons c cs =>
      rw [chars, isIdentifierText, Bool.and_eq_true, List.all_eq_true] at text
      have first := isIdentifierStart_iff.1 text.1
      have parts : ∀ d ∈ name.toList, IsNamePart d := by
        rw [chars]
        exact fun d hd => (List.mem_cons.1 hd).elim (· ▸ .inl first) fun later =>
          isIdentifierPart_iff.1 (text.2 d later)
      refine ⟨?_, ?_, ?_, parts⟩
      · rw [← String.length_toList, chars, List.length_cons]
        omega
      · rwa [utf8ByteSize_of_parts parts] at short
      · rw [chars]
        rintro d ⟨⟩
        exact first
  · intro plain
    refine ⟨?_, (utf8ByteSize_of_parts plain.parts).symm ▸ plain.length_le⟩
    cases chars : name.toList with
    | nil =>
      have positive := plain.one_le
      rw [← String.length_toList, chars] at positive
      cases positive
    | cons c cs =>
      have first := plain.start c (by rw [chars]; rfl)
      rw [isIdentifierText, Bool.and_eq_true, List.all_eq_true]
      exact ⟨isIdentifierStart_iff.2 first, fun d hd =>
        isIdentifierPart_iff.2 (plain.parts d (chars ▸ List.mem_cons_of_mem c hd))⟩

theorem checkIdentifier_ok_iff {name : String} : checkIdentifier name = .ok () ↔ PlainName name :=
  checkIdentifier_eq_ok_iff.trans isIdentifier_iff

theorem checkIdentifier_error {name : String} (not : ¬ PlainName name) :
    checkIdentifier name = .error (.invalidIdentifier name) := by
  rw [checkIdentifier, if_neg (mt isIdentifier_iff.1 not)]

/-- Characters of names are no blanks. -/
theorem IsNamePart.ne_blank {c : Char} (h : IsNamePart c) : c ≠ ' ' := by
  rintro rfl
  rcases h with (⟨le, -⟩ | ⟨le, -⟩ | same) | ⟨le, -⟩
  · exact absurd le (by decide)
  · exact absurd le (by decide)
  · exact absurd same (by decide)
  · exact absurd le (by decide)

namespace Postgres

/-! ## Statements with a name -/

/-- What stands in texts with a separator between them. -/
theorem mem_of_mem_intercalate {sep : List Char} {words : List (List Char)} {c : Char}
    (mem : c ∈ sep.intercalate words) : c ∈ sep ∨ ∃ word ∈ words, c ∈ word := by
  induction words with
  | nil => cases mem
  | cons word words ih =>
    cases words with
    | nil => exact .inr ⟨word, List.mem_cons_self, by simpa using mem⟩
    | cons next words =>
      rw [List.intercalate_cons_cons, List.append_assoc, List.mem_append, List.mem_append] at mem
      rcases mem with here | between | later
      · exact .inr ⟨word, List.mem_cons_self, here⟩
      · exact .inl between
      · exact (ih later).imp_right fun ⟨w, listed, inside⟩ =>
          ⟨w, List.mem_cons_of_mem word listed, inside⟩

/-- A call about a savepoint. -/
inductive PointCall
  | set | remove | goBack
deriving DecidableEq

namespace PointCall

/-- The call with a name. -/
def call (name : String) : PointCall → SessionCall
  | set => .savepoint name
  | remove => .releaseSavepoint name
  | goBack => .rollbackToSavepoint name

/-- What stands before the name in the statement of the call. -/
def keywords : PointCall → List String
  | set => ["SAVEPOINT"]
  | remove => ["RELEASE", "SAVEPOINT"]
  | goBack => ["ROLLBACK", "TO", "SAVEPOINT"]

/-- The statement of the call. -/
def statement (name : String) : PointCall → Statement
  | set => .savepoint name
  | remove => .releaseSavepoint name
  | goBack => .rollbackToSavepoint name

/-- The statement is its keywords and the name with blanks between them. -/
theorem text_statement (point : PointCall) (name : String) :
    (point.statement name).text = " ".intercalate (point.keywords ++ [name]) := by
  cases point <;>
    simp only [keywords, List.cons_append, List.nil_append, String.intercalate_cons_cons,
      String.intercalate_singleton, ← String.append_assoc] <;>
    rfl

/-- The keywords are made of letters. -/
theorem parts_keywords (point : PointCall) :
    ∀ word ∈ point.keywords, ∀ c ∈ word.toList, IsNamePart c := by
  have all : ∀ word ∈ point.keywords, word.toList.all isIdentifierPart = true := by
    cases point <;> decide
  intro word mem c hc
  have part : isIdentifierPart c = true := List.all_eq_true.1 (all word mem) c hc
  exact isIdentifierPart_iff.1 part

/-- With a plain name, every word is made of characters of names. -/
theorem parts_words (point : PointCall) {name : String} (plain : PlainName name) :
    ∀ word ∈ (point.keywords ++ [name]).map String.toList, ∀ c ∈ word, IsNamePart c := by
  intro word mem
  obtain ⟨text, listed, rfl⟩ := List.mem_map.1 mem
  rcases List.mem_append.1 listed with keyword | last
  · exact point.parts_keywords text keyword
  · rw [List.mem_singleton.1 last]
    exact plain.parts

/-- The statement falls into its keywords and the name. -/
theorem splitOn_text (point : PointCall) {name : String} (plain : PlainName name) :
    (point.statement name).text.toList.splitOn ' ' =
      (point.keywords ++ [name]).map String.toList := by
  rw [text_statement, String.toList_intercalate]
  refine List.splitOn_intercalate ' ' (fun word mem blank => ?_) (by simp)
  exact (point.parts_words plain word mem ' ' blank).ne_blank rfl

/-- Beside the blanks there are only characters of names in it. -/
theorem parts_text (point : PointCall) {name : String} (plain : PlainName name) :
    ∀ c ∈ (point.statement name).text.toList, c = ' ' ∨ IsNamePart c := by
  intro c mem
  rw [text_statement, String.toList_intercalate] at mem
  rcases mem_of_mem_intercalate mem with blank | ⟨word, listed, mem⟩
  · exact .inl (List.mem_singleton.1 blank)
  · exact .inr (point.parts_words plain word listed c mem)

end PointCall

/-! ## What is sent -/

section

variable {s : Session} {name : String}

/-- A name that is not plain is turned down before anything is sent. -/
theorem answer_pointCall_of_not_plain (not : ¬ PlainName name) (point : PointCall) :
    s.answer (point.call name) = pure (.error (.invalidIdentifier name), s) := by
  have refused (statement : String → Statement) :
      s.keeping (s.executeNamed name statement) = pure (.error (.invalidIdentifier name), s) := by
    rw [Session.executeNamed, checkIdentifier_error not]
    rfl
  cases point <;> exact refused _

/-- Without a connection there is nothing to send the statement over. -/
theorem answer_pointCall_of_released (plain : PlainName name) (released : s.connected = false)
    (point : PointCall) : s.answer (point.call name) = pure (.error alreadyReleased, s) := by
  have refused (statement : String → Statement) :
      s.keeping (s.executeNamed name statement) = pure (.error alreadyReleased, s) := by
    rw [Session.executeNamed, checkIdentifier_ok_iff.2 plain, Session.execute, Session.send,
      released]
    rfl
  cases point <;> exact refused _

/-- A plain name goes into one statement, and its answer is all that is waited for. -/
theorem answer_pointCall_of_plain (plain : PlainName name) (connected : s.connected = true)
    (point : PointCall) :
    ∃ result : Except Failure Reply → (point.call name).Answer,
      s.answer (point.call name) =
        .call (.send ⟨point.statement name, []⟩) fun reply => pure (result reply, s) := by
  have sends (statement : String → Statement) :
      s.keeping (s.executeNamed name statement) =
        .call (.send ⟨statement name, []⟩) fun reply => pure (reply.map fun _ => (), s) := by
    rw [Session.executeNamed, checkIdentifier_ok_iff.2 plain, Session.execute, Session.send,
      connected]
    refine congrArg (Program.call _) (funext fun reply => ?_)
    cases reply <;> rfl
  cases point <;> exact ⟨fun reply => reply.map fun _ => (), sends _⟩

end

/-- A name is let through exactly if it is plain.  Whoever answers its statements, a session that is
asked for a call about a savepoint turns a name down that is not plain and sends nothing, or it was
given back and says so and sends nothing, or it sends one statement.  That statement falls into the
keywords of the call and the name, at its blanks, and all other characters in it are letters, digits
and underscores. -/
theorem names_kept_whole :
    (∀ name, checkIdentifier name = .ok () ↔ PlainName name) ∧
    ∀ (σ : Type) (server : (request : Request) → σ → request.Answer × σ) (state : σ) (s : Session)
      (point : PointCall) (name : String),
      let outcome := (Program.run server (s.answer (point.call name)) state).1
      let sent := Program.asked server (s.answer (point.call name)) state
      outcome.2 = s ∧
        (¬ PlainName name ∧ outcome.1 = .error (.invalidIdentifier name) ∧ sent = [] ∨
          PlainName name ∧ s.connected = false ∧ outcome.1 = .error alreadyReleased ∧ sent = [] ∨
          PlainName name ∧ s.connected = true ∧
            ∃ statement, sent = [.send ⟨statement, []⟩] ∧
              statement.text.toList.splitOn ' ' = (point.keywords ++ [name]).map String.toList ∧
              ∀ c ∈ statement.text.toList, c = ' ' ∨ IsNamePart c) := by
  refine ⟨fun name => checkIdentifier_ok_iff, ?_⟩
  intro σ server state s point name outcome sent
  by_cases plain : PlainName name
  · cases connected : s.connected with
    | false =>
      simp only [outcome, sent, answer_pointCall_of_released plain connected point]
      exact ⟨rfl, .inr (.inl ⟨plain, trivial, rfl, rfl⟩)⟩
    | true =>
      obtain ⟨result, sends⟩ := answer_pointCall_of_plain plain connected point
      simp only [outcome, sent, sends]
      exact ⟨rfl, .inr (.inr ⟨plain, trivial, point.statement name, rfl, point.splitOn_text plain,
        point.parts_text plain⟩)⟩
  · simp only [outcome, sent, answer_pointCall_of_not_plain plain point]
    exact ⟨rfl, .inl ⟨plain, rfl, rfl⟩⟩

/-- A server that carries everything out. -/
def obliging : (request : Request) → Unit → request.Answer × Unit
  | .acquire, _ => (.ok (), ())
  | .send _, _ => (.ok ⟨[], 0⟩, ())
  | .draw, _ => ((default : Uuid), ())

/-- A session that was given back refuses a plain name for another reason than the name, and sends
nothing. -/
theorem plain_name_refused :
    let s := (Program.run obliging (default : Session).release ()).1.2
    let outcome := (Program.run obliging (s.answer (.savepoint "sp")) ()).1
    let sent := Program.asked obliging (s.answer (.savepoint "sp")) ()
    PlainName "sp" ∧
      ¬ (outcome.1 = .error (.invalidIdentifier "sp") ∧ sent = [] ∨
        ∃ bound, sent = [.send bound]) := by
  refine ⟨isIdentifier_iff.1 (by decide), ?_⟩
  rintro (⟨failed, -⟩ | ⟨bound, sent⟩)
  · cases failed
  · cases sent

end Postgres

end Appraisal
