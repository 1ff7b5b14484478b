import Appraisal.Proofs.Postgres.Writing

/-!
# Rows that come back

Every row that is written is read back (`rows_come_back`), but for two things.  A record that is
saved over a stored one keeps the time at which that one was made.  Times are cut off to whole
microseconds.

Reading a row fails in one way only (`Decodes`).  A literal that names nothing is such a failure, in
whichever order the columns are read.
-/

namespace Appraisal.Postgres

/-! ## Failing to read -/

/-- Reading fails in one way only. -/
def Decodes {α : Type} (x : Except Failure α) : Prop := ∀ f, x = .error f → ∃ m, f = .decode m

section

variable {α β : Type} {x : Except Failure α}

theorem Decodes.ok (a : α) : Decodes (Except.ok a : Except Failure α) := nofun

theorem Decodes.error (m : String) : Decodes (Except.error (.decode m) : Except Failure α) := by
  rintro f failed
  cases failed
  exact ⟨m, rfl⟩

theorem Decodes.bind {next : α → Except Failure β} (first : Decodes x)
    (then_ : ∀ a, Decodes (next a)) : Decodes (x >>= next) := by
  cases x with
  | error e =>
    rintro f failed
    cases failed
    exact first e rfl
  | ok a => exact then_ a

theorem Decodes.error_of_ne_ok (h : Decodes x) (fails : ∀ a, x ≠ .ok a) :
    ∃ m, x = .error (.decode m) := by
  cases x with
  | error f =>
    obtain ⟨m, rfl⟩ := h f rfl
    exact ⟨m, rfl⟩
  | ok a => exact absurd rfl (fails a)

theorem bind_eq_ok_iff {next : α → Except Failure β} {b : β} :
    (x >>= next) = .ok b ↔ ∃ a, x = .ok a ∧ next a = .ok b := by
  cases x with
  | error f => exact ⟨nofun, nofun⟩
  | ok a =>
    constructor
    · exact fun read => ⟨a, rfl, read⟩
    · rintro ⟨_, ⟨rfl⟩, read⟩
      exact read

theorem decodes_value [CellType α] (label column : String) (cell : Cell) :
    Decodes (decodeValue label column cell : Except Failure α) := by
  unfold decodeValue
  split
  · exact .ok _
  · exact .error _

theorem decodes_read [CellType α] (row : Row) (name : String) :
    Decodes (row.read name : Except Failure α) := by
  unfold Row.read
  split
  · exact .error _
  · unfold decodeCell
    split
    · exact .error _
    · exact decodes_value _ _ _

theorem decodes_readOptional [CellType α] (row : Row) (name : String) :
    Decodes (row.readOptional name : Except Failure (Option α)) := by
  unfold Row.readOptional
  split
  · exact .error _
  · exact .ok _
  · exact (decodes_value _ _ _).bind fun _ => .ok _

theorem decodes_readLiteral [Literal α] (text : String) :
    Decodes (readLiteral text : Except Failure α) := by
  unfold readLiteral
  split
  · exact .ok _
  · exact .error _

end

theorem decodes_readStep (row : Row) (step : Step) : Decodes (readStep row step) :=
  (decodes_read row _).bind fun _ => (decodes_readOptional row _).bind fun _ =>
    (decodes_readLiteral _).bind fun _ => (decodes_readOptional row _).bind fun _ => .ok _

theorem decodes_readRecord (row : Row) : Decodes (readRecord row) :=
  (decodes_read row _).bind fun _ => (decodes_read row _).bind fun _ =>
    (decodes_read row _).bind fun _ => (decodes_readStep row _).bind fun _ =>
      (decodes_readStep row _).bind fun _ => (decodes_readStep row _).bind fun _ =>
        (decodes_readStep row _).bind fun _ => .ok _

theorem decodes_readRequest (row : Row) : Decodes (readRequest row) :=
  (decodes_read row _).bind fun _ => (decodes_read row _).bind fun _ =>
    (decodes_read row _).bind fun _ => (decodes_read row _).bind fun _ =>
      (decodes_read row _).bind fun _ => (decodes_readLiteral _).bind fun _ =>
        (decodes_read row _).bind fun _ => (decodes_read row _).bind fun _ =>
          (decodes_read row _).bind fun _ => .ok _

theorem decodes_readRecipient (row : Row) : Decodes (readRecipient row) :=
  (decodes_read row _).bind fun _ => (decodes_read row _).bind fun _ =>
    (decodes_read row _).bind fun _ => (decodes_readLiteral _).bind fun _ =>
      (decodes_read row _).bind fun _ => (decodes_readOptional row _).bind fun _ =>
        (decodes_read row _).bind fun _ => (decodes_readOptional row _).bind fun _ =>
          (decodes_readOptional row _).bind fun _ => .ok _

section

variable {row : Row} {text : String}

theorem readLiteral_of_unknown {α : Type} [Literal α]
    (unknown : Literal.ofText? (α := α) text = none) (a : α) : readLiteral text ≠ .ok a := by
  intro read
  rw [readLiteral, Literal.read, unknown] at read
  cases read

/-- A step whose status is unknown is not read. -/
theorem readStep_of_unknown {step : Step} (written : row.read (step.text ++ "_status") = .ok text)
    (unknown : Literal.ofText? (α := Status) text = none) (s : StepState) :
    readStep row step ≠ .ok s := by
  intro read
  obtain ⟨status, first, read⟩ := bind_eq_ok_iff.1 read
  obtain ⟨_, -, read⟩ := bind_eq_ok_iff.1 read
  obtain ⟨named, literal, -⟩ := bind_eq_ok_iff.1 read
  cases written.symm.trans first
  exact readLiteral_of_unknown unknown named literal

/-- A record with a step of unknown status is not read. -/
theorem readRecord_of_unknown {step : Step}
    (written : row.read (step.text ++ "_status") = .ok text)
    (unknown : Literal.ofText? (α := Status) text = none) :
    ∃ m, readRecord row = .error (.decode m) := by
  refine (decodes_readRecord row).error_of_ne_ok fun r read => ?_
  obtain ⟨_, -, read⟩ := bind_eq_ok_iff.1 read
  obtain ⟨_, -, read⟩ := bind_eq_ok_iff.1 read
  obtain ⟨_, -, read⟩ := bind_eq_ok_iff.1 read
  obtain ⟨criteria, first, read⟩ := bind_eq_ok_iff.1 read
  obtain ⟨selfEvaluation, second, read⟩ := bind_eq_ok_iff.1 read
  obtain ⟨primary, third, read⟩ := bind_eq_ok_iff.1 read
  obtain ⟨secondary, fourth, -⟩ := bind_eq_ok_iff.1 read
  have fails := readStep_of_unknown written unknown
  cases step with
  | criteria => exact fails _ first
  | selfEvaluation => exact fails _ second
  | primary => exact fails _ third
  | secondary => exact fails _ fourth

/-- A request for an unknown step is not read. -/
theorem readRequest_of_unknown (written : row.read "step" = .ok text)
    (unknown : Literal.ofText? (α := Step) text = none) :
    ∃ m, readRequest row = .error (.decode m) := by
  refine (decodes_readRequest row).error_of_ne_ok fun q read => ?_
  obtain ⟨step, first, read⟩ := bind_eq_ok_iff.1 read
  obtain ⟨_, -, read⟩ := bind_eq_ok_iff.1 read
  obtain ⟨_, -, read⟩ := bind_eq_ok_iff.1 read
  obtain ⟨_, -, read⟩ := bind_eq_ok_iff.1 read
  obtain ⟨_, -, read⟩ := bind_eq_ok_iff.1 read
  obtain ⟨named, literal, -⟩ := bind_eq_ok_iff.1 read
  cases written.symm.trans first
  exact readLiteral_of_unknown unknown named literal

/-- A row of a recipient of unknown type is not read. -/
theorem readRecipient_of_unknown (written : row.read "recipient_type" = .ok text)
    (unknown : Literal.ofText? (α := Role) text = none) :
    ∃ m, readRecipient row = .error (.decode m) := by
  refine (decodes_readRecipient row).error_of_ne_ok fun r read => ?_
  obtain ⟨role, first, read⟩ := bind_eq_ok_iff.1 read
  obtain ⟨_, -, read⟩ := bind_eq_ok_iff.1 read
  obtain ⟨_, -, read⟩ := bind_eq_ok_iff.1 read
  obtain ⟨named, literal, -⟩ := bind_eq_ok_iff.1 read
  cases written.symm.trans first
  exact readLiteral_of_unknown unknown named literal

end

/-! ## What comes back -/

/-- Every row that is stored is read back, cut off to whole microseconds.  A record that was there
before keeps the time at which it was made, and a recipient's row its keys and its role.  A literal
that is unknown is not read.  Beside each call that writes stands when keys and constraints let the
database carry it out. -/
theorem rows_come_back {session : Session} (connected : session.connected = true)
    (db : Database) :
    (∀ (r : ApprovalRecord) (stored : Option ApprovalRecord),
      db.under approvalTable (approvalKey r.mappingId) = (stored.map recordRow).toList →
      (∃ after, db.Performs (session.store (.saveApproval r)) [] () after) ∧
      ∀ drawn after, db.Performs (session.store (.saveApproval r)) drawn () after →
        (after.under approvalTable (approvalKey r.mappingId)).map readRecord =
          [.ok (keptRecord (stored.elim r r.over))]) ∧
    (∀ q : RevisionRequest, db.under requestTable (requestKey q.id) = [] →
      (∃ after, db.Performs (session.store (.insertRequest q)) [] () after) ∧
      ∀ drawn after, db.Performs (session.store (.insertRequest q)) drawn () after →
        (after.under requestTable (requestKey q.id)).map readRequest = [.ok (keptRequest q)]) ∧
    (∀ r : RecipientRow,
      db.under recipientTable (recipientKey r.requestId r.recipientId) = [] →
      (db.Conforms → ((∃ after, db.Performs (session.store (.insertRecipient r)) [] () after) ↔
        (r.isCompleted = true → r.isRead = true) ∧
          db.under requestTable (requestKey r.requestId) ≠ [])) ∧
      ∀ drawn after, db.Performs (session.store (.insertRecipient r)) drawn () after →
        (after.under recipientTable (recipientKey r.requestId r.recipientId)).map readRecipient =
          [.ok (kept r)]) ∧
    (∀ r old : RecipientRow,
      db.under recipientTable (recipientKey r.requestId r.recipientId) = [recipientRow old] →
      old.isCompleted = false →
      (db.Conforms → ((∃ after, db.Performs (session.store (.updateRecipient r)) [] true after) ↔
        (r.isCompleted = true → r.isRead = true))) ∧
      ∀ drawn updated after,
        db.Performs (session.store (.updateRecipient r)) drawn updated after →
        updated = true ∧
          (after.under recipientTable (recipientKey r.requestId r.recipientId)).map
            readRecipient = [.ok (kept (r.over old))]) ∧
    (∀ t : Instant, t.nanos < 1000000000 → t.nanos % 1000 = 0 → keptTime t = t) ∧
    ∀ (row : Row) (text : String),
      (∀ step : Step, row.read (step.text ++ "_status") = .ok text →
        Literal.ofText? (α := Status) text = none → ∃ m, readRecord row = .error (.decode m)) ∧
      (row.read "step" = .ok text → Literal.ofText? (α := Step) text = none →
        ∃ m, readRequest row = .error (.decode m)) ∧
      (row.read "recipient_type" = .ok text → Literal.ofText? (α := Role) text = none →
        ∃ m, readRecipient row = .error (.decode m)) := by
  refine ⟨fun r stored held => ?_, fun q free => ?_, fun r free => ?_,
    fun r old held unfinished => ?_, fun _ regular micros => keptTime_of_micros regular micros,
    fun row text => ⟨fun _ => readRecord_of_unknown, readRequest_of_unknown,
      readRecipient_of_unknown⟩⟩
  case refine_1 =>
    refine ⟨⟨_, (Database.performs_saveApproval_iff connected).2 ⟨rfl, rfl⟩⟩,
      fun drawn after saved => ?_⟩
    obtain ⟨-, rfl⟩ := (Database.performs_saveApproval_iff connected).1 saved
    rw [Database.under_savedRows held, List.map_singleton, readRecord_recordRow]
  case refine_2 =>
    have unused := Database.any_eq_false_of_under free
    refine ⟨⟨_, (Database.performs_insertRequest_iff connected).2 ⟨rfl, unused, rfl⟩⟩,
      fun drawn after inserted => ?_⟩
    obtain ⟨-, -, rfl⟩ := (Database.performs_insertRequest_iff connected).1 inserted
    rw [Database.under_set_cons free (by simp), List.map_singleton, readRequest_requestRow]
  case refine_3 =>
    have unused := Database.any_eq_false_of_under free
    refine ⟨fun conforms => ?_, fun drawn after inserted => ?_⟩
    · rw [← Database.any_has_iff]
      constructor
      · rintro ⟨after, inserted⟩
        obtain ⟨-, -, keeps, -⟩ := (Database.performs_insertRecipient_iff connected).1 inserted
        exact keeps conforms
      · exact fun keeps => ⟨_, (Database.performs_insertRecipient_iff connected).2
          ⟨rfl, unused, fun _ => keeps, rfl⟩⟩
    obtain ⟨-, -, -, rfl⟩ := (Database.performs_insertRecipient_iff connected).1 inserted
    rw [Database.under_set_cons free (by simp), List.map_singleton, readRecipient_recipientRow]
  case refine_4 =>
    have counted := Database.countP_rowUpdate held unfinished
    refine ⟨fun conforms => ?_, fun drawn updated after changed => ?_⟩
    · rw [← Database.conforms_writeOver_iff conforms held unfinished]
      constructor
      · rintro ⟨after, changed⟩
        obtain ⟨-, -, keeps, rfl⟩ := (Database.performs_updateRecipient_iff connected).1 changed
        exact keeps conforms
      · exact fun keeps => ⟨_, (Database.performs_updateRecipient_iff connected).2
          ⟨rfl, by rw [counted]; rfl, fun _ => keeps, rfl⟩⟩
    obtain ⟨-, rfl, -, rfl⟩ := (Database.performs_updateRecipient_iff connected).1 changed
    refine ⟨by rw [counted]; rfl, ?_⟩
    rw [Database.under_writeOver held unfinished, List.map_singleton, readRecipient_recipientRow]

/-! ### A record saved twice -/

/-- A database with an untouched record, and a request with a recipient's row that is not read. -/
def untouched : Database :=
  ⟨fun table =>
    if table = approvalTable then [recordRow (.fresh default .epoch)]
    else if table = requestTable then
      [requestRow ⟨default, default, default, default, .criteria, "", default, .epoch⟩]
    else if table = recipientTable then [recipientRow (.fresh default default .evaluatee)]
    else [], ⟨0⟩⟩

/-- A record is saved again, requests and rows are added, a row is completed, and rows with unknown
literals are not read.  A row whose request is missing is rejected, and so is one that is completed
but not read. -/
theorem rows_come_back_untouched :
    let session : Session := default
    let later : Instant := .ofNanos 1700000000000000000
    let approved := (ApprovalRecord.fresh default later).change .criteria .approved default later
    let request : RevisionRequest :=
      ⟨⟨⟨1⟩⟩, default, default, default, .primary, "again", default, later⟩
    let fresh : RecipientRow := .fresh default ⟨⟨1⟩⟩ .primaryEvaluator
    let done := (RecipientRow.fresh default default .secondaryEvaluator).complete "done" later
    (∀ drawn after, untouched.Performs (session.store (.saveApproval approved)) drawn () after →
        (after.under approvalTable (approvalKey default)).map readRecord =
          [.ok { approved with createdAt := .epoch }]) ∧
      (∀ drawn after, untouched.Performs (session.store (.insertRequest request)) drawn () after →
        (after.under requestTable (requestKey ⟨⟨1⟩⟩)).map readRequest = [.ok request]) ∧
      ((∃ after, untouched.Performs (session.store (.insertRecipient fresh)) [] () after) ∧
        (¬ ∃ after, untouched.Performs
          (session.store (.insertRecipient { fresh with requestId := ⟨⟨1⟩⟩ })) [] () after) ∧
        ∀ drawn after, untouched.Performs (session.store (.insertRecipient fresh)) drawn () after →
          (after.under recipientTable (recipientKey default ⟨⟨1⟩⟩)).map readRecipient =
            [.ok fresh]) ∧
      ((∃ after, untouched.Performs (session.store (.updateRecipient done)) [] true after) ∧
        (¬ ∃ after, untouched.Performs
          (session.store (.updateRecipient { done with isRead := false })) [] true after) ∧
        ∀ drawn updated after,
          untouched.Performs (session.store (.updateRecipient done)) drawn updated after →
          updated = true ∧ (after.under recipientTable (recipientKey default default)).map
            readRecipient = [.ok { done with role := .evaluatee }]) ∧
      keptTime later = later ∧
      (∃ m, readRecord (recordRow approved ++ [("self_status", .text "done")]) =
        .error (.decode m)) ∧
      (∃ m, readRequest [("step", .text "final")] = .error (.decode m)) ∧
      ∃ m, readRecipient [("recipient_type", .text "manager")] = .error (.decode m) := by
  intro session later approved request fresh done
  obtain ⟨saved, asked, sent, written, whole, unknown⟩ :=
    rows_come_back (show session.connected = true from rfl) untouched
  have conforms : untouched.Conforms := by decide +kernel
  have record : keptRecord (approved.over (.fresh default .epoch)) =
      { approved with createdAt := .epoch } := by decide +kernel
  have question : keptRequest request = request := by decide +kernel
  have row : kept (done.over (.fresh default default .evaluatee)) =
      { done with role := .evaluatee } := by decide +kernel
  refine ⟨?_, ?_, ⟨?_, ?_, (sent fresh rfl).2⟩, ⟨?_, ?_, ?_⟩, whole later (by decide) (by decide),
    (unknown _ "done").1 .selfEvaluation rfl rfl, (unknown _ "final").2.1 rfl rfl,
    (unknown _ "manager").2.2 rfl rfl⟩
  · have saved := (saved approved (some (.fresh default .epoch)) rfl).2
    rw [Option.elim_some, record] at saved
    exact saved
  · have asked := (asked request rfl).2
    rw [question] at asked
    exact asked
  · exact ((sent fresh rfl).1 conforms).2 ⟨by decide, by decide +kernel⟩
  · intro inserted
    exact (((sent { fresh with requestId := ⟨⟨1⟩⟩ } rfl).1 conforms).1 inserted).2 rfl
  · exact ((written done (.fresh default default .evaluatee) rfl rfl).1 conforms).2 fun _ => rfl
  · intro changed
    have read := ((written { done with isRead := false } (.fresh default default .evaluatee) rfl
      rfl).1 conforms).1 changed rfl
    cases read
  · have written := (written done (.fresh default default .evaluatee) rfl rfl).2
    rw [row] at written
    exact written

/-- A new record does not come back as it was if its times have nanoseconds. -/
theorem nanoseconds_cut :
    let r := ApprovalRecord.fresh ⟨⟨1⟩⟩ (.ofNanos 1700000000123456789)
    ∃ after, untouched.Performs ((default : Session).store (.saveApproval r)) [] () after ∧
      (after.under approvalTable (approvalKey r.mappingId)).map readRecord ≠ [.ok r] := by
  intro r
  refine ⟨_, (Database.performs_saveApproval_iff rfl).2 ⟨rfl, rfl⟩, ?_⟩
  have cut : keptRecord r ≠ r := by decide +kernel
  have none : untouched.under approvalTable (approvalKey r.mappingId) =
      ((none : Option ApprovalRecord).map recordRow).toList := rfl
  rw [Database.under_savedRows none, List.map_singleton, readRecord_recordRow]
  simpa using cut

end Appraisal.Postgres
