import Mathlib.Data.List.Forall2
import Mathlib.Data.List.Induction
import Appraisal.Postgres.Mapping
import Appraisal.Proofs.Answers
import Appraisal.Proofs.Postgres.Kept

/-!
# Lines of a mapping

A mapping is looked up by its row and by its lines, and the lines are folded into the row in the
order in which the server lists them.

*Folding.*  The primary lines and the secondary lines are folded apart (`addLines_eq`).  The first
primary line names the primary evaluator (`primaryEvaluator_addLines`).  The secondary evaluators
are those that have a secondary line, each once, in the order of their first lines
(`mem_secondaries_iff`, `sorted_secondaries`).

*Idle lines.*  A line of another type, a second primary line and a secondary line that has been
there before change nothing.  `Thinned` deletes any of them, and `Thinned.addLines_eq` says that the
mapping stays the same.

*Looking up.*  `runs_findMapping_iff` says which mapping is found if the server answers with a row
and some lines, whatever else it holds.  `lines_fold` puts the three together.
-/

namespace Appraisal.Postgres

/-! ## Folding -/

/-- The evaluators of one type, line by line. -/
def evaluatorsOf (type : String) (lines : List Line) : List EmployeeId :=
  (lines.filter (·.type = type)).map (·.evaluator)

theorem evaluatorsOf_cons (type : String) (line : Line) (lines : List Line) :
    evaluatorsOf type (line :: lines) =
      if line.type = type then line.evaluator :: evaluatorsOf type lines
      else evaluatorsOf type lines := by
  rw [evaluatorsOf, List.filter_cons]
  by_cases same : line.type = type <;> simp [same, evaluatorsOf]

/-- An evaluator is put behind some others, unless it is one of them. -/
def withNew (others : List EmployeeId) (evaluator : EmployeeId) : List EmployeeId :=
  if others.contains evaluator then others else others ++ [evaluator]

theorem withNew_of_mem {others : List EmployeeId} {evaluator : EmployeeId}
    (held : evaluator ∈ others) : withNew others evaluator = others :=
  if_pos (List.contains_iff_mem.2 held)

theorem withNew_of_not_mem {others : List EmployeeId} {evaluator : EmployeeId}
    (new : evaluator ∉ others) : withNew others evaluator = others ++ [evaluator] :=
  if_neg fun held => new (List.contains_iff_mem.1 held)

theorem secondaryType_ne : secondaryType ≠ primaryType := by decide

/-- A line names the primary evaluator or a secondary one, and never both. -/
theorem addLine_eq (m : EvaluationMapping) (line : Line) :
    addLine m line = { m with
      primaryEvaluator :=
        if line.type = primaryType then m.primaryEvaluator.or (some line.evaluator)
        else m.primaryEvaluator
      secondaryEvaluators :=
        if line.type = secondaryType then withNew m.secondaryEvaluators line.evaluator
        else m.secondaryEvaluators } := by
  rw [addLine]
  by_cases primary : line.type = primaryType
  · have other : line.type ≠ secondaryType := fun same =>
      secondaryType_ne (same.symm.trans primary)
    rw [if_pos primary, if_pos primary, if_neg other]
    cases held : m.primaryEvaluator with
    | none => rfl
    | some _ => rw [Option.some_or, ← held, if_neg (by simp [held])]
  · rw [if_neg primary, if_neg primary]
    by_cases secondary : line.type = secondaryType
    · rw [if_pos secondary, if_pos secondary]
      split
      · rename_i held
        rw [withNew_of_mem held]
      · rename_i new
        rw [withNew_of_not_mem new]
        rfl
    · rw [if_neg secondary, if_neg secondary]

theorem primaryEvaluator_addLine (m : EvaluationMapping) (line : Line) :
    (addLine m line).primaryEvaluator =
      if line.type = primaryType then m.primaryEvaluator.or (some line.evaluator)
      else m.primaryEvaluator := by
  rw [addLine_eq]

theorem secondaries_addLine (m : EvaluationMapping) (line : Line) :
    (addLine m line).secondaryEvaluators =
      if line.type = secondaryType then withNew m.secondaryEvaluators line.evaluator
      else m.secondaryEvaluators := by
  rw [addLine_eq]

/-- Primary lines only name the primary evaluator, and secondary lines only secondary ones. -/
theorem addLines_eq (m : EvaluationMapping) (lines : List Line) :
    addLines m lines = { m with
      primaryEvaluator := m.primaryEvaluator.or (evaluatorsOf primaryType lines).head?
      secondaryEvaluators :=
        (evaluatorsOf secondaryType lines).foldl withNew m.secondaryEvaluators } := by
  induction lines generalizing m with
  | nil =>
    show m = _
    simp [evaluatorsOf]
  | cons line lines ih =>
    have primary : (addLine m line).primaryEvaluator.or (evaluatorsOf primaryType lines).head? =
        m.primaryEvaluator.or (evaluatorsOf primaryType (line :: lines)).head? := by
      rw [primaryEvaluator_addLine, evaluatorsOf_cons]
      split
      · rw [Option.or_assoc]
        rfl
      · rfl
    have secondary : (evaluatorsOf secondaryType lines).foldl withNew
          (addLine m line).secondaryEvaluators =
        (evaluatorsOf secondaryType (line :: lines)).foldl withNew m.secondaryEvaluators := by
      rw [secondaries_addLine, evaluatorsOf_cons]
      split <;> rfl
    show addLines (addLine m line) lines = _
    rw [ih, primary, secondary, addLine_eq]

theorem addLines_concat (m : EvaluationMapping) (lines : List Line) (line : Line) :
    addLines m (lines ++ [line]) = addLine (addLines m lines) line := List.foldl_append

section

variable {m : EvaluationMapping} {lines : List Line}

/-- The first primary line counts. -/
theorem primaryEvaluator_addLines (vacant : m.primaryEvaluator = none) :
    (addLines m lines).primaryEvaluator =
      (lines.find? (·.type = primaryType)).map (·.evaluator) := by
  rw [addLines_eq, vacant, evaluatorsOf, List.head?_map, List.head?_filter]
  rfl

theorem mem_withNew {others : List EmployeeId} {evaluator e : EmployeeId} :
    e ∈ withNew others evaluator ↔ e ∈ others ∨ e = evaluator := by
  by_cases held : evaluator ∈ others
  · rw [withNew_of_mem held]
    exact ⟨.inl, fun either => either.elim id (· ▸ held)⟩
  · rw [withNew_of_not_mem held, List.mem_append, List.mem_singleton]

/-- An evaluator is a secondary one exactly if a secondary line says so. -/
theorem mem_secondaries_iff (vacant : m.secondaryEvaluators = []) {e : EmployeeId} :
    e ∈ (addLines m lines).secondaryEvaluators ↔ ⟨e, secondaryType⟩ ∈ lines := by
  induction lines using List.reverseRecOn with
  | nil =>
    show e ∈ m.secondaryEvaluators ↔ _
    simp [vacant]
  | append_singleton lines line ih =>
    rw [addLines_concat, secondaries_addLine, List.mem_append, List.mem_singleton]
    split
    · rename_i secondary
      rw [mem_withNew, ih, ← secondary]
      exact or_congr_right ⟨fun same => same ▸ rfl, congrArg Line.evaluator⟩
    · rename_i other
      rw [ih, or_iff_left fun same => other (congrArg Line.type same).symm]

/-- The secondary evaluators are in the order of their first lines. -/
theorem sorted_secondaries (vacant : m.secondaryEvaluators = []) :
    (addLines m lines).secondaryEvaluators.Pairwise fun a b =>
      lines.idxOf ⟨a, secondaryType⟩ < lines.idxOf ⟨b, secondaryType⟩ := by
  induction lines using List.reverseRecOn with
  | nil =>
    show m.secondaryEvaluators.Pairwise _
    rw [vacant]
    exact .nil
  | append_singleton lines line ih =>
    rw [addLines_concat, secondaries_addLine]
    have listed {e : EmployeeId} (held : e ∈ (addLines m lines).secondaryEvaluators) :
        Line.mk e secondaryType ∈ lines := (mem_secondaries_iff vacant).1 held
    have stays : (addLines m lines).secondaryEvaluators.Pairwise fun a b =>
        (lines ++ [line]).idxOf ⟨a, secondaryType⟩ <
          (lines ++ [line]).idxOf ⟨b, secondaryType⟩ :=
      ih.imp_of_mem fun first second before => by
        rwa [List.idxOf_append_of_mem (listed first), List.idxOf_append_of_mem (listed second)]
    split
    · rename_i secondary
      by_cases known : line.evaluator ∈ (addLines m lines).secondaryEvaluators
      · rw [withNew_of_mem known]
        exact stays
      · rw [withNew_of_not_mem known]
        refine List.pairwise_append.2 ⟨stays, List.pairwise_singleton _ _, fun a held b added => ?_⟩
        obtain rfl := List.mem_singleton.1 added
        have absent : Line.mk line.evaluator secondaryType ∉ lines := fun there =>
          known ((mem_secondaries_iff vacant).2 there)
        rw [List.idxOf_append_of_mem (listed held), List.idxOf_append_of_notMem absent]
        exact Nat.lt_add_right _ (List.idxOf_lt_length_of_mem (listed held))
    · exact stays

end

/-! ## Idle lines -/

/-- A line changes nothing after some others: its type says nothing, there was a primary line
before, or the same line was there before. -/
def Idle (before : List Line) (line : Line) : Prop :=
  (line.type ≠ primaryType ∧ line.type ≠ secondaryType) ∨
    (line.type = primaryType ∧ ∃ l ∈ before, l.type = primaryType) ∨
    (line.type = secondaryType ∧ line ∈ before)

/-- Some lines, which come after others, and what is left of them if idle ones are deleted. -/
inductive Thinned : (before lines left : List Line) → Prop
  /-- There are no lines. -/
  | nil {before : List Line} : Thinned before [] []
  /-- A line stays. -/
  | keep {before lines left : List Line} {line : Line}
    (rest : Thinned (before ++ [line]) lines left) : Thinned before (line :: lines) (line :: left)
  /-- An idle line is deleted. -/
  | delete {before lines left : List Line} {line : Line} (idle : Idle before line)
    (rest : Thinned (before ++ [line]) lines left) : Thinned before (line :: lines) left

/-- A mapping that knows some lines already. -/
structure Knows (m : EvaluationMapping) (lines : List Line) : Prop where
  /-- It has a primary evaluator, if one of them is primary. -/
  primary : ∀ l ∈ lines, l.type = primaryType → m.primaryEvaluator.isSome
  /-- It has all their secondary evaluators. -/
  secondary : ∀ l ∈ lines, l.type = secondaryType → l.evaluator ∈ m.secondaryEvaluators

namespace Knows

variable {m : EvaluationMapping} {before : List Line} {line : Line}

theorem next (h : Knows m before) (line : Line) : Knows (addLine m line) (before ++ [line]) where
  primary l listed primary := by
    rw [primaryEvaluator_addLine]
    rcases List.mem_append.1 listed with listed | same
    · have held := h.primary l listed primary
      split
      · rw [Option.isSome_or, held]
        rfl
      · exact held
    · obtain rfl := List.mem_singleton.1 same
      rw [if_pos primary, Option.isSome_or]
      exact Bool.or_true _
  secondary l listed secondary := by
    rw [secondaries_addLine]
    rcases List.mem_append.1 listed with listed | same
    · have held := h.secondary l listed secondary
      split
      · exact mem_withNew.2 (.inl held)
      · exact held
    · obtain rfl := List.mem_singleton.1 same
      rw [if_pos secondary]
      exact mem_withNew.2 (.inr rfl)

/-- A mapping that knows the lines before an idle one is not changed by it. -/
theorem addLine_eq (h : Knows m before) (idle : Idle before line) : addLine m line = m := by
  rw [addLine]
  rcases idle with ⟨notPrimary, notSecondary⟩ | ⟨primary, l, listed, same⟩ | ⟨secondary, listed⟩
  · rw [if_neg notPrimary, if_neg notSecondary]
  · have held := h.primary l listed same
    rw [if_pos primary, if_neg (by simp [Option.isSome_iff_ne_none.1 held])]
  · have held := h.secondary line listed secondary
    rw [if_neg (secondary ▸ secondaryType_ne), if_pos secondary, if_pos held]

end Knows

/-- Deleting idle lines leaves the mapping the same. -/
theorem Thinned.addLines_eq {before lines left : List Line} (h : Thinned before lines left)
    {m : EvaluationMapping} (knows : Knows m before) : addLines m lines = addLines m left := by
  induction h generalizing m with
  | nil => rfl
  | keep rest ih => exact ih (knows.next _)
  | @delete before lines left line idle rest ih =>
    have same := knows.addLine_eq idle
    show addLines (addLine m line) lines = _
    rw [same]
    exact ih (same ▸ knows.next line)

/-! ## Looking up -/

/-- The row is that of a mapping. -/
structure Row.OfMapping (row : Row) (id : MappingId) (periodId : PeriodId)
    (employeeId : EmployeeId) : Prop where
  id : row.cell? "id" = some (toCell id)
  periodId : row.cell? "evaluation_period_id" = some (toCell periodId)
  employeeId : row.cell? "employee_id" = some (toCell employeeId)

/-- The row is that of a line.  Its type is a text of any kind. -/
structure Row.OfLine (row : Row) (line : Line) : Prop where
  evaluator : row.cell? "evaluator_id" = some (toCell line.evaluator)
  type : ∃ cell, row.cell? "evaluator_type" = some cell ∧ CellType.ofCell? cell = some line.type

theorem Row.OfMapping.read {row : Row} {id : MappingId} {periodId : PeriodId}
    {employeeId : EmployeeId} (h : row.OfMapping id periodId employeeId) :
    readMapping row = .ok (.fresh id periodId employeeId) := by
  have first : row.read "id" = .ok id := read_of_cell h.id nofun rfl
  have second : row.read "evaluation_period_id" = .ok periodId := read_of_cell h.periodId nofun rfl
  have third : row.read "employee_id" = .ok employeeId := read_of_cell h.employeeId nofun rfl
  rw [readMapping, first, second, third]
  rfl

theorem Row.OfLine.read {row : Row} {line : Line} (h : row.OfLine line) :
    readLine row = .ok line := by
  obtain ⟨cell, found, text⟩ := h.type
  have filled : cell ≠ .null := fun none => by
    rw [none] at text
    cases text
  have first : row.read "evaluator_id" = .ok line.evaluator := read_of_cell h.evaluator nofun rfl
  have second : row.read "evaluator_type" = .ok line.type := read_of_cell found filled text
  rw [readLine, first, second]
  rfl

theorem readRows_of_lines {rows : List Row} {lines : List Line}
    (listed : List.Forall₂ Row.OfLine rows lines) : readRows readLine rows = .ok lines := by
  induction listed with
  | nil => rfl
  | cons first _ ih =>
    rw [readRows, first.read, ih]
    rfl

/-- The requests of a look-up with their answers: the row of a mapping, and then its lines. -/
def lookUp (wanted : MappingId) (bare : EvaluationMapping) (first second : Reply) :
    List (Program.Answered Request.Answer) := [
  ⟨.acquire, .ok ()⟩, ⟨.send (selectMapping wanted), .ok first⟩,
  ⟨.acquire, .ok ()⟩, ⟨.send (selectLines bare), .ok second⟩]

theorem runs_bind_ok {α β : Type} {x : FallibleExchange α} {f : α → FallibleExchange β} {a : α}
    {outcome : Except Failure β} {first second : List (Program.Answered Request.Answer)}
    (ran : x.run.Runs first (.ok a)) (later : (f a).run.Runs second outcome) :
    (x >>= f).run.Runs (first ++ second) outcome := by
  rw [ExceptT.run_bind]
  exact Program.runs_bind_iff.2 ⟨first, .ok a, second, rfl, ran, later⟩

theorem runs_sendPooled (bound : Bound) (reply : Reply) :
    (sendPooled bound).run.Runs [⟨.acquire, .ok ()⟩, ⟨.send bound, .ok reply⟩] (.ok reply) := by
  have acquired : Exchange.acquire.run.Runs [⟨.acquire, .ok ()⟩] (.ok ()) :=
    Program.runs_call_iff.2 ⟨.ok (), [], rfl, .done _⟩
  have sent : (Exchange.send bound.statement bound.parameters).run.Runs
      [⟨.send bound, .ok reply⟩] (.ok reply) :=
    Program.runs_call_iff.2 ⟨.ok reply, [], rfl, .done _⟩
  exact runs_bind_ok acquired sent

theorem runs_decoded {α : Type} {result : Except Failure α} {a : α} (read : result = .ok a) :
    (Exchange.decoded result).run.Runs [] (.ok a) := by
  rw [read]
  exact .done _

/-- The first row is read and the lines are folded into it. -/
theorem runs_findMapping_iff {wanted : MappingId} {bare : EvaluationMapping} {first second : Reply}
    {lines : List Line} (mapped : readFirstRow? readMapping first.rows = .ok (some bare))
    (listed : readRows readLine second.rows = .ok lines)
    {outcome : Except Failure (Option EvaluationMapping)} :
    (findMapping wanted).run.Runs (lookUp wanted bare first second) outcome ↔
      outcome = .ok (some (addLines bare lines)) := by
  have ran : (findMapping wanted).run.Runs (lookUp wanted bare first second)
      (.ok (some (addLines bare lines))) :=
    runs_bind_ok (runs_sendPooled _ first) (runs_bind_ok (runs_decoded mapped)
      (runs_bind_ok (runs_sendPooled _ second) (runs_bind_ok (runs_decoded listed) (.done _))))
  constructor
  · intro other
    have same : lookUp wanted bare first second ++ [] = lookUp wanted bare first second ++ [] := rfl
    exact (other.eq_of_append ran same).2
  · rintro rfl
    exact ran

/-- If the server answers a look-up with a row of a mapping and then with some lines, the mapping of
the row is found.  Its primary evaluator is that of the first primary line, and its secondary
evaluators are those of the secondary lines, each once, in the order of their first lines.  The
former depends on the primary lines alone, the latter on the secondary lines alone, and lines that
change nothing may be deleted. -/
theorem lines_fold (wanted : MappingId) {id : MappingId} {periodId : PeriodId}
    {employeeId : EmployeeId} {row : Row} (mapped : row.OfMapping id periodId employeeId)
    (more : List Row) (n k : Nat) :
    let bare : EvaluationMapping := .fresh id periodId employeeId
    (∀ rows lines, List.Forall₂ Row.OfLine rows lines → ∀ outcome,
      (findMapping wanted).run.Runs (lookUp wanted bare ⟨row :: more, n⟩ ⟨rows, k⟩) outcome ↔
        outcome = .ok (some (addLines bare lines))) ∧
    (∀ lines,
      let found := addLines bare lines
      (found.id = id ∧ found.periodId = periodId ∧ found.employeeId = employeeId) ∧
      found.primaryEvaluator = (lines.find? (·.type = primaryType)).map (·.evaluator) ∧
      found.secondaryEvaluators.Nodup ∧
      (∀ e, e ∈ found.secondaryEvaluators ↔ ⟨e, secondaryType⟩ ∈ lines) ∧
      found.secondaryEvaluators.Pairwise fun a b =>
        lines.idxOf ⟨a, secondaryType⟩ < lines.idxOf ⟨b, secondaryType⟩) ∧
    ∀ lines others,
      (lines.filter (·.type = primaryType) = others.filter (·.type = primaryType) →
        (addLines bare lines).primaryEvaluator = (addLines bare others).primaryEvaluator) ∧
      (lines.filter (·.type = secondaryType) = others.filter (·.type = secondaryType) →
        (addLines bare lines).secondaryEvaluators = (addLines bare others).secondaryEvaluators) ∧
      (Thinned [] lines others → addLines bare lines = addLines bare others) := by
  intro bare
  have read : readFirstRow? readMapping (row :: more) = .ok (some bare) := by
    rw [readFirstRow?, mapped.read]
    rfl
  refine ⟨fun rows lines listed outcome => ?_, fun lines => ?_, fun lines others => ⟨?_, ?_, ?_⟩⟩
  · exact runs_findMapping_iff read (readRows_of_lines listed)
  · have sorted : (addLines bare lines).secondaryEvaluators.Pairwise fun a b =>
        lines.idxOf ⟨a, secondaryType⟩ < lines.idxOf ⟨b, secondaryType⟩ := sorted_secondaries rfl
    have distinct : (addLines bare lines).secondaryEvaluators.Nodup :=
      sorted.imp fun before same => by
        rw [same] at before
        exact Nat.lt_irrefl _ before
    have ids : (addLines bare lines).id = id ∧ (addLines bare lines).periodId = periodId ∧
        (addLines bare lines).employeeId = employeeId := by
      rw [addLines_eq]
      exact ⟨rfl, rfl, rfl⟩
    exact ⟨ids, primaryEvaluator_addLines rfl, distinct, fun e => mem_secondaries_iff rfl, sorted⟩
  · intro same
    simp only [addLines_eq, evaluatorsOf, same]
  · intro same
    simp only [addLines_eq, evaluatorsOf, same]
  · exact fun thinned => thinned.addLines_eq ⟨nofun, nofun⟩

/-- Six lines in no particular order: two secondary evaluators, one of them twice, two primary ones
and an observer. -/
def mixedLines : List Line := [
  ⟨⟨⟨1⟩⟩, "secondary"⟩, ⟨⟨⟨2⟩⟩, "primary"⟩, ⟨⟨⟨1⟩⟩, "secondary"⟩, ⟨⟨⟨3⟩⟩, "observer"⟩,
  ⟨⟨⟨3⟩⟩, "primary"⟩, ⟨⟨⟨2⟩⟩, "secondary"⟩]

/-- The first primary evaluator and both secondary ones are found, as without the other lines. -/
theorem lines_fold_mixed :
    let row : Row := [("id", toCell (default : MappingId)),
      ("evaluation_period_id", toCell (default : PeriodId)),
      ("employee_id", toCell (default : EmployeeId))]
    let rows : List Row := mixedLines.map fun line =>
      [("evaluator_id", toCell line.evaluator), ("evaluator_type", .other "VARCHAR" line.type)]
    let bare : EvaluationMapping := .fresh default default default
    row.OfMapping default default default ∧ List.Forall₂ Row.OfLine rows mixedLines ∧
      (findMapping default).run.Runs (lookUp default bare ⟨[row], 1⟩ ⟨rows, 6⟩)
        (.ok (some { bare with
          primaryEvaluator := some ⟨⟨2⟩⟩
          secondaryEvaluators := [⟨⟨1⟩⟩, ⟨⟨2⟩⟩] })) ∧
      addLines bare mixedLines = addLines bare
        [⟨⟨⟨1⟩⟩, "secondary"⟩, ⟨⟨⟨2⟩⟩, "primary"⟩, ⟨⟨⟨2⟩⟩, "secondary"⟩] := by
  intro row rows bare
  have mapped : row.OfMapping default default default := ⟨rfl, rfl, rfl⟩
  have listed : List.Forall₂ Row.OfLine rows mixedLines := by
    refine List.forall₂_map_left_iff.2 (List.forall₂_same.2 fun line _ => ?_)
    exact ⟨rfl, _, rfl, rfl⟩
  obtain ⟨finds, -, thins⟩ := lines_fold default mapped [] 1 6
  have thinned : Thinned [] mixedLines
      [⟨⟨⟨1⟩⟩, "secondary"⟩, ⟨⟨⟨2⟩⟩, "primary"⟩, ⟨⟨⟨2⟩⟩, "secondary"⟩] :=
    .keep (.keep (.delete (.inr (.inr (by decide))) (.delete (.inl (by decide))
      (.delete (.inr (.inl (by decide))) (.keep .nil)))))
  exact ⟨mapped, listed, (finds rows mixedLines listed _).2 (by decide), (thins _ _).2.2 thinned⟩

end Appraisal.Postgres
