import Appraisal.Proofs.Workflow.Growth

/-!
# The life of a recipient's row

A row may be marked read and completed in any order and any number of times
(`RecipientRow.performAll`).  The two operations follow opposite rules.  The first one, of either
kind, decides when the row was read, and the last completion decides what was answered and when
(`first_read_last_completed`).  A completed row is not refused here, that is left to the callers.

An operation is a `RowUpdate` with its time, and `RowUpdate.apply` says what it does to the row.
What one operation does to a field is stated once, and a run is an induction over its operations
that starts from the row the first one leaves (`performAll_cons`).
-/

namespace Appraisal

open Memory

/-- What an operation returns, if it returns anything, and the row it leaves. -/
def Memory.RowUpdate.perform (row : RecipientRow) (now : Instant) :
    RowUpdate → Option Bool × RecipientRow
  | .read => (some (row.markedRead now).1, (row.markedRead now).2)
  | .complete comment => (none, row.complete comment now)

/-- What operations return one after the other, each at its own time, and the row they leave. -/
def RecipientRow.performAll (row : RecipientRow) :
    List (RowUpdate × Instant) → List (Option Bool) × RecipientRow
  | [] => ([], row)
  | op :: later =>
    let done := op.1.perform row op.2
    let rest := done.2.performAll later
    (done.1 :: rest.1, rest.2)

/-- What an operation answers to the request and when, if it completes it. -/
def Memory.RowUpdate.completion? : RowUpdate × Instant → Option (String × Instant)
  | (.read, _) => none
  | (.complete comment, now) => some (comment, now)

/-! ## One operation -/

section

variable (update : RowUpdate) (row : RecipientRow) (now : Instant)

@[simp] theorem Memory.RowUpdate.perform_snd :
    (update.perform row now).2 = update.apply row now := by
  cases update with
  | read => rw [RowUpdate.perform, row.markedRead_eq, RowUpdate.apply]
  | complete comment => rfl

/-- Only marking an unread row read returns true. -/
theorem Memory.RowUpdate.perform_fst_iff :
    (update.perform row now).1 = some true ↔ row.isRead = false ∧ update = .read := by
  cases update with
  | read => simp [RowUpdate.perform]
  | complete comment => simp [RowUpdate.perform]

theorem Memory.RowUpdate.isRead_apply : (update.apply row now).isRead = true := by
  cases update with
  | read => exact row.markRead_isRead now
  | complete comment => exact row.complete_isRead comment now

theorem Memory.RowUpdate.completion_apply :
    (update.apply row now).completedAt =
        ((completion? (update, now)).map Prod.snd).or row.completedAt ∧
      (update.apply row now).responseComment =
        ((completion? (update, now)).map Prod.fst).or row.responseComment := by
  cases update with
  | read =>
    rw [RowUpdate.apply, RecipientRow.markRead]
    split <;> exact ⟨rfl, rfl⟩
  | complete comment => exact ⟨rfl, rfl⟩

/-- A row that agrees with itself was read when it says, or else now. -/
theorem RecipientRow.Marked.readAt_apply {row : RecipientRow} (h : row.Marked) :
    (update.apply row now).readAt = row.readAt.or (some now) := by
  rw [update.readAt_apply, h.read]
  cases row.readAt <;> rfl

end

/-! ## Operations one after the other -/

namespace RecipientRow

variable (row : RecipientRow)

theorem performAll_cons (op : RowUpdate × Instant) (later : List (RowUpdate × Instant)) :
    row.performAll (op :: later) =
      ((op.1.perform row op.2).1 :: ((op.1.apply row op.2).performAll later).1,
        ((op.1.apply row op.2).performAll later).2) := by
  rw [performAll, RowUpdate.perform_snd]

theorem length_performAll (ops : List (RowUpdate × Instant)) :
    (row.performAll ops).1.length = ops.length := by
  induction ops generalizing row with
  | nil => rfl
  | cons op later ih => rw [performAll_cons, List.length_cons, ih, List.length_cons]

/-- Operations leave the row of the same recipient in the same role. -/
theorem kept_performAll (ops : List (RowUpdate × Instant)) :
    (row.performAll ops).2.requestId = row.requestId ∧
      (row.performAll ops).2.recipientId = row.recipientId ∧
      (row.performAll ops).2.role = row.role := by
  induction ops generalizing row with
  | nil => exact ⟨rfl, rfl, rfl⟩
  | cons op later ih =>
    obtain ⟨request, recipient, role⟩ := ih (op.1.apply row op.2)
    obtain ⟨request', recipient'⟩ := RowKey.recipient.inj (op.1.key_apply row op.2)
    have role' := op.1.role_apply row op.2
    rw [performAll_cons]
    exact ⟨request.trans request', recipient.trans recipient', role.trans role'⟩

theorem Marked.performAll {row : RecipientRow} (h : row.Marked)
    (ops : List (RowUpdate × Instant)) : (row.performAll ops).2.Marked := by
  induction ops generalizing row with
  | nil => exact h
  | cons op later ih =>
    rw [performAll_cons]
    exact ih (op.1.marked_apply h op.2)

/-- The first operation decides when a row was read that was not read before. -/
theorem Marked.readAt_performAll {row : RecipientRow} (h : row.Marked)
    (ops : List (RowUpdate × Instant)) :
    (row.performAll ops).2.readAt = row.readAt.or (ops.head?.map Prod.snd) := by
  induction ops generalizing row with
  | nil => exact (Option.or_none).symm
  | cons op later ih =>
    rw [performAll_cons, ih (op.1.marked_apply h op.2), h.readAt_apply, Option.or_assoc]
    rfl

/-- The last of some completions is the last of the later ones, if there are any. -/
theorem getLast?_completions_cons (op : RowUpdate × Instant) (later : List (RowUpdate × Instant)) :
    ((op :: later).filterMap RowUpdate.completion?).getLast? =
      (later.filterMap RowUpdate.completion?).getLast?.or (RowUpdate.completion? op) := by
  rw [List.filterMap_cons]
  cases RowUpdate.completion? op with
  | none => exact Option.or_none.symm
  | some completion =>
    rw [List.getLast?_cons]
    cases (later.filterMap RowUpdate.completion?).getLast? <;> rfl

/-- The last completion decides what was answered and when. -/
theorem completion_performAll (ops : List (RowUpdate × Instant)) :
    let last := (ops.filterMap RowUpdate.completion?).getLast?
    (row.performAll ops).2.completedAt = (last.map Prod.snd).or row.completedAt ∧
      (row.performAll ops).2.responseComment = (last.map Prod.fst).or row.responseComment := by
  induction ops generalizing row with
  | nil => exact ⟨rfl, rfl⟩
  | cons op later ih =>
    obtain ⟨completedAt, answer⟩ := ih (op.1.apply row op.2)
    obtain ⟨completedAt', answer'⟩ := op.1.completion_apply row op.2
    rw [completedAt'] at completedAt
    rw [answer'] at answer
    simp only [performAll_cons, getLast?_completions_cons, Option.map_or, Option.or_assoc]
    exact ⟨completedAt, answer⟩

/-- Once a row is read, marking it read returns false. -/
theorem not_mem_performAll {row : RecipientRow} (read : row.isRead = true)
    (ops : List (RowUpdate × Instant)) : some true ∉ (row.performAll ops).1 := by
  induction ops generalizing row with
  | nil => exact List.not_mem_nil
  | cons op later ih =>
    rw [performAll_cons, List.mem_cons, not_or]
    refine ⟨fun first => ?_, ih (op.1.isRead_apply row op.2)⟩
    obtain ⟨unread, -⟩ := (op.1.perform_fst_iff row op.2).1 first.symm
    rw [read] at unread
    cases unread

/-- At most the very first operation returns true: when it marks an unread row read. -/
theorem performAll_true_iff (ops : List (RowUpdate × Instant)) (n : Nat) :
    (row.performAll ops).1[n]? = some (some true) ↔
      n = 0 ∧ row.isRead = false ∧ ∃ now, ops.head? = some (.read, now) := by
  cases ops with
  | nil => simp [performAll]
  | cons op later =>
    rw [performAll_cons]
    cases n with
    | zero =>
      obtain ⟨update, now⟩ := op
      simp [update.perform_fst_iff row now]
    | succ n =>
      rw [List.getElem?_cons_succ]
      refine ⟨fun found => ?_, nofun⟩
      exact absurd (List.mem_of_getElem? found) (not_mem_performAll (op.1.isRead_apply row op.2) _)

/-- A row that agrees with itself still does so after any operations, and belongs to the same
recipient in the same role.  It was read when it says so, or else at the first operation.  It was
completed, and answered, as the last completion says, or else as before.  What the operations
return is true at most for the first one, namely when it marks an unread row read. -/
theorem first_read_last_completed {row : RecipientRow} (marked : row.Marked)
    (ops : List (RowUpdate × Instant)) :
    let answers := (row.performAll ops).1
    let left := (row.performAll ops).2
    let last := (ops.filterMap RowUpdate.completion?).getLast?
    (left.requestId = row.requestId ∧ left.recipientId = row.recipientId ∧ left.role = row.role) ∧
      left.Marked ∧
      left.readAt = row.readAt.or (ops.head?.map Prod.snd) ∧
      left.completedAt = (last.map Prod.snd).or row.completedAt ∧
      left.responseComment = (last.map Prod.fst).or row.responseComment ∧
      answers.length = ops.length ∧
      ∀ n, answers[n]? = some (some true) ↔
        n = 0 ∧ row.isRead = false ∧ ∃ now, ops.head? = some (.read, now) := by
  intro answers left last
  obtain ⟨completedAt, answer⟩ := row.completion_performAll ops
  exact ⟨row.kept_performAll ops, marked.performAll ops, marked.readAt_performAll ops, completedAt,
    answer, row.length_performAll ops, row.performAll_true_iff ops⟩

/-- A request is read, answered, read again and answered again. -/
theorem first_read_last_completed_twice :
    let row := fresh default default .evaluatee
    let second (n : Int) : Instant := { Instant.epoch with seconds := n }
    let ops : List (RowUpdate × Instant) := [(.read, second 1), (.complete "one", second 2),
      (.read, second 3), (.complete "two", second 4)]
    row.Marked ∧ (row.performAll ops).2.Marked ∧
      (row.performAll ops).2.readAt = some (second 1) ∧
      (row.performAll ops).2.completedAt = some (second 4) ∧
      (row.performAll ops).2.responseComment = some "two" ∧
      ∀ n, (row.performAll ops).1[n]? = some (some true) ↔ n = 0 := by
  intro row second ops
  have marked : row.Marked := marked_fresh _ _ _
  obtain ⟨-, left, readAt, completedAt, answer, -, answers⟩ := first_read_last_completed marked ops
  refine ⟨marked, left, readAt, completedAt, answer, fun n => (answers n).trans ?_⟩
  exact ⟨And.left, fun first => ⟨first, rfl, _, rfl⟩⟩

end RecipientRow

end Appraisal
