import Mathlib.Data.List.Forall2
import Appraisal.Proofs.Memory.Snapshot

/-!
# What a transaction has written

The journal of a transaction lists the rows that it stored and the savepoints that it set, the
newest first, as its client could note them from the answers alone.  Going back to a savepoint
crosses out what was stored since.  Releasing one crosses out savepoints and keeps the rows.

`Mirrors` says that the session has taken the same notes: the rows that it remembers to have
written are those of the journal, the tables it reads are the snapshot with the newest row of every
key, and each savepoint holds the transaction as the journal stood when it was set.
`Mirrors.answer` is the step: no call makes the two differ.
-/

namespace Appraisal.Memory

/-- An entry of a journal. -/
inductive Entry
  /-- A row was stored. -/
  | wrote (row : Row)
  /-- A savepoint was set. -/
  | mark (name : String)
deriving DecidableEq

/-- The entries of a transaction, the newest first. -/
abbrev Journal : Type := List Entry

namespace Journal

/-- The newest row of a key. -/
def newest? : Journal → RowKey → Option Row
  | [], _ => none
  | .wrote row :: j, key => if key = row.key then some row else newest? j key
  | .mark _ :: j, key => newest? j key

/-- The row of a key as the transaction sees it. -/
def row (j : Journal) (snapshot : Tables) (key : RowKey) : Option Row :=
  (j.newest? key).or (snapshot.row key)

/-- The journal without the innermost savepoint of a name and those inside it. -/
def release (name : String) : Journal → Journal
  | [] => []
  | .wrote row :: j => .wrote row :: release name j
  | .mark n :: j => if n = name then j else release name j

/-- The journal as it stood when the innermost savepoint of a name was set. -/
def back (name : String) : Journal → Journal
  | [] => []
  | .wrote _ :: j => back name j
  | .mark n :: j => if n = name then .mark n :: j else back name j

/-- The savepoints, each with what was written before it. -/
def marks : Journal → List (String × Journal)
  | [] => []
  | .wrote _ :: j => marks j
  | .mark n :: j => (n, j) :: marks j

/-- The journal after a call and its answer. -/
def after (j : Journal) : (call : SessionCall) → call.Answer → Journal
  | .begin _, .ok () => []
  | .savepoint name, .ok () => .mark name :: j
  | .releaseSavepoint name, .ok () => j.release name
  | .rollbackToSavepoint name, .ok () => j.back name
  | .store call, answer =>
    match storedRow call answer with
    | some row => .wrote row :: j
    | none => j
  | _, _ => j

/-! ## Laws -/

theorem after_store (j : Journal) (call : StoreCall) (answer : Except Failure call.Value) :
    j.after (.store call) answer =
      match storedRow call answer with
      | some row => .wrote row :: j
      | none => j := rfl

theorem newest?_release (name : String) (j : Journal) (key : RowKey) :
    (release name j).newest? key = j.newest? key := by
  induction j with
  | nil => rfl
  | cons e j ih =>
    cases e with
    | wrote row => simp only [release, newest?, ih]
    | mark n =>
      rw [release]
      split
      · rfl
      · exact ih

theorem marks_release (name : String) (j : Journal) :
    (release name j).marks = (j.marks.dropWhile fun m => m.1 != name).tail := by
  induction j with
  | nil => rfl
  | cons e j ih =>
    cases e with
    | wrote row => exact ih
    | mark n =>
      rw [release, marks]
      split
      · rename_i h
        rw [List.dropWhile_cons_of_neg (by simp [h])]
        rfl
      · rename_i h
        rw [List.dropWhile_cons_of_pos (by simp [h]), ih]

/-- Where there is a savepoint of the name, going back keeps it and what was written before. -/
theorem back_of_marks {name : String} {j inner : Journal} {n : String}
    {outer : List (String × Journal)}
    (h : j.marks.dropWhile (fun m => m.1 != name) = (n, inner) :: outer) :
    back name j = .mark n :: inner ∧ inner.marks = outer := by
  induction j with
  | nil => cases h
  | cons e j ih =>
    cases e with
    | wrote row => exact ih h
    | mark n' =>
      rw [marks] at h
      rw [back]
      split
      · rename_i hn
        rw [List.dropWhile_cons_of_neg (by simp [hn])] at h
        cases h
        exact ⟨rfl, rfl⟩
      · rename_i hn
        rw [List.dropWhile_cons_of_pos (by simp [hn])] at h
        exact ih h

end Journal

/-! ## Sessions and their journals -/

/-- The transaction is the one that a journal tells of. -/
structure Transaction.Tells (snapshot : Tables) (t : Transaction) (j : Journal) : Prop where
  /-- It remembers the rows that were stored. -/
  writes : ∀ key, key ∈ t.writes ↔ (j.newest? key).isSome
  /-- It sees the newest rows. -/
  row : ∀ key, t.tables.row key = j.row snapshot key

/-- The open transaction of a session and its savepoints are those that a journal tells of. -/
structure Session.Mirrors (snapshot : Tables) (s : Session) (j : Journal) : Prop where
  /-- The transaction. -/
  working : ∀ t, s.working = some t → t.Tells snapshot j
  /-- The savepoints. -/
  savepoints : s.working.isSome →
    List.Forall₂ (fun p m => p.1 = m.1 ∧ p.2.Tells snapshot m.2) s.savepoints j.marks

namespace Transaction

theorem tells_start (snapshot : Tables) : (start snapshot).Tells snapshot [] where
  writes _ := by simp [start, Journal.newest?]
  row _ := rfl

theorem Tells.put {snapshot : Tables} {t : Transaction} {j : Journal} (h : t.Tells snapshot j)
    (r : Row) : (t.put r).Tells snapshot (.wrote r :: j) where
  writes key := by
    rw [mem_writes_put, h.writes, Journal.newest?]
    split
    · simp [*]
    · simp [*]
  row key := by
    rw [tables_put, Tables.row_put, Journal.row, Journal.newest?]
    split
    · rfl
    · exact h.row key

theorem Tells.mark {snapshot : Tables} {t : Transaction} {j : Journal} (h : t.Tells snapshot j)
    (name : String) : t.Tells snapshot (.mark name :: j) :=
  ⟨h.writes, h.row⟩

theorem Tells.release {snapshot : Tables} {t : Transaction} {j : Journal} (h : t.Tells snapshot j)
    (name : String) : t.Tells snapshot (j.release name) where
  writes key := by rw [h.writes, Journal.newest?_release]
  row key := by rw [h.row, Journal.row, Journal.row, Journal.newest?_release]

end Transaction

namespace Session

/-- Corresponding lists stay so when what comes before a name is dropped. -/
theorem forall₂_dropWhile {R : String × Transaction → String × Journal → Prop} (name : String)
    {points : Savepoints} {marks : List (String × Journal)}
    (same : ∀ p m, R p m → p.1 = m.1) (h : List.Forall₂ R points marks) :
    List.Forall₂ R (points.dropWhile fun p => p.1 != name)
      (marks.dropWhile fun m => m.1 != name) := by
  induction h with
  | nil => exact .nil
  | @cons p m points marks hpm rest ih =>
    rw [List.dropWhile_cons, List.dropWhile_cons, same p m hpm]
    split
    · exact ih
    · exact .cons hpm rest

theorem mirrors_of_closed {s : Session} (h : s.working = none) (snapshot : Tables) (j : Journal) :
    s.Mirrors snapshot j :=
  ⟨fun t ht => (by rw [h] at ht; cases ht), fun ho => (by rw [h] at ho; cases ho)⟩

namespace Mirrors

variable {s : Session} {snapshot : Tables} {j : Journal}

/-- A call that fails changes neither. -/
theorem same (h : s.Mirrors snapshot j) (committed : Tables) :
    s.Mirrors (if begins s s then committed else snapshot) j := by
  simpa using h

theorem begin (h : s.Mirrors snapshot j) (closed : s.working = none → s.savepoints = [])
    (store : Store) (isolation : Isolation) :
    (store.begin s isolation).2.2.Mirrors
      (if begins s (store.begin s isolation).2.2 then store.committed else snapshot)
      (j.after (.begin isolation) (store.begin s isolation).1) := by
  rw [Store.begin]
  split
  · exact h.same _
  · split
    · exact h.same _
    · rename_i hw
      have hw : s.working = none := by simpa using hw
      have fresh : begins s (s.withTransaction (.start store.committed)) = true := by
        simp [begins, hw, withTransaction]
      rw [if_pos fresh]
      refine ⟨fun t ht => ?_, fun _ => ?_⟩
      · cases ht
        exact Transaction.tells_start _
      · rw [withTransaction, closed hw]
        exact .nil

theorem setReadOnly (h : s.Mirrors snapshot j) (store : Store) :
    (store.setReadOnly s).2.2.Mirrors
      (if begins s (store.setReadOnly s).2.2 then store.committed else snapshot)
      (j.after .setReadOnly (store.setReadOnly s).1) := by
  rw [Store.setReadOnly]
  split
  · rename_i t ht
    rw [begins_of_open (by rw [ht]; rfl)]
    exact ⟨h.working, h.savepoints⟩
  · exact h.same _

theorem savepoint (h : s.Mirrors snapshot j) (store : Store) (name : String) :
    (store.savepoint s name).2.2.Mirrors
      (if begins s (store.savepoint s name).2.2 then store.committed else snapshot)
      (j.after (.savepoint name) (store.savepoint s name).1) := by
  rw [Store.savepoint]
  split
  · exact h.same _
  · split
    · exact h.same _
    · rename_i t ht
      rw [begins_of_open (by rw [ht]; rfl)]
      refine ⟨fun u hu => (h.working u hu).mark name, fun _ => ?_⟩
      exact .cons ⟨rfl, h.working t ht⟩ (h.savepoints (by rw [ht]; rfl))

theorem releaseSavepoint (h : s.Mirrors snapshot j)
    (closed : s.working = none → s.savepoints = []) (store : Store) (name : String) :
    (store.releaseSavepoint s name).2.2.Mirrors
      (if begins s (store.releaseSavepoint s name).2.2 then store.committed else snapshot)
      (j.after (.releaseSavepoint name) (store.releaseSavepoint s name).1) := by
  rw [Store.releaseSavepoint]
  split
  · exact h.same _
  · rename_i point outer found
    have opened : s.working.isSome := isSome_of_savepointsFrom closed found
    rw [begins_of_open opened]
    refine ⟨fun t ht => (h.working t ht).release name, fun _ => ?_⟩
    have points := forall₂_dropWhile name (fun p m r => r.1) (h.savepoints opened)
    rw [savepointsFrom] at found
    rw [found] at points
    show List.Forall₂ _ outer (Journal.release name j).marks
    rw [Journal.marks_release]
    generalize j.marks.dropWhile (fun m => m.1 != name) = marks at points
    cases points with
    | cons _ rest => exact rest

theorem rollbackToSavepoint (h : s.Mirrors snapshot j)
    (closed : s.working = none → s.savepoints = []) (store : Store) (name : String) :
    (store.rollbackToSavepoint s name).2.2.Mirrors
      (if begins s (store.rollbackToSavepoint s name).2.2 then store.committed else snapshot)
      (j.after (.rollbackToSavepoint name) (store.rollbackToSavepoint s name).1) := by
  rw [Store.rollbackToSavepoint]
  split
  · exact h.same _
  · rename_i point outer found
    have opened : s.working.isSome := isSome_of_savepointsFrom closed found
    rw [begins_of_open opened]
    have points := forall₂_dropWhile name (fun p m r => r.1) (h.savepoints opened)
    rw [savepointsFrom] at found
    rw [found] at points
    cases hm : j.marks.dropWhile (fun m => m.1 != name) with
    | nil => rw [hm] at points; cases points
    | cons mark marks =>
      obtain ⟨n, inner⟩ := mark
      rw [hm] at points
      show Mirrors snapshot _ (Journal.back name j)
      obtain ⟨back, below⟩ := Journal.back_of_marks hm
      rw [back]
      cases points with
      | cons told rest =>
        refine ⟨fun t ht => ?_, fun _ => .cons told (below ▸ rest)⟩
        cases ht
        exact told.2.mark n

theorem store (h : s.Mirrors snapshot j) (call : StoreCall) (committed : Tables) :
    (s.store call).2.Mirrors
      (if begins s (s.store call).2 then committed else snapshot)
      (j.after (.store call) (s.store call).1) := by
  rw [Journal.after_store]
  rcases s.store_cases call with ⟨none, after⟩ | ⟨t, r, some, working, -, -, after⟩
  · rw [none, after]
    exact h.same _
  · have opened : s.working.isSome := by rw [working]; rfl
    rw [some, begins_of_open opened, after]
    refine ⟨fun u hu => ?_, fun _ => h.savepoints opened⟩
    cases hu
    exact (h.working t working).put r

theorem commit (h : s.Mirrors snapshot j) (store : Store) :
    (store.commit s).2.2.Mirrors
      (if begins s (store.commit s).2.2 then store.committed else snapshot)
      (j.after .commit (store.commit s).1) := by
  rw [Store.commit]
  split
  · exact h.same _
  · split
    · exact mirrors_of_closed rfl _ _
    · split
      · exact mirrors_of_closed rfl _ _
      · exact mirrors_of_closed rfl _ _

theorem release (h : s.Mirrors snapshot j) (store : Store) :
    (store.release s).2.2.Mirrors
      (if begins s (store.release s).2.2 then store.committed else snapshot)
      (j.after .release (store.release s).1) := by
  rw [Store.release]
  split
  · exact h.same _
  · exact mirrors_of_closed rfl _ _

/-- The journal that is kept tells of the session after every call. -/
theorem answer (h : s.Mirrors snapshot j) (closed : s.working = none → s.savepoints = [])
    (store : Store) (call : SessionCall) :
    (store.answer s call).2.2.Mirrors
      (if begins s (store.answer s call).2.2 then store.committed else snapshot)
      (j.after call (store.answer s call).1) := by
  cases call with
  | begin isolation => exact h.begin closed store isolation
  | setReadOnly => exact h.setReadOnly store
  | savepoint name => exact h.savepoint store name
  | releaseSavepoint name => exact h.releaseSavepoint closed store name
  | rollbackToSavepoint name => exact h.rollbackToSavepoint closed store name
  | store call => exact h.store call store.committed
  | commit => exact h.commit store
  | rollback => exact mirrors_of_closed rfl _ _
  | release => exact h.release store

end Mirrors

end Session

end Appraisal.Memory
