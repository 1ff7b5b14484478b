import Mathlib.Data.List.Induction
import Mathlib.Logic.Function.Basic
import Appraisal.Proofs.Memory.Journal

/-!
# The history of the store

Any number of sessions make calls in any order, and faults are planned in between.  The history
lists the commits that published, the oldest first, each with the snapshot and the journal of its
transaction.  For every session it is noted what its transaction has written and how many commits
there were when it began.

*First committer wins.*  `first_committer_wins` says when a commit succeeds and what it publishes:
it fails exactly if another commit since the begin has published one of its rows, and otherwise it
publishes the rows of its journal and nothing else.

*No lost update.*  In the history of every row, each value was written by a transaction whose
snapshot held the value just before it.

Both follow from one invariant, `History.Ok`, which every move preserves (`Ok.step`).
-/

namespace Appraisal.Memory

/-- A commit that published the rows of a transaction. -/
structure Published (ι : Type) where
  /-- The session of the transaction. -/
  session : ι
  /-- The committed tables when it began. -/
  snapshot : Tables
  /-- What it wrote. -/
  journal : Journal

/-- A session, and what is noted of its transaction. -/
structure Track where
  /-- The session. -/
  session : Session
  /-- What the transaction wrote. -/
  journal : Journal
  /-- The committed tables when it began. -/
  snapshot : Tables
  /-- The number of commits when it began. -/
  seen : Nat

/-- A session that was just opened. -/
instance : Inhabited Track := ⟨⟨default, [], default, 0⟩⟩

/-- The store with all sessions and the commits so far. -/
structure History (ι : Type) where
  /-- The store. -/
  store : Store
  /-- The sessions. -/
  tracks : ι → Track
  /-- The commits that published, the oldest first. -/
  commits : List (Published ι)

/-- What may happen next. -/
inductive Move (ι : Type)
  /-- A session makes a call. -/
  | call (i : ι) (call : SessionCall)
  /-- The failures to produce are planned anew. -/
  | plan (faults : Faults)

/-- The commit publishes what the transaction of the session wrote. -/
def publishes (s : Session) : (call : SessionCall) → call.Answer → Bool
  | .commit, .ok () => !s.readOnly
  | _, _ => false

/-- The commit has published a row of the key. -/
def Published.has {ι : Type} (c : Published ι) (key : RowKey) : Bool :=
  (c.journal.newest? key).isSome

/-- The value of a row after some commits. -/
def valueAfter {ι : Type} (initial : Tables) (commits : List (Published ι)) (key : RowKey) :
    Option Row :=
  commits.foldl (fun value c => (c.journal.newest? key).or value) (initial.row key)

namespace History

variable {ι : Type} [DecidableEq ι]

/-- All sessions are open and none has a transaction. -/
def start (store : Store) : History ι := ⟨store, fun _ => default, []⟩

/-- The notes on a session after a call. -/
def trackAfter (h : History ι) (track : Track) (call : SessionCall) : Track :=
  let result := h.store.answer track.session call
  { session := result.2.2
    journal := track.journal.after call result.1
    snapshot := if Session.begins track.session result.2.2 then h.store.committed
      else track.snapshot
    seen := if Session.begins track.session result.2.2 then h.commits.length else track.seen }

/-- The history after a move. -/
def step (h : History ι) : Move ι → History ι
  | .plan faults => { h with store.faults := faults }
  | .call i call =>
    let track := h.tracks i
    let result := h.store.answer track.session call
    { store := result.2.1
      tracks := Function.update h.tracks i (h.trackAfter track call)
      commits :=
        if publishes track.session call result.1 then
          h.commits ++ [⟨i, track.snapshot, track.journal⟩]
        else h.commits }

/-- The history after some moves. -/
def run (h : History ι) (moves : List (Move ι)) : History ι := moves.foldl step h

end History

/-! ## Commits -/

/-- A commit that no fault keeps from trying. -/
theorem Store.commit_eq {store : Store} {s : Session} {t : Transaction}
    (working : s.working = some t) (writable : s.readOnly = false)
    (noFault : store.faults.onCommit = []) :
    store.commit s = ((store.publish t).1, (store.publish t).2, s.discard) := by
  rw [commit]
  simp only [working, noFault, writable]
  rfl

theorem commit_eq_ok_iff {store : Store} {s : Session} {t : Transaction}
    (working : s.working = some t) (writable : s.readOnly = false)
    (noFault : store.faults.onCommit = []) :
    (store.commit s).1 = .ok () ↔ t.canCommit store.committed = true := by
  rw [Store.commit_eq working writable noFault]
  cases can : t.canCommit store.committed <;> simp [Store.publish, can]

/-- A commit ends the transaction, whether it succeeds or fails. -/
theorem working_commit {store : Store} {s : Session} {t : Transaction}
    (working : s.working = some t) : (store.commit s).2.2.working = none := by
  simp only [Store.commit, working]
  split
  · rfl
  · split <;> rfl

/-- What it takes for a commit to publish. -/
theorem publishes_iff {store : Store} {s : Session} {call : SessionCall} :
    publishes s call (store.answer s call).1 = true ↔
      call = .commit ∧ ∃ t, s.working = some t ∧ s.readOnly = false ∧
        store.faults.onCommit = [] ∧ t.canCommit store.committed = true := by
  constructor
  · intro h
    cases call with
    | commit =>
      refine ⟨rfl, ?_⟩
      cases working : s.working with
      | none => simp [publishes, Store.answer, Store.commit, working] at h
      | some t =>
        cases faults : store.faults.onCommit with
        | cons f rest => simp [publishes, Store.answer, Store.commit, working, faults] at h
        | nil =>
          cases writable : s.readOnly with
          | true =>
            simp [publishes, Store.answer, Store.commit, working, faults, writable] at h
          | false =>
            cases can : t.canCommit store.committed with
            | true => exact ⟨t, rfl, rfl, rfl, can⟩
            | false =>
              simp [publishes, Store.answer, Store.commit_eq working writable faults,
                Store.publish, can] at h
    | _ => simp [publishes] at h
  · rintro ⟨rfl, t, working, writable, noFault, can⟩
    simp [publishes, Store.answer, Store.commit_eq working writable noFault, Store.publish, can,
      writable]

/-- A commit that publishes leaves these tables. -/
theorem committed_of_publishes {store : Store} {s : Session} {t : Transaction}
    (working : s.working = some t) (writable : s.readOnly = false)
    (noFault : store.faults.onCommit = []) (can : t.canCommit store.committed = true) :
    (store.commit s).2.1.committed = store.committed.publish t.tables t.writes := by
  rw [Store.commit_eq working writable noFault]
  simp only [Store.publish, can, if_true]

/-- Nothing else changes the committed tables. -/
theorem committed_of_not_publishes {store : Store} {s : Session} {call : SessionCall}
    (h : publishes s call (store.answer s call).1 = false) :
    (store.answer s call).2.1.committed = store.committed := by
  rcases store.committed_answer_cases s call with same | ⟨rfl, t, working, writable, can, -⟩
  · exact same
  · cases noFault : store.faults.onCommit with
    | nil =>
      rw [publishes_iff.2 ⟨rfl, t, working, writable, noFault, can⟩] at h
      cases h
    | cons f rest => simp only [Store.answer, Store.commit, working, noFault]

/-! ## The invariant -/

/-- What is noted of a session is right. -/
structure Track.Ok {ι : Type} (initial committed : Tables) (commits : List (Published ι)) (i : ι)
    (track : Track) : Prop where
  /-- The session works on a copy of its snapshot. -/
  sound : track.session.Sound track.snapshot
  /-- The journal tells of its transaction. -/
  mirrors : track.session.Mirrors track.snapshot track.journal
  /-- The begin was not later than now. -/
  seen_le : track.seen ≤ commits.length
  /-- The snapshot holds the values of the commits before the begin. -/
  row : track.session.working.isSome → ∀ key,
    track.snapshot.row key = valueAfter initial (commits.take track.seen) key
  /-- A version has grown with each commit of its row since. -/
  version : track.session.working.isSome → ∀ key,
    committed.version key =
      track.snapshot.version key + (commits.drop track.seen).countP fun c => c.has key
  /-- The commits since are those of other sessions. -/
  others : track.session.working.isSome → ∀ c ∈ commits.drop track.seen, c.session ≠ i

/-- The commits are noted as they were. -/
structure History.Ok {ι : Type} (initial : Tables) (h : History ι) : Prop where
  /-- The committed tables hold the values of all commits. -/
  row : ∀ key, h.store.committed.row key = valueAfter initial h.commits key
  /-- What is noted of each session is right. -/
  tracks : ∀ i, (h.tracks i).Ok initial h.store.committed h.commits i
  /-- Each commit had seen the values just before its own. -/
  chain : ∀ before c after, h.commits = before ++ c :: after → ∀ key, c.has key = true →
    c.snapshot.row key = valueAfter initial before key

section

variable {ι : Type}

theorem valueAfter_append (initial : Tables) (commits : List (Published ι)) (c : Published ι)
    (key : RowKey) :
    valueAfter initial (commits ++ [c]) key =
      (c.journal.newest? key).or (valueAfter initial commits key) := by
  simp only [valueAfter, List.foldl_append, List.foldl_cons, List.foldl_nil]

/-- Commits that have not published a row leave its value. -/
theorem valueAfter_append_of_not_has (initial : Tables) (commits : List (Published ι))
    {later : List (Published ι)} {key : RowKey} (h : ∀ c ∈ later, c.has key = false) :
    valueAfter initial (commits ++ later) key = valueAfter initial commits key := by
  induction later using List.reverseRecOn with
  | nil => rw [List.append_nil]
  | append_singleton later c ih =>
    have hc : c.journal.newest? key = none := by
      simpa [Published.has] using h c (by simp)
    rw [← List.append_assoc, valueAfter_append, hc, Option.none_or]
    exact ih fun c' hc' => h c' (by simp [hc'])

namespace Track.Ok

variable {initial committed : Tables} {commits : List (Published ι)} {i : ι} {track : Track}

/-- A transaction may commit exactly if none of its rows was published since it began. -/
theorem canCommit_iff (h : track.Ok initial committed commits i) {t : Transaction}
    (working : track.session.working = some t) :
    t.canCommit committed = true ↔
      ∀ key, (track.journal.newest? key).isSome →
        ∀ c ∈ commits.drop track.seen, c.has key = false := by
  have opened : track.session.working.isSome := by rw [working]; rfl
  rw [Transaction.canCommit_iff]
  have same : ∀ key, t.tables.version key = committed.version key ↔
      ∀ c ∈ commits.drop track.seen, c.has key = false := by
    intro key
    rw [(h.sound.working t working).version, h.version opened]
    simp [List.countP_eq_zero]
  constructor
  · intro can key hk
    exact (same key).1 (can key (((h.mirrors.working t working).writes key).2 hk))
  · intro none key hk
    exact (same key).2 (none key (((h.mirrors.working t working).writes key).1 hk))

/-- The commits that stand in the way are those of other sessions. -/
theorem canCommit_iff_not_exists (h : track.Ok initial committed commits i) {t : Transaction}
    (working : track.session.working = some t) :
    t.canCommit committed = true ↔
      ¬ ∃ c ∈ commits.drop track.seen, c.session ≠ i ∧
        ∃ key, (track.journal.newest? key).isSome ∧ c.has key = true := by
  have opened : track.session.working.isSome := by rw [working]; rfl
  rw [h.canCommit_iff working]
  constructor
  · rintro none ⟨c, hc, -, key, hk, has⟩
    rw [none key hk c hc] at has
    cases has
  · intro none key hk c hc
    rw [← Bool.not_eq_true]
    exact fun has => none ⟨c, hc, h.others opened c hc, key, hk, has⟩

/-- A commit of another session only counts its rows once more. -/
theorem append (h : track.Ok initial committed commits i) {c : Published ι} {committed' : Tables}
    (other : c.session ≠ i)
    (grown : ∀ key, committed'.version key =
      committed.version key + if c.has key then 1 else 0) :
    track.Ok initial committed' (commits ++ [c]) i where
  sound := h.sound
  mirrors := h.mirrors
  seen_le := by
    rw [List.length_append]
    exact Nat.le_add_right_of_le h.seen_le
  row opened key := by
    rw [List.take_append_of_le_length h.seen_le]
    exact h.row opened key
  version opened key := by
    rw [List.drop_append_of_le_length h.seen_le, List.countP_append, grown, h.version opened,
      List.countP_singleton, Nat.add_assoc]
  others opened c' hc' := by
    rw [List.drop_append_of_le_length h.seen_le] at hc'
    rcases List.mem_append.1 hc' with hc' | hc'
    · exact h.others opened c' hc'
    · cases List.mem_singleton.1 hc'
      exact other

/-- A session without a transaction has nothing to be noted. -/
theorem of_closed {session : Session} {snapshot : Tables} {journal : Journal} {seen : Nat}
    (sound : session.Sound snapshot) (closed : session.working = none)
    (seen_le : seen ≤ commits.length) :
    Track.Ok initial committed commits i ⟨session, journal, snapshot, seen⟩ where
  sound := sound
  mirrors := Session.mirrors_of_closed closed _ _
  seen_le := seen_le
  row opened := by rw [closed] at opened; cases opened
  version opened := by rw [closed] at opened; cases opened
  others opened := by rw [closed] at opened; cases opened

end Track.Ok

namespace History

/-- The notes on a session stay right when it makes a call that does not publish. -/
theorem Ok.trackAfter {initial : Tables} {h : History ι} (ok : h.Ok initial) (i : ι)
    (call : SessionCall) :
    (h.trackAfter (h.tracks i) call).Ok initial h.store.committed h.commits i := by
  have track := ok.tracks i
  have closed : (h.tracks i).session.working = none → (h.tracks i).session.savepoints = [] :=
    fun none => (track.sound.closed none).1
  have sound := track.sound.step (h.store.step_answer (h.tracks i).session call)
  have mirrors := track.mirrors.answer closed h.store call
  rw [History.trackAfter]
  cases begun : Session.begins (h.tracks i).session
      (h.store.answer (h.tracks i).session call).2.2 with
  | true =>
    rw [begun] at sound mirrors
    exact {
      sound
      mirrors
      seen_le := Nat.le_refl _
      row := fun _ key => by
        rw [if_pos rfl, if_pos rfl, List.take_length]
        exact ok.row key
      version := fun _ key => by simp
      others := fun _ c hc => by simp at hc }
  | false =>
    rw [begun] at sound mirrors
    have before : (h.store.answer (h.tracks i).session call).2.2.working.isSome →
        (h.tracks i).session.working.isSome := by
      intro opened
      simp only [Session.begins, opened, Bool.and_true] at begun
      simpa using begun
    exact {
      sound
      mirrors
      seen_le := track.seen_le
      row := fun opened key => track.row (before opened) key
      version := fun opened key => track.version (before opened) key
      others := fun opened c hc => track.others (before opened) c hc }

theorem ok_start (store : Store) : (start store : History ι).Ok store.committed where
  row _ := rfl
  tracks _ := .of_closed (Session.sound_default _) rfl (Nat.le_refl _)
  chain before c after h := absurd h (by simp [start])

variable [DecidableEq ι]

theorem tracks_step_self (h : History ι) (i : ι) (call : SessionCall) :
    (h.step (.call i call)).tracks i = h.trackAfter (h.tracks i) call :=
  Function.update_self ..

theorem tracks_step_of_ne (h : History ι) {i j : ι} (call : SessionCall) (hj : j ≠ i) :
    (h.step (.call i call)).tracks j = h.tracks j :=
  Function.update_of_ne hj ..

/-- What holds of all sessions holds after a call, if it holds of the one that made it. -/
theorem forall_tracks_step {P : ι → Track → Prop} {h : History ι} {i : ι} {call : SessionCall}
    (before : ∀ j, P j (h.tracks j)) (own : P i (h.trackAfter (h.tracks i) call)) (j : ι) :
    P j ((h.step (.call i call)).tracks j) :=
  (Function.forall_update_iff h.tracks P).2 ⟨own, fun k _ => before k⟩ j

theorem commits_step_of_publishes {h : History ι} {i : ι} {call : SessionCall}
    (loud : publishes (h.tracks i).session call (h.store.answer (h.tracks i).session call).1 =
      true) :
    (h.step (.call i call)).commits =
      h.commits ++ [⟨i, (h.tracks i).snapshot, (h.tracks i).journal⟩] := by
  simp only [step, loud, if_true]

theorem commits_step_of_not_publishes {h : History ι} {i : ι} {call : SessionCall}
    (silent : publishes (h.tracks i).session call (h.store.answer (h.tracks i).session call).1 =
      false) : (h.step (.call i call)).commits = h.commits := by
  simp only [step, silent, Bool.false_eq_true, if_false]

/-- A call that does not publish keeps the notes right. -/
theorem Ok.step_call {initial : Tables} {h : History ι} (ok : h.Ok initial) {i : ι}
    {call : SessionCall}
    (silent : publishes (h.tracks i).session call (h.store.answer (h.tracks i).session call).1 =
      false) :
    (h.step (.call i call)).Ok initial := by
  have same : (h.step (.call i call)).store.committed = h.store.committed :=
    committed_of_not_publishes silent
  have commits := commits_step_of_not_publishes silent
  refine ⟨fun key => ?_, fun j => ?_, ?_⟩
  · rw [same, commits]
    exact ok.row key
  · rw [same, commits]
    exact forall_tracks_step ok.tracks (ok.trackAfter i call) j
  · rw [commits]
    exact ok.chain

/-- A commit that publishes keeps the notes right. -/
theorem Ok.step_commit {initial : Tables} {h : History ι} (ok : h.Ok initial) {i : ι}
    (loud : publishes (h.tracks i).session .commit (h.store.commit (h.tracks i).session).1 = true) :
    (h.step (.call i .commit)).Ok initial := by
  obtain ⟨-, t, working, writable, noFault, can⟩ := publishes_iff.1 loud
  have track := ok.tracks i
  have copied := track.sound.working t working
  have told := track.mirrors.working t working
  have opened : (h.tracks i).session.working.isSome := by rw [working]; rfl
  have published : (h.step (.call i .commit)).store.committed =
      h.store.committed.publish t.tables t.writes :=
    committed_of_publishes working writable noFault can
  have commits : (h.step (.call i .commit)).commits =
      h.commits ++ [⟨i, (h.tracks i).snapshot, (h.tracks i).journal⟩] :=
    commits_step_of_publishes loud
  have has : ∀ key, key ∈ t.writes ↔
      (⟨i, (h.tracks i).snapshot, (h.tracks i).journal⟩ : Published ι).has key = true :=
    told.writes
  have current : ∀ key, key ∈ t.writes →
      (h.tracks i).snapshot.row key = valueAfter initial h.commits key := by
    intro key hk
    have none := (track.canCommit_iff working).1 can key ((told.writes key).1 hk)
    have later := valueAfter_append_of_not_has initial (h.commits.take (h.tracks i).seen) none
    rw [List.take_append_drop] at later
    rw [track.row opened, later]
  refine ⟨fun key => ?_, fun j => ?_, ?_⟩
  · rw [published, commits, Tables.row_publish, valueAfter_append]
    by_cases hk : key ∈ t.writes
    · obtain ⟨r, hr⟩ := Option.isSome_iff_exists.1 ((told.writes key).1 hk)
      rw [if_pos hk, told.row, Journal.row, hr]
      rfl
    · have none : (h.tracks i).journal.newest? key = none := by
        simpa using mt (told.writes key).2 hk
      rw [if_neg hk, none, Option.none_or]
      exact ok.row key
  · rw [commits]
    by_cases hj : j = i
    · subst hj
      have after := ok.trackAfter j .commit
      have closed : (h.trackAfter (h.tracks j) .commit).session.working = none := by
        show (h.store.commit (h.tracks j).session).2.2.working = none
        rw [Store.commit_eq working writable noFault]
        rfl
      rw [tracks_step_self]
      exact .of_closed after.sound closed (Nat.le_trans after.seen_le (by simp))
    · rw [tracks_step_of_ne h .commit hj]
      refine (ok.tracks j).append (Ne.symm hj) fun key => ?_
      rw [published, Tables.version_publish _ _ copied.nodup]
      by_cases hk : key ∈ t.writes
      · rw [if_pos hk, if_pos ((has key).1 hk)]
      · rw [if_neg hk, if_neg (mt (has key).2 hk), Nat.add_zero]
  · rw [commits]
    intro before c after split key hk
    rcases List.eq_nil_or_concat after with rfl | ⟨after, last, rfl⟩
    · obtain ⟨rfl, same⟩ := List.append_inj' split rfl
      cases same
      exact current key ((has key).2 hk)
    · rw [List.concat_eq_append, ← List.cons_append, ← List.append_assoc] at split
      obtain ⟨split, -⟩ := List.append_inj' split rfl
      exact ok.chain before c after split key hk

/-- Every move keeps the notes right. -/
theorem Ok.step {initial : Tables} {h : History ι} (ok : h.Ok initial) (move : Move ι) :
    (h.step move).Ok initial := by
  cases move with
  | plan faults => exact ⟨ok.row, ok.tracks, ok.chain⟩
  | call i call =>
    cases loud : publishes (h.tracks i).session call
        (h.store.answer (h.tracks i).session call).1 with
    | false => exact ok.step_call loud
    | true =>
      obtain ⟨rfl, -⟩ := publishes_iff.1 loud
      exact ok.step_commit loud

/-- After any moves the notes are right. -/
theorem ok_run (store : Store) (moves : List (Move ι)) :
    ((start store).run moves).Ok store.committed := by
  induction moves using List.reverseRecOn with
  | nil => exact ok_start store
  | append_singleton moves move ih =>
    rw [run, List.foldl_append]
    exact ih.step move

/-- In every history, a commit that no fault keeps from trying succeeds exactly if none of the
rows in its journal was published by another session since it began.  Then it publishes the rows of
its journal as its transaction sees them, counts them once more, and leaves all others.  A commit
that fails changes no row and no version and ends the transaction.  And each value that was ever
published replaced the one that its transaction's snapshot held. -/
theorem first_committer_wins (store : Store) (moves : List (Move ι)) :
    let h := (start store).run moves
    (∀ i t, (h.tracks i).session.working = some t →
      ((h.tracks i).session.readOnly = false → h.store.faults.onCommit = [] →
        ((h.store.commit (h.tracks i).session).1 = .ok () ↔
          ¬ ∃ c ∈ h.commits.drop (h.tracks i).seen, c.session ≠ i ∧
            ∃ key, ((h.tracks i).journal.newest? key).isSome ∧ c.has key = true) ∧
        ((h.store.commit (h.tracks i).session).1 = .ok () → ∀ key,
          (h.store.commit (h.tracks i).session).2.1.committed.row key =
              (if ((h.tracks i).journal.newest? key).isSome then t.tables.row key
              else h.store.committed.row key) ∧
          (h.store.commit (h.tracks i).session).2.1.committed.version key =
            h.store.committed.version key +
              if ((h.tracks i).journal.newest? key).isSome then 1 else 0)) ∧
      ∀ f, (h.store.commit (h.tracks i).session).1 = .error f →
        (h.store.commit (h.tracks i).session).2.1.committed = h.store.committed ∧
        (h.store.commit (h.tracks i).session).2.2.working = none) ∧
    (∀ key, h.store.committed.row key = valueAfter store.committed h.commits key) ∧
    ∀ before c after, h.commits = before ++ c :: after → ∀ key, c.has key = true →
      c.snapshot.row key = valueAfter store.committed before key := by
  intro h
  have ok := ok_run store moves
  refine ⟨fun i t working => ⟨fun writable noFault => ?_, fun f failed => ?_⟩, ok.row, ok.chain⟩
  · have track := ok.tracks i
    refine ⟨?_, fun done key => ?_⟩
    · rw [commit_eq_ok_iff working writable noFault]
      exact track.canCommit_iff_not_exists working
    · have can := (commit_eq_ok_iff working writable noFault).1 done
      have told := (track.mirrors.working t working).writes key
      rw [committed_of_publishes working writable noFault can, Tables.row_publish,
        Tables.version_publish _ _ (track.sound.working t working).nodup]
      by_cases hk : key ∈ t.writes
      · rw [if_pos hk, if_pos hk, if_pos (told.1 hk), if_pos (told.1 hk)]
        exact ⟨rfl, rfl⟩
      · rw [if_neg hk, if_neg hk, if_neg (mt told.2 hk), if_neg (mt told.2 hk)]
        exact ⟨rfl, rfl⟩
  · have silent : publishes (h.tracks i).session .commit
        (h.store.answer (h.tracks i).session .commit).1 = false := by
      show publishes _ .commit (h.store.commit (h.tracks i).session).1 = false
      rw [failed]
      rfl
    exact ⟨committed_of_not_publishes silent, working_commit working⟩

/-- Two sessions store the record of one mapping, and the first one commits. -/
def twoWriters : List (Move Bool) := [
  .call true (.begin .serializable), .call false (.begin .serializable),
  .call true (.store (.saveApproval (.fresh default default))),
  .call false (.store (.saveApproval (.fresh default default))), .call true .commit]

/-- The other one cannot. -/
theorem first_committer_wins_twoWriters :
    ¬ (((start default).run twoWriters).store.commit
      (((start default).run twoWriters).tracks false).session).1 = .ok () := by
  have wins := ((first_committer_wins default twoWriters).1 false
    ((Transaction.start default).saveApproval (.fresh default default)) rfl).1 rfl rfl
  rw [wins.1, not_not]
  exact ⟨⟨true, default, [.wrote (.approval (.fresh default default))]⟩, List.mem_singleton_self _,
    nofun, .approval default, rfl, rfl⟩

end History

end

end Appraisal.Memory
