import Mathlib.Data.Finset.Card
import Appraisal.Proofs.Concurrent.Attachment
import Appraisal.Proofs.Concurrent.Undisturbed

/-!
# Retries are lost to progress

A call that gives up because of conflicts was overtaken in each of its attempts.  Versions count the
publications of a row (`Ok.version_step`), and each call publishes once, so the publications of its
row between its first begin and its last commit are those of as many others
(`Recalls.overtaken`).  Changes of status that run alone can therefore not give up because of
conflicts, if each of them is allowed as many attempts as there are of them.

They can still be refused by the store, but only for an identifier that is taken: a request that is
stored under the identifier that a change generates makes it fail at once (`refused_when_taken`).
Where no such request is stored (`Novel`), they return values or errors of the application.

`System.retries_lost_to_progress` says all this, and that a call that keeps getting turns returns.
-/

namespace Appraisal.Memory

open Workflow

/-- The call may write rows. -/
def mayWrite : Call → Bool
  | .setStepStatus _ | .createRequest _ | .markRead .. | .submitCompletion .. => true
  | .listForRecipient .. | .countUnread _ | .getRequest _ | .getRecord _ => false

section

variable {origin : Store} {s : Service} {c : Call}

/-- A call that fails has published nothing. -/
theorem Tale.unpublished_of_error {e : WorkflowError} {b : Progress}
    (h : Tale origin s c (pure (.error e)) b) : b.published = false := by
  cases h with
  | unsettled hidden => exact hidden.unpublished
  | settled h =>
    cases h with
    | refused _ _ hidden => exact hidden.unpublished
    | done _ worked _ published _ _ _ _ path =>
      have returns := returns_of_path path
      refine Bool.eq_false_iff.2 fun done => published.1 done ?_
      cases worked with
      | failed => rfl
      | read | wrote => cases returns

/-- A call that has published may write. -/
theorem Tale.mayWrite_of_published {p : Action WorkflowEvent (Except WorkflowError c.Value)}
    {b : Progress} (h : Tale origin s c p b) (done : b.published = true) :
    mayWrite c = true := by
  have hidden : ¬ b.Hidden := fun hidden => by
    rw [hidden.unpublished] at done
    cases done
  cases h with
  | unsettled h => exact absurd h hidden
  | settled h =>
    cases h with
    | refused _ _ h => exact absurd h hidden
    | done _ worked _ published =>
      cases worked with
      | failed | read => exact absurd rfl (published.1 done)
      | wrote writes =>
        cases c with
        | setStepStatus | createRequest | markRead | submitCompletion => rfl
        | _ => cases writes

end

namespace System

variable {ι : Type} [DecidableEq ι] {calls : ι → Call}

/-! ## Publications -/

/-- The call commits with its next turn, and that publishes a row. -/
structure Publishes (sys : System calls) (j : ι) (w : Outside) (key : RowKey) : Prop where
  commits : ∃ next, (sys.clients j).rest = .call (.session .commit) next
  version : (sys.step (.turn j w)).store.committed.version key =
    sys.store.committed.version key + 1

/-- Another call has published a row after a call first began and before it last committed. -/
structure Overtakes (sys : System calls) (turns : List (ι × Outside)) (i : ι) (key : RowKey)
    (j : ι) : Prop where
  other : j ≠ i
  between : ∃ early w late, turns = early ++ (j, w) :: late ∧ (sys.after early).Publishes j w key ∧
    0 < ((sys.after early).clients i).progress.made isBegin ∧
    ((sys.after early).clients i).progress.made isCommit <
      ((sys.after turns).clients i).progress.made isCommit

section

variable {origin : Store} {service : ι → Service} {sys : System calls}

omit [DecidableEq ι] in
theorem Ok.unpublished_of_error (ok : sys.Ok origin service) {i : ι} {e : WorkflowError}
    (failed : (sys.clients i).rest = pure (.error e)) :
    (sys.clients i).progress.published = false := by
  have tale := (ok.clients i).safe.tale
  rw [failed] at tale
  exact tale.unpublished_of_error

/-- A row gets a new version with a commit of a call that has not published before. -/
theorem Ok.version_step (ok : sys.Ok origin service) (i : ι) (w : Outside) (key : RowKey) :
    (sys.step (.turn i w)).store.committed.version key = sys.store.committed.version key ∨
      sys.Publishes i w key ∧ (sys.clients i).progress.published = false ∧
        ((sys.step (.turn i w)).clients i).progress.published = true := by
  cases rest : (sys.clients i).rest with
  | pure r =>
    rw [step_of_returned w rest]
    exact .inl rfl
  | call request next =>
    let b := (sys.clients i).progress
    by_cases same : (w.answer sys.store b.session request).2.1.committed = sys.store.committed
    · rw [store_step w rest, same]
      exact .inl rfl
    obtain rfl := eq_commit_of_committed_ne same
    obtain ⟨t, working, -, -, after⟩ := (sys.store.committed_commit b.session).resolve_left same
    have version := Tables.version_publish sys.store.committed t.tables
      ((ok.admits i).sound.working t working).nodup key
    have grown : (sys.step (.turn i w)).store.committed.version key =
        if key ∈ t.writes then sys.store.committed.version key + 1
        else sys.store.committed.version key := by
      rw [store_step w rest, ← version]
      exact congrArg (Tables.version · key) after
    by_cases wrote : key ∈ t.writes
    · rw [if_pos wrote] at grown
      have tale := (ok.clients i).safe.tale
      rw [rest] at tale
      refine .inr ⟨⟨⟨next, rest⟩, grown⟩, tale.unpublished_of_not_calm fun calm => calm, ?_⟩
      rw [client_step w rest]
      show (b.published || decide _) = true
      rw [decide_eq_true same, Bool.or_true]
    · rw [if_neg wrote] at grown
      exact .inl grown

/-- The new versions that a row gets in a run are due to as many calls. -/
theorem Ok.publishers (ok : sys.Ok origin service) (turns : List (ι × Outside)) (key : RowKey) :
    ∃ publishers : Finset ι,
      (sys.after turns).store.committed.version key ≤
        sys.store.committed.version key + publishers.card ∧
      ∀ j ∈ publishers, ((sys.after turns).clients j).progress.published = true ∧
        ∃ early w late, turns = early ++ (j, w) :: late ∧ (sys.after early).Publishes j w key := by
  induction turns using List.reverseRecOn with
  | nil => exact ⟨∅, Nat.le_refl _, fun j mem => absurd mem (Finset.notMem_empty j)⟩
  | append_singleton turns turn ih =>
    obtain ⟨i, w⟩ := turn
    obtain ⟨publishers, bound, all⟩ := ih
    have later : ∀ j ∈ publishers,
        ((sys.after (turns ++ [(i, w)])).clients j).progress.published = true ∧
        ∃ early w' late, turns ++ [(i, w)] = early ++ (j, w') :: late ∧
          (sys.after early).Publishes j w' key := by
      intro j mem
      obtain ⟨published, early, w', late, rfl, publishes⟩ := all j mem
      refine ⟨(sys.older_of_prefix (List.prefix_append _ _) j).published published, early, w',
        late ++ [(i, w)], ?_, publishes⟩
      rw [List.append_assoc, List.cons_append]
    rcases (ok.after turns).version_step i w key with same | ⟨publishes, unpublished, published⟩
    · refine ⟨publishers, ?_, later⟩
      rw [after_snoc, same]
      exact bound
    · have new : i ∉ publishers := fun mem => by
        rw [(all i mem).1] at unpublished
        cases unpublished
      refine ⟨insert i publishers, ?_, fun j mem => ?_⟩
      · rw [after_snoc, publishes.version, Finset.card_insert_of_notMem new]
        omega
      · rcases Finset.mem_insert.1 mem with rfl | mem
        · rw [after_snoc]
          exact ⟨published, turns, w, [], rfl, publishes⟩
        · exact later j mem

/-- A call that has failed and lost so many attempts was overtaken by as many others. -/
theorem Recalls.overtaken {turns : List (ι × Outside)} {i : ι} {a : Plight}
    (h : Recalls sys turns i a) (ok : sys.Ok origin service) {e : WorkflowError}
    (failed : ((sys.after turns).clients i).rest = pure (.error e)) {n : Nat}
    (lost : Lost (calls i) n a) :
    ∃ key, contested (calls i) = some key ∧ ∃ rivals : Finset ι, n ≤ rivals.card ∧
      ∀ j ∈ rivals, ((sys.after turns).clients j).progress.published = true ∧
        sys.Overtakes turns i key j := by
  obtain ⟨key, start, own, begun, lost⟩ := lost
  refine ⟨key, own, ?_⟩
  rcases Nat.eq_zero_or_pos n with rfl | pos
  · exact ⟨∅, Nat.le_refl _, fun j mem => absurd mem (Finset.notMem_empty j)⟩
  obtain ⟨first, before, rfl, begins⟩ := h.first start begun
  rcases h.last with unasked | ⟨last, before', same, less⟩
  · have none : a.last.version key = 0 := by
      rw [unasked]
      rfl
    omega
  rw [← same] at lost
  rcases List.prefix_or_prefix_of_prefix before before' with ⟨window, rfl⟩ | backwards
  · obtain ⟨late, rfl⟩ := before'
    obtain ⟨rivals, bound, all⟩ := (ok.after first).publishers window key
    rw [← after_append] at bound
    refine ⟨rivals, by omega, fun j mem => ?_⟩
    obtain ⟨published, early, w, rest, rfl, publishes⟩ := all j mem
    rw [← after_append] at published publishes
    have published := (sys.older_of_prefix (List.prefix_append _ late) j).published published
    refine ⟨published, ?_, first ++ early, w, rest ++ late, ?_, publishes, ?_, ?_⟩
    · rintro rfl
      rw [(ok.after _).unpublished_of_error failed] at published
      cases published
    · simp only [List.append_assoc, List.cons_append]
    · exact Nat.lt_of_lt_of_le begins
        ((sys.older_of_prefix (List.prefix_append _ _) i).made_le isBegin)
    · refine Nat.lt_of_le_of_lt ((sys.older_of_prefix ?_ i).made_le isCommit) less
      rw [← List.append_assoc]
      exact List.prefix_append _ _
  · have grown := (ok.evolves_of_prefix backwards).version_le key
    omega

end

/-! ## Calls that keep getting turns -/

theorem client_after_of_others (sys : System calls) {i : ι} {turns : List (ι × Outside)}
    (others : ∀ turn ∈ turns, turn.1 ≠ i) : (sys.after turns).clients i = sys.clients i := by
  induction turns using List.reverseRecOn with
  | nil => rfl
  | append_singleton turns turn ih =>
    rw [after_snoc, clients_step_of_ne _ (others turn (by simp)).symm]
    exact ih fun turn mem => others turn (List.mem_append_left _ mem)

/-- A call that keeps getting turns returns, whatever the others do. -/
theorem exists_returned (sys : System calls) (i : ι) (schedule : Nat → ι × Outside)
    (fair : ∀ n, ∃ m, n ≤ m ∧ (schedule m).1 = i) :
    ∃ n r, ((sys.after ((List.range n).map schedule)).clients i).rest = pure r := by
  generalize program : (sys.clients i).rest = p
  -- on what is left of its program, whatever answers it gets
  induction p generalizing sys schedule with
  | pure r => exact ⟨0, r, program⟩
  | call request next ih =>
    have some : ∃ m, (schedule m).1 = i := (fair 0).imp fun _ => And.right
    let m := Nat.find some
    let w := (schedule m).2
    have waits : ((sys.after ((List.range m).map schedule)).clients i) = sys.clients i := by
      refine sys.client_after_of_others fun turn mem => ?_
      obtain ⟨k, early, rfl⟩ := List.mem_map.1 mem
      exact Nat.find_min some (List.mem_range.1 early)
    have turn : (List.range (m + 1)).map schedule = (List.range m).map schedule ++ [(i, w)] := by
      rw [List.range_succ, List.map_append]
      exact congrArg (_ ++ [·]) (Prod.ext (Nat.find_spec some) rfl)
    have own := client_step w (waits ▸ program)
    rw [← after_snoc, ← turn] at own
    have fair' : ∀ k, ∃ k', k ≤ k' ∧ (schedule (m + 1 + k')).1 = i := by
      intro k
      obtain ⟨_, le, same⟩ := fair (m + 1 + k)
      obtain ⟨d, rfl⟩ := Nat.exists_eq_add_of_le le
      exact ⟨k + d, Nat.le_add_right _ _, by rw [← same, Nat.add_assoc (m + 1)]⟩
    obtain ⟨n, r, returned⟩ :=
      ih _ _ (fun k => schedule (m + 1 + k)) fair' (congrArg Client.rest own)
    refine ⟨m + 1 + n, r, ?_⟩
    rw [List.range_add, List.map_append, List.map_map, after_append]
    exact returned

/-! ## Calls that give up -/

/-- No two calls have generated the same identifier. -/
def Distinct (sys : System calls) : Prop :=
  ∀ i j, i ≠ j → ∀ id ∈ (sys.clients i).progress.drawn, id ∉ (sys.clients j).progress.drawn

/-- No request is stored under an identifier that a call has generated. -/
def Novel (sys : System calls) (t : Tables) : Prop :=
  ∀ i, ∀ id ∈ (sys.clients i).progress.drawn, t.requests.get? id = none

omit [DecidableEq ι] in
/-- In tables that can be reached, what has no request has no rows of recipients either. -/
theorem Novel.lacks {sys : System calls} {t : Tables} (novel : sys.Novel t) (reached : t.Reached)
    (i : ι) : ∀ id ∈ (sys.clients i).progress.drawn, t.Lacks id := by
  intro id mem key about
  have absent : t.row (.request id) = none := by
    rw [Tables.row, novel i id mem]
    rfl
  cases key with
  | approval => cases about
  | request =>
    cases about
    exact absent
  | recipient _ e =>
    cases about
    rw [Tables.row, reached.attached.recipient_eq_none absent e]
    rfl

omit [DecidableEq ι] in
/-- Identifiers are new where no requests are stored. -/
theorem novel_of_no_requests (sys : System calls) {t : Tables} (empty : t.requests = .empty) :
    sys.Novel t := by
  intro i id _
  rw [empty]
  rfl

instance [Fintype ι] (sys : System calls) : Decidable sys.Distinct :=
  inferInstanceAs (Decidable (∀ i j, i ≠ j → ∀ id ∈ (sys.clients i).progress.drawn,
    id ∉ (sys.clients j).progress.drawn))

theorem maxRetries_of_change {c : Call} {change : StepStatusChange}
    (own : c = .setStepStatus change) (s : Service) (plan : c.Plan) :
    (c.job s plan).maxRetries = s.coordinator.settings.serializableMaxRetries := by
  subst own
  rfl

section

variable {service : ι → Service} {store : Store} {turns : List (ι × Outside)}

theorem Ongoing.overtaken {ids : ι → List RevisionRequestId} {promised : Prop}
    {sys : System calls} (h : sys.Ongoing store service ids promised turns)
    (ok : sys.Ok store service) {i : ι} {e : TransactionError}
    (failed : ((sys.after turns).clients i).rest = pure (.error (.transaction e)))
    (conflict : e.kind = .serializationFailure) :
    ∃ key, contested (calls i) = some key ∧ ∃ rivals : Finset ι, e.attempts ≤ rivals.card ∧
      ∀ j ∈ rivals, ((sys.after turns).clients j).progress.published = true ∧
        sys.Overtakes turns i key j := by
  obtain ⟨a, recalls, fares⟩ := h.fares i
  rw [failed] at fares
  have concludes : Concludes promised (service i) (calls i) a (.error (.transaction e)) := fares
  cases concludes with
  | application h => cases h
  | lost kind lost => exact recalls.overtaken ok failed lost
  | refused kind => exact absurd conflict kind

/-- Changes of status that run alone do not give up because of conflicts, if each is allowed as many
attempts as there are of them. -/
theorem Ongoing.kind_ne {ids : ι → List RevisionRequestId} {promised : Prop}
    {sys : System calls} (h : sys.Ongoing store service ids promised turns)
    (ok : sys.Ok store service) {changes : Finset ι}
    (only : ∀ j, mayWrite (calls j) = true → j ∈ changes) {i : ι} (mem : i ∈ changes)
    {change : StepStatusChange} (own : calls i = .setStepStatus change)
    (enough : changes.card ≤ (service i).coordinator.settings.serializableMaxRetries)
    {e : TransactionError}
    (failed : ((sys.after turns).clients i).rest = pure (.error (.transaction e))) :
    e.kind ≠ .serializationFailure := by
  obtain ⟨a, recalls, fares⟩ := h.fares i
  rw [failed] at fares
  have concludes : Concludes promised (service i) (calls i) a (.error (.transaction e)) := fares
  cases concludes with
  | application h => cases h
  | refused kind => exact kind
  | lost kind lost plan all =>
    obtain ⟨key, -, rivals, bound, overtake⟩ := h.overtaken ok failed kind
    have others : rivals ⊆ changes.erase i := fun j rival => by
      obtain ⟨published, overtakes⟩ := overtake j rival
      refine Finset.mem_erase.2 ⟨overtakes.other, only j ?_⟩
      exact ((ok.after turns).clients j).safe.tale.mayWrite_of_published published
    have few := Finset.card_le_card others
    have fewer := Finset.card_erase_lt_of_mem mem
    rw [maxRetries_of_change own] at all
    omega

/-- What a call returns counts, if it has not given up because of conflicts and its identifiers were
promised to be new. -/
theorem Ongoing.counts {ids : ι → List RevisionRequestId} {sys : System calls}
    (h : sys.Ongoing store service ids True turns) {i : ι}
    {r : Except WorkflowError (calls i).Value}
    (returned : ((sys.after turns).clients i).rest = pure r)
    (calm : ∀ e, r = .error (.transaction e) → e.kind ≠ .serializationFailure) :
    counts r = true := by
  obtain ⟨a, -, fares⟩ := h.fares i
  rw [returned] at fares
  have concludes : Concludes True (service i) (calls i) a r := fares
  cases concludes with
  | value v => rfl
  | application h => exact h
  | refused kind unpromised => exact absurd trivial unpromised
  | lost kind => exact absurd kind (calm _ rfl)

end

/-- Calls run on a store without planned failures and generate different identifiers.  A call that
gives up because of conflicts was overtaken as often as it tried, each time by another call.  So if
nothing but some changes of status writes, and each of them is allowed as many attempts as there are
of them, then none of them gives up because of conflicts, and each of them that keeps getting turns
returns.

So far it does not matter what was stored before.  The store refuses a request whose identifier is
taken, though, and a change that generates such an identifier fails without any conflict
(`refused_when_taken`).  If none of the identifiers is taken, which is so where no requests are
stored (`novel_of_no_requests`), every change returns a value or an error of the application. -/
theorem retries_lost_to_progress (service : ι → Service) (calls : ι → Call) (store : Store)
    (reached : store.committed.Reached) (onBegin : store.faults.onBegin = [])
    (onCommit : store.faults.onCommit = []) :
    let initial : System calls := start service calls store
    (∀ turns, (initial.after turns).Distinct → ∀ i (e : TransactionError),
      ((initial.after turns).clients i).rest = pure (.error (.transaction e)) →
      e.kind = .serializationFailure →
      ∃ key, contested (calls i) = some key ∧ ∃ rivals : Finset ι,
        e.attempts ≤ rivals.card ∧ ∀ j ∈ rivals, initial.Overtakes turns i key j) ∧
    ∀ changes : Finset ι, (∀ i ∈ changes, ∃ change, calls i = .setStepStatus change) →
      (∀ i, mayWrite (calls i) = true → i ∈ changes) →
      ∀ i ∈ changes, changes.card ≤ (service i).coordinator.settings.serializableMaxRetries →
        (∀ turns, (initial.after turns).Distinct →
          ∀ r, ((initial.after turns).clients i).rest = pure r →
            (∀ e, r = .error (.transaction e) → e.kind ≠ .serializationFailure) ∧
            ((initial.after turns).Novel store.committed → counts r = true)) ∧
        ∀ schedule : Nat → ι × Outside, (∀ n, ∃ m, n ≤ m ∧ (schedule m).1 = i) →
          ∃ n r, ((initial.after ((List.range n).map schedule)).clients i).rest = pure r := by
  intro initial
  have ok : initial.Ok store service := ok_start service calls reached.keyed
  have begin : ∀ (turns : List (ι × Outside)) (promised : Prop),
      (initial.after turns).Distinct → (promised → (initial.after turns).Novel store.committed) →
      initial.Ongoing store service
        (fun i => ((initial.after turns).clients i).progress.drawn) promised turns :=
    fun turns promised distinct novel =>
      ongoing (peaceful_start reached.keyed onBegin onCommit fun promise =>
        (novel promise).lacks reached) distinct turns fun _ _ => id
  refine ⟨fun turns distinct i e failed conflict => ?_, fun changes own only i mem enough =>
    ⟨fun turns distinct r returned => ?_, fun schedule => initial.exists_returned i schedule⟩⟩
  · obtain ⟨key, contends, rivals, bound, overtake⟩ :=
      (begin turns False distinct nofun).overtaken ok failed conflict
    exact ⟨key, contends, rivals, bound, fun j rival => (overtake j rival).2⟩
  · obtain ⟨change, same⟩ := own i mem
    have calm : ∀ e, r = .error (.transaction e) → e.kind ≠ .serializationFailure := by
      rintro e rfl
      exact (begin turns False distinct nofun).kind_ne ok only mem same enough returned
    exact ⟨calm, fun novel => (begin turns True distinct fun _ => novel).counts returned calm⟩

/-- Two revisions are asked for, of different steps of one mapping, and somebody reads. -/
def twoRevisions : Fin 3 → Call
  | 0 => .setStepStatus ⟨default, .selfEvaluation, .revisionRequested, default,
      some "Please revise the evaluation.", []⟩
  | 1 => .setStepStatus ⟨default, .criteria, .revisionRequested, default,
      some "Please revise the criteria.", []⟩
  | 2 => .getRecord default

/-- Changes are allowed so many attempts. -/
def allowing (attempts : Nat) (_ : Fin 3) : Service :=
  ⟨⟨{ (default : RetrySettings) with serializableMaxRetries := attempts }, .log⟩, default⟩

/-- The calls take turns, and each of them draws bits of its own. -/
def byTurns (n : Nat) : Fin 3 × Outside :=
  (Fin.ofNat 3 n, ⟨default, ⟨BitVec.ofNat 128 (n % 3)⟩, .ok ()⟩)

/-- The error that a transaction was given up with. -/
def givenUp? {V : Type} : Except WorkflowError V → Option TransactionError
  | .error (.transaction e) => some e
  | _ => none

theorem eq_of_givenUp? {V : Type} {r : Except WorkflowError V} {e : TransactionError}
    (h : givenUp? r = some e) : r = .error (.transaction e) := by
  unfold givenUp? at h
  split at h
  · cases h
    rfl
  · cases h

theorem rest_of_givenUp? {V : Type} {p : Action WorkflowEvent (Except WorkflowError V)}
    {e : TransactionError} (h : p.value?.bind givenUp? = some e) :
    p = pure (.error (.transaction e)) := by
  obtain ⟨r, returned, same⟩ := Option.bind_eq_some_iff.1 h
  obtain ⟨r', rfl⟩ := Program.eq_pure_of_isSome (Option.isSome_of_eq_some returned)
  obtain rfl : r' = r := Option.some.inj returned
  rw [eq_of_givenUp? same]
  rfl

theorem change_of_mem : ∀ i ∈ ({0, 1} : Finset (Fin 3)),
    ∃ change, twoRevisions i = .setStepStatus change := by
  intro i mem
  rcases Finset.mem_insert.1 mem with rfl | mem
  · exact ⟨_, rfl⟩
  · rw [Finset.mem_singleton.1 mem]
    exact ⟨_, rfl⟩

theorem byTurns_fair (i : Fin 3) (n : Nat) : ∃ m, n ≤ m ∧ (byTurns m).1 = i := by
  refine ⟨3 * n + i, by omega, Fin.ext ?_⟩
  show (3 * n + i.1) % 3 = i.1
  omega

/-- Enough turns for all. -/
def rounds : List (Fin 3 × Outside) := (List.range 96).map byTurns

/-- With one attempt the second change gives up, since the first one has overtaken it.  With two
attempts both return values or errors of the application. -/
theorem retries_lost_to_progress_twoRevisions :
    ((((start (allowing 1) twoRevisions oneMapping).after rounds).clients 1).rest = pure
        (.error (.transaction ⟨.serializationFailure, concurrentUpdate, "set_step_status", 1⟩)) ∧
      ∃ key, contested (twoRevisions 1) = some key ∧ ∃ rivals : Finset (Fin 3),
        1 ≤ rivals.card ∧ ∀ j ∈ rivals,
          (start (allowing 1) twoRevisions oneMapping).Overtakes rounds 1 key j) ∧
    ((start (allowing 2) twoRevisions oneMapping).after rounds).store.stats.conflicts = 1 ∧
    ∀ i ∈ ({0, 1} : Finset (Fin 3)),
      (∃ r, (((start (allowing 2) twoRevisions oneMapping).after rounds).clients i).rest = pure r ∧
        counts r = true) ∧
      ∃ n r, (((start (allowing 2) twoRevisions oneMapping).after
        ((List.range n).map byTurns)).clients i).rest = pure r := by
  have reached : oneMapping.committed.Reached := ⟨default, [], rfl, rfl⟩
  refine ⟨?_, by decide +kernel, fun i mem => ?_⟩
  · have gaveUp : (((start (allowing 1) twoRevisions oneMapping).after
        rounds).clients 1).rest.value?.bind givenUp? =
          some ⟨.serializationFailure, concurrentUpdate, "set_step_status", 1⟩ := by
      decide +kernel
    have left := rest_of_givenUp? gaveUp
    exact ⟨left, (retries_lost_to_progress (allowing 1) twoRevisions oneMapping reached rfl rfl).1
      rounds (by decide +kernel) 1 _ left rfl⟩
  · have both := (retries_lost_to_progress (allowing 2) twoRevisions oneMapping reached rfl rfl).2
      {0, 1} change_of_mem (by decide) i mem (Nat.le_refl 2)
    have returned : ∀ i, (((start (allowing 2) twoRevisions oneMapping).after
        rounds).clients i).rest.value?.isSome := by decide +kernel
    obtain ⟨r, left⟩ := Program.eq_pure_of_isSome (returned i)
    exact ⟨⟨r, left, (both.1 rounds (by decide +kernel) r left).2 (novel_of_no_requests _ rfl)⟩,
      both.2 byTurns (byTurns_fair i)⟩

/-- A session stores a request under the identifier that the first change will generate. -/
def storeTaken : List (Move Nat) :=
  [.call 0 (.begin default),
    .call 0 (.store (.insertRequest ⟨Id.random ⟨0⟩, default, default, default, .criteria,
      "Please revise the criteria.", default, default⟩)),
    .call 0 .commit]

/-- A store with that request. -/
def taken : Store := ((History.start oneMapping).run storeTaken).store

/-- Nothing but two changes writes, both are allowed two attempts, and the identifiers that they
generate differ.  The first change fails all the same, in its first attempt, since its identifier is
taken. -/
theorem refused_when_taken :
    taken.committed.Reached ∧ taken.faults.onBegin = [] ∧ taken.faults.onCommit = [] ∧
    (∀ i ∈ ({0, 1} : Finset (Fin 3)), ∃ change, twoRevisions i = .setStepStatus change) ∧
    (∀ i, mayWrite (twoRevisions i) = true → i ∈ ({0, 1} : Finset (Fin 3))) ∧
    (∀ i ∈ ({0, 1} : Finset (Fin 3)), ({0, 1} : Finset (Fin 3)).card ≤
      (allowing 2 i).coordinator.settings.serializableMaxRetries) ∧
    ((start (allowing 2) twoRevisions taken).after rounds).Distinct ∧
    (((start (allowing 2) twoRevisions taken).after rounds).clients 0).rest = pure (.error
      (.transaction ⟨.uniqueViolation, Transaction.duplicateRequest (Id.random ⟨0⟩),
        "set_step_status", 1⟩)) := by
  refine ⟨⟨oneMapping, storeTaken, rfl, rfl⟩, by decide +kernel, by decide +kernel, change_of_mem,
    by decide, fun _ _ => Nat.le_refl 2, by decide +kernel, rest_of_givenUp? ?_⟩
  decide +kernel

end System

end Appraisal.Memory
