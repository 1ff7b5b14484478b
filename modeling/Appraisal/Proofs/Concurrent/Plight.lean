import Appraisal.Proofs.Concurrent.Line
import Appraisal.Proofs.Workflow.Failing
import Appraisal.Proofs.Workflow.Receipts

/-!
# What a call meets with

A call finds other rows in every turn.  If no failures are planned and identifiers do not repeat, it
can only be disturbed in one way: by others that publish the row that it contends for
(`contested`).  About the request that it creates, nobody else stores anything.

`Plight` is how far a call has come, with the committed tables that its first transaction began on
and those that its last commit found.  `Meets` says which stores it may find, and `Endures` that it
keeps its own side and ends as described, whichever of them it finds.
-/

namespace Appraisal.Memory

open Workflow

/-! ## What a call stores -/

/-- The row that a call contends for with others. -/
def contested : Call → Option RowKey
  | .setStepStatus change => some (.approval change.mappingId)
  | .markRead requestId recipientId | .submitCompletion requestId recipientId _ =>
    some (.recipient requestId recipientId)
  | _ => none

/-- A row that the work of a call stores: the one that it contends for, or one of a new request. -/
inductive Stores (c : Call) (plan : c.Plan) (base : Tables) (key : RowKey) : Prop
  | contested (own : contested c = some key)
    (known : ∀ id, key.about? = some id → (base.row (.request id)).isSome)
  | created {p : PreparedRevision} (asked : revisionOf c plan = some p)
    (about : key.about? = some p.request.id) (absent : base.row (.request p.request.id) = none)

section

variable {origin : Store} {s : Service} {c : Call} {plan : c.Plan} {base : Tables}

theorem Stores.of_createdRows {p : PreparedRevision} (asked : revisionOf c plan = some p)
    (absent : base.row (.request p.request.id) = none) {key : RowKey}
    (mem : key ∈ (createdRows p.request p.recipients).map Row.key) : Stores c plan base key := by
  refine .created asked ?_ absent
  rcases mem_keys_createdRows.1 mem with rfl | ⟨e, -, rfl⟩
  · rfl
  · rfl

theorem Updated.stores (keyed : base.Keyed) {requestId : RevisionRequestId}
    {recipientId : EmployeeId} (own : contested c = some (.recipient requestId recipientId))
    {update : RowUpdate} {v : WithEvents RecipientRow} {u : Session} {turns : List Turn}
    (h : Updated (.start base) requestId recipientId (.opened base) update v u turns) :
    ∃ rows, u = (Session.opened base).plus rows ∧
      ∀ key ∈ rows.map Row.key, Stores c plan base key := by
  cases h with
  | same => exact ⟨[], (Session.plus_nil _).symm, fun _ mem => absurd mem List.not_mem_nil⟩
  | @stored update turns now shown request requested row found new read =>
    refine ⟨_, rfl, fun key mem => ?_⟩
    have same : (Row.recipient (update.apply row now)).key = .recipient requestId recipientId :=
      (update.key_apply row now).trans (keyed.key_recipient found)
    rw [List.map_singleton, List.mem_singleton, same] at mem
    subst mem
    refine .contested own fun id about => ?_
    cases about
    exact Option.isSome_iff_exists.2 ⟨_, (row_request base requestId request).2 requested⟩

/-- The rows that the work of a call stores, if it may write. -/
theorem Follows.stores_rows (keyed : base.Keyed) (writes : (c.job s plan).options.readOnly = false)
    {b : c.Result} {u : Session} {turns : List Turn}
    (h : Follows origin (c.job s plan).work.run (.opened base) turns (pure (.ok b)) u) :
    ∃ rows, u = (Session.opened base).plus rows ∧
      ∀ key ∈ rows.map Row.key, Stores c plan base key := by
  have opened : (Session.opened base).working = some (.start base) := rfl
  cases c with
  | setStepStatus change =>
    obtain ⟨now, changed⟩ := Follows.applyChange opened h
    cases changed with
    | same => exact ⟨[], (Session.plus_nil _).symm, fun _ mem => absurd mem List.not_mem_nil⟩
    | moved turns shown status new read =>
      refine ⟨_, rfl, fun key mem => ?_⟩
      rcases List.mem_cons.1 mem with rfl | mem
      · show Stores _ _ _ (Row.approval (changedRecord base change now)).key
        rw [key_changedRecord keyed]
        exact .contested rfl nofun
      · cases plan with
        | none => cases mem
        | some p => exact .of_createdRows rfl (new p rfl) mem
  | createRequest new =>
    obtain ⟨-, rfl, absent, -⟩ := Follows.createRecorded opened h
    exact ⟨_, rfl, fun key mem =>
      .of_createdRows (p := ⟨plan.request, plan.recipients⟩) rfl absent mem⟩
  | markRead requestId recipientId => exact (Follows.markReadIn opened h).stores keyed rfl
  | submitCompletion requestId recipientId comment =>
    exact (Follows.completeIn opened h).stores keyed rfl
  | _ => cases writes

/-- The rows that a transaction has written when the work of a call is done. -/
theorem Follows.stores (keyed : base.Keyed) {b : c.Result} {u : Session} {turns : List Turn}
    (h : Follows origin (c.job s plan).body (.opened base) turns (pure (.ok b)) u) :
    ∃ t, u.working = some t ∧ ∀ key ∈ t.writes, Stores c plan base key := by
  cases readOnly : (c.job s plan).options.readOnly with
  | true =>
    obtain ⟨turns', work⟩ := h.of_body
    have allowed := (work.within (Plain.work s c plan)).1
    obtain rfl := work.of_readOnly (fun turn mem => (allowed turn mem).1) readOnly
    exact ⟨.start base, rfl, fun _ mem => absurd mem List.not_mem_nil⟩
  | false =>
    rw [body_of_writes readOnly] at h
    obtain ⟨rows, rfl, stores⟩ := h.stores_rows keyed readOnly
    refine ⟨_, Session.working_plus rfl rows, fun key mem => stores key ?_⟩
    exact (Transaction.mem_writes_putAll.1 mem).resolve_right List.not_mem_nil

end

/-! ## What a call has met with -/

/-- The identifier that is generated in a turn. -/
def Turn.drawn? (turn : Turn) : Option RevisionRequestId :=
  match turn.request with
  | .draw => some (Id.random turn.outside.bits)
  | _ => none

/-- The identifiers that a call has generated. -/
def Progress.drawn (b : Progress) : List RevisionRequestId :=
  b.account.turns.filterMap Turn.drawn?

/-- How far a call has come, and what it has met with: the committed tables when its first
transaction began, and those that its last commit found. -/
structure Plight where
  progress : Progress
  first : Option Tables
  last : Tables

/-- The plight after a turn. -/
def Plight.next (a : Plight) (w : Outside) (store : Store) (request : Request WorkflowEvent) :
    Plight where
  progress := a.progress.next w store request
  first := match request with
    | .session (.begin _) => a.first.or (some store.committed)
    | _ => a.first
  last := match request with
    | .session .commit => store.committed
    | _ => a.last

/-- The plight after some calm turns. -/
def Plight.after (a : Plight) (turns : List Turn) (s : Session) : Plight :=
  { a with progress := a.progress.after turns s }

/-- A commit publishes rows of a request only if the call created it, or found it stored. -/
def Plight.Ready (a : Plight) : Request WorkflowEvent → Prop
  | .session .commit => ∀ t, a.progress.session.working = some t → ∀ key ∈ t.writes, ∀ id,
    key.about? = some id → id ∈ a.progress.drawn ∨ (a.progress.base.row (.request id)).isSome
  | _ => True

/-- Nothing is stored about a request that was not there. -/
def Tables.Spares (t t' : Tables) (id : RevisionRequestId) : Prop :=
  t.row (.request id) = none → ∀ key : RowKey, key.about? = some id →
    t'.row key = t.row key ∧ t'.version key = t.version key

namespace Tables.Spares

variable {t u v : Tables} {id : RevisionRequestId}

theorem refl (t : Tables) (id : RevisionRequestId) : t.Spares t id := fun _ _ _ => ⟨rfl, rfl⟩

theorem trans (first : t.Spares u id) (second : u.Spares v id) : t.Spares v id := by
  intro absent key about
  obtain ⟨row, version⟩ := first absent key about
  obtain ⟨row', version'⟩ := second ((first absent _ rfl).1.trans absent) key about
  exact ⟨row'.trans row, version'.trans version⟩

theorem lacks (h : t.Spares u id) (lacks : t.Lacks id) : u.Lacks id :=
  fun key about => (h (lacks _ rfl) key about).1.trans (lacks key about)

end Tables.Spares

/-- A store that a call may find in a turn.  No failures are planned, and nobody else has stored
anything about a request that the call may create.  If it is promised, no row about such a request
is there when a transaction begins. -/
structure Meets (origin : Store) (promised : Prop) (a : Plight) (store : Store)
    (request : Request WorkflowEvent) : Prop where
  admits : Admits origin a.progress store
  onBegin : store.faults.onBegin = []
  onCommit : store.faults.onCommit = []
  /-- Versions have not shrunk since the last commit. -/
  later : ∀ key, a.last.version key ≤ store.committed.version key
  spares : a.progress.session.working.isSome → ∀ id ∈ a.progress.drawn,
    a.progress.base.Spares store.committed id
  lacks : promised → ∀ isolation, request = .session (.begin isolation) →
    ∀ id ∈ a.progress.drawn, store.committed.Lacks id

/-- Whatever stores the program finds, it is ready for its commits, and it ends as described. -/
def Endures {α : Type} (origin : Store) (promised : Prop) (post : α → Plight → Prop) :
    Action WorkflowEvent α → Plight → Prop
  | .pure r, a => post r a
  | .call request next, a => a.Ready request ∧
    ∀ w store, Meets origin promised a store request →
      Endures origin promised post (next (w.answer store a.progress.session request).1)
        (a.next w store request)

section

variable {origin : Store} {promised : Prop} {α β : Type} {a : Plight}

theorem Plight.ready_of_calm {request : Request WorkflowEvent} (calm : Calm request) :
    a.Ready request := by
  cases request with
  | session call =>
    cases call with
    | commit => exact calm.elim
    | _ => trivial
  | _ => trivial

theorem Plight.next_of_calm {store : Store} (admits : Admits origin a.progress store) (w : Outside)
    {request : Request WorkflowEvent} (calm : Calm request) :
    a.next w store request =
      a.after [⟨request, w⟩] (w.answer origin a.progress.session request).2.2 := by
  have same := Progress.next_of_calm admits w calm
  cases request with
  | session call =>
    cases call with
    | begin | commit => exact calm.elim
    | _ => simp only [next, after, same]
  | _ => simp only [next, after, same]

/-- A calm stage, and what follows it. -/
theorem Endures.bind {post : β → Plight → Prop} {p : Action WorkflowEvent α} {ends : α → Prop}
    {k : α → Action WorkflowEvent β} (calm : p.Within Calm ends)
    (rest : ∀ turns r u, Follows origin p a.progress.session turns (pure r) u → ends r →
      Endures origin promised post (k r) (a.after turns u)) :
    Endures origin promised post (p >>= k) a := by
  induction p generalizing a with
  | pure r => exact rest [] r _ (.refl _ _) calm
  | call request next ih =>
    refine ⟨Plight.ready_of_calm calm.1, fun w store meets => ?_⟩
    rw [Plight.next_of_calm meets.admits w calm.1,
      (Store.alikeOn meets.admits.like w a.progress.session calm.1).answer]
    refine ih _ (calm.2 _) fun turns r u follows ended => ?_
    have both : (a.after [⟨request, w⟩] (w.answer origin a.progress.session request).2.2).after
        turns u = a.after (⟨request, w⟩ :: turns) u := by
      simp only [Plight.after, Progress.after_after, List.singleton_append]
    rw [both]
    exact rest _ r u (.turn w calm.1 follows) ended

/-- A program that is calm to its end. -/
theorem Endures.of_calm {post : α → Plight → Prop} {p : Action WorkflowEvent α} {ends : α → Prop}
    (calm : p.Within Calm ends) (rest : ∀ turns r u, ends r → post r (a.after turns u)) :
    Endures origin promised post p a := by
  rw [← Program.bind_pure p]
  exact Endures.bind calm fun turns r u _ ended => rest turns r u ended

theorem Progress.mem_drawn {b : Progress} {id : RevisionRequestId} :
    id ∈ b.drawn ↔ ∃ turn ∈ b.account.turns, turn.drawn? = some id :=
  List.mem_filterMap

theorem Progress.drawn_next {b : Progress} {id : RevisionRequestId} (h : id ∈ b.drawn)
    (w : Outside) (store : Store) (request : Request WorkflowEvent) :
    id ∈ (b.next w store request).drawn := by
  obtain ⟨turn, mem, drawn⟩ := Progress.mem_drawn.1 h
  exact Progress.mem_drawn.2 ⟨turn, Account.mem_turns_add_iff.2 (.inr mem), drawn⟩

theorem Progress.drawn_after {b : Progress} {id : RevisionRequestId} {turns : List Turn}
    {u : Session} : id ∈ (b.after turns u).drawn ↔
      id ∈ b.drawn ∨ ∃ turn ∈ turns, turn.drawn? = some id := by
  simp only [Progress.mem_drawn, Progress.after, Account.mem_turns_foldl, or_and_right, exists_or]

end

/-! ## The preparation -/

section

variable {origin : Store} {promised : Prop} {s : Service} {c : Call} {plan : c.Plan}

theorem Follows.drawn_buildRequest {mapping : EvaluationMapping} {step : Step} {comment : String}
    {requestedBy : EmployeeId} {request : RevisionRequest} {u u' : Session} {turns : List Turn}
    (h : Follows origin (Workflow.buildRequest mapping step comment requestedBy) u turns
      (pure request) u') :
    ∃ turn ∈ turns, turn.drawn? = some request.id := by
  cases h with
  | turn w calm rest =>
    cases rest with
    | turn w' calm rest =>
      obtain ⟨-, rfl, -⟩ := of_pure rest
      exact ⟨_, List.mem_cons_self, rfl⟩

/-- The request that a call prepares has an identifier that was generated for it. -/
theorem Follows.drawn_prepare {u u' : Session} {turns : List Turn}
    (h : Follows origin c.prepare.run u turns (pure (.ok plan)) u') {p : PreparedRevision}
    (asked : revisionOf c plan = some p) : ∃ turn ∈ turns, turn.drawn? = some p.request.id := by
  have later : ∀ {first second : List Turn} {id : RevisionRequestId},
      (∃ turn ∈ second, turn.drawn? = some id) → ∃ turn ∈ first ++ second, turn.drawn? = some id :=
    fun ⟨made, mem, drawn⟩ => ⟨made, List.mem_append_right _ mem, drawn⟩
  cases c with
  | setStepStatus change =>
    obtain ⟨first, comment, s₁, rest, rfl, -, h₁⟩ := work_bind h
    obtain ⟨second, mapping, s₂, rest, rfl, -, h₂⟩ := work_bind h₁
    cases comment with
    | none =>
      obtain ⟨-, rfl, -⟩ := work_pure h₂
      cases asked
    | some comment =>
      obtain ⟨third, recipients, s₃, rest, rfl, -, h₃⟩ := work_bind h₂
      obtain ⟨fourth, request, s₄, rest, rfl, built, ended⟩ := work_bind h₃
      obtain ⟨rfl, rfl, -⟩ := work_pure ended
      cases asked
      rw [List.append_nil]
      exact later (later (later (drawn_buildRequest (work_perform built))))
  | createRequest new =>
    obtain ⟨first, comment, s₁, rest, rfl, -, h₁⟩ := work_bind h
    obtain ⟨second, mapping, s₂, rest, rfl, -, h₂⟩ := work_bind h₁
    obtain ⟨third, recipients, s₃, rest, rfl, -, h₃⟩ := work_bind h₂
    obtain ⟨fourth, request, s₄, rest, rfl, built, ended⟩ := work_bind h₃
    obtain ⟨rfl, rfl, -⟩ := work_pure ended
    cases asked
    rw [List.append_nil]
    exact later (later (later (drawn_buildRequest (work_perform built))))
  | _ => cases asked

end

end Appraisal.Memory
