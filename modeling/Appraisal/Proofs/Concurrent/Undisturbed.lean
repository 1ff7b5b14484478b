import Appraisal.Proofs.Concurrent.Overtaken
import Appraisal.Proofs.Concurrent.Serializable

/-!
# Calls on a store without failures

Calls take turns on a store for which no failures are planned, and the identifiers that they
generate differ from call to call.  Then the committed rows about a new request stay as they are
until the call that created it commits (`System.Peaceful`), so every call always finds a store that
it may find (`Recalls.meets`).  Whatever the interleaving, each call fares as it would alone with
such stores (`System.ongoing`).

What a call has met with is found again in the run: the tables that its first transaction began on
and those that its last commit found were the committed tables at two earlier times (`Recalls`).
-/

namespace Appraisal.Memory

open Workflow

/-! ## Progress that goes on -/

/-- A call has come from one progress to another. -/
structure Progress.Older (b b' : Progress) : Prop where
  turns : b.account.turns.Subperm b'.account.turns
  published : b.published = true → b'.published = true

/-- How often a call has made such requests. -/
def Progress.made (b : Progress) (such : Request WorkflowEvent → Bool) : Nat :=
  b.account.turns.countP fun turn => such turn.request

/-- The request begins a transaction. -/
def isBegin : Request WorkflowEvent → Bool
  | .session (.begin _) => true
  | _ => false

/-- The request commits a transaction. -/
def isCommit : Request WorkflowEvent → Bool
  | .session .commit => true
  | _ => false

namespace Progress.Older

variable {b b' b'' : Progress}

theorem refl (b : Progress) : b.Older b := ⟨List.Subperm.refl _, id⟩

theorem trans (first : b.Older b') (second : b'.Older b'') : b.Older b'' :=
  ⟨first.turns.trans second.turns, fun h => second.published (first.published h)⟩

theorem next (b : Progress) (w : Outside) (store : Store) (request : Request WorkflowEvent) :
    b.Older (b.next w store request) where
  turns := (List.sublist_cons_self _ _).subperm.trans Account.turns_add.symm.subperm
  published h := by
    show (b.published || _) = true
    rw [h, Bool.true_or]

theorem drawn (h : b.Older b') {id : RevisionRequestId} (mem : id ∈ b.drawn) : id ∈ b'.drawn := by
  obtain ⟨turn, mem, drawn⟩ := Progress.mem_drawn.1 mem
  exact Progress.mem_drawn.2 ⟨turn, h.turns.subset mem, drawn⟩

theorem made_le (h : b.Older b') (such : Request WorkflowEvent → Bool) :
    b.made such ≤ b'.made such :=
  h.turns.countP_le _

end Progress.Older

theorem Progress.made_next (b : Progress) (w : Outside) (store : Store)
    (request : Request WorkflowEvent) (such : Request WorkflowEvent → Bool) :
    (b.next w store request).made such = b.made such + if such request then 1 else 0 := by
  show (b.account.add ⟨request, w⟩).turns.countP _ = _
  rw [Account.turns_add.countP_eq, List.countP_cons]
  rfl

/-! ## A turn of one call -/

section

variable {origin store : Store} {request : Request WorkflowEvent}

/-- A call stores nothing about requests but those that it creates or that are there. -/
theorem Plight.Ready.spares {a : Plight} (ready : a.Ready request)
    (admits : Admits origin a.progress store) (w : Outside) {id : RevisionRequestId}
    (foreign : id ∉ a.progress.drawn) :
    store.committed.Spares (w.answer store a.progress.session request).2.1.committed id := by
  by_cases same : (w.answer store a.progress.session request).2.1.committed = store.committed
  · rw [same]
    exact .refl _ _
  obtain rfl := eq_commit_of_committed_ne same
  obtain ⟨t, working, -, -, after⟩ :=
    (store.committed_commit a.progress.session).resolve_left same
  intro absent key about
  have unwritten : key ∉ t.writes := by
    intro mem
    rcases ready t working key mem id about with drawn | known
    · exact foreign drawn
    · obtain ⟨r, found⟩ := Option.isSome_iff_exists.1 known
      have there := (admits.evolves (by rw [working]; rfl)).request_eq id r found
      rw [absent] at there
      cases there
  show (store.commit a.progress.session).2.1.committed.row key = _ ∧
    (store.commit a.progress.session).2.1.committed.version key = _
  rw [after, Tables.row_publish, Tables.version_publish _ _ (admits.sound.working t working).nodup,
    if_neg unwritten, if_neg unwritten]
  exact ⟨rfl, rfl⟩

end

namespace System

variable {ι : Type} [DecidableEq ι] {calls : ι → Call}

/-! ## Turns in a row -/

/-- The system after some calls have taken turns. -/
def after (sys : System calls) (turns : List (ι × Outside)) : System calls :=
  sys.run (turns.map fun turn => .turn turn.1 turn.2)

theorem after_append (sys : System calls) (first second : List (ι × Outside)) :
    sys.after (first ++ second) = (sys.after first).after second := by
  rw [after, List.map_append, run_append]
  rfl

theorem after_snoc (sys : System calls) (turns : List (ι × Outside)) (i : ι) (w : Outside) :
    sys.after (turns ++ [(i, w)]) = (sys.after turns).step (.turn i w) :=
  sys.after_append turns [(i, w)]

theorem clients_step_of_ne (sys : System calls) {i j : ι} (other : j ≠ i) (w : Outside) :
    (sys.step (.turn i w)).clients j = sys.clients j := by
  cases rest : (sys.clients i).rest with
  | pure r => rw [step_of_returned w rest]
  | call request next =>
    rw [step_turn w rest]
    exact Function.update_of_ne other ..

section

variable {sys : System calls} {i : ι} {request : Request WorkflowEvent}
  {next : request.Answer → Action WorkflowEvent (Except WorkflowError (calls i).Value)}

theorem client_step (w : Outside) (rest : (sys.clients i).rest = .call request next) :
    (sys.step (.turn i w)).clients i =
      ⟨next (w.answer sys.store (sys.clients i).progress.session request).1,
        (sys.clients i).progress.next w sys.store request⟩ := by
  rw [step_turn w rest]
  exact Function.update_self ..

theorem store_step (w : Outside) (rest : (sys.clients i).rest = .call request next) :
    (sys.step (.turn i w)).store =
      (w.answer sys.store (sys.clients i).progress.session request).2.1 := by
  rw [step_turn w rest]
  rfl

end

theorem older_after (sys : System calls) (turns : List (ι × Outside)) (j : ι) :
    (sys.clients j).progress.Older ((sys.after turns).clients j).progress := by
  induction turns using List.reverseRecOn with
  | nil => exact .refl _
  | append_singleton turns turn ih =>
    obtain ⟨i, w⟩ := turn
    refine ih.trans ?_
    rw [after_snoc]
    by_cases other : j = i
    · subst other
      cases rest : ((sys.after turns).clients j).rest with
      | pure r =>
        rw [step_of_returned w rest]
        exact .refl _
      | call request next =>
        rw [client_step w rest]
        exact .next _ w _ request
    · rw [clients_step_of_ne _ other]
      exact .refl _

theorem older_of_prefix (sys : System calls) {early turns : List (ι × Outside)}
    (before : early <+: turns) (j : ι) :
    ((sys.after early).clients j).progress.Older ((sys.after turns).clients j).progress := by
  obtain ⟨late, rfl⟩ := before
  rw [after_append]
  exact older_after _ late j

section

variable {origin : Store} {service : ι → Service} {sys : System calls}

omit [DecidableEq ι] in
theorem Ok.admits (h : sys.Ok origin service) (i : ι) :
    Admits origin (sys.clients i).progress sys.store :=
  (h.clients i).admits h.like h.keyed

theorem Ok.after (h : sys.Ok origin service) (turns : List (ι × Outside)) :
    (sys.after turns).Ok origin service :=
  ok_run h _

theorem Ok.evolves_step (h : sys.Ok origin service) (i : ι) (w : Outside) :
    sys.store.committed.Evolves (sys.step (.turn i w)).store.committed := by
  cases rest : (sys.clients i).rest with
  | pure r =>
    rw [step_of_returned w rest]
    exact .refl _
  | call request next =>
    rw [store_step w rest]
    exact (h.admits i).evolves_answer w request

theorem Ok.evolves_after (h : sys.Ok origin service) (turns : List (ι × Outside)) :
    sys.store.committed.Evolves (sys.after turns).store.committed := by
  induction turns using List.reverseRecOn with
  | nil => exact .refl _
  | append_singleton turns turn ih =>
    rw [after_snoc]
    exact ih.trans ((h.after turns).evolves_step turn.1 turn.2)

theorem Ok.evolves_of_prefix (h : sys.Ok origin service) {early turns : List (ι × Outside)}
    (before : early <+: turns) :
    (sys.after early).store.committed.Evolves (sys.after turns).store.committed := by
  obtain ⟨late, rfl⟩ := before
  rw [after_append]
  exact (h.after early).evolves_after late

end

/-! ## Peace -/

/-- Calls run on a store without planned failures.  Nobody else has stored anything about a request
that a call may create.  If it is promised, there were no rows about such requests. -/
structure Peaceful (origin : Store) (service : ι → Service) (ids : ι → List RevisionRequestId)
    (promised : Prop) (sys : System calls) : Prop where
  ok : sys.Ok origin service
  onBegin : sys.store.faults.onBegin = []
  onCommit : sys.store.faults.onCommit = []
  spares : ∀ i, (sys.clients i).progress.session.working.isSome → ∀ id ∈ ids i,
    (sys.clients i).progress.base.Spares sys.store.committed id
  lacks : promised → ∀ i, (sys.clients i).progress.published = false → ∀ id ∈ ids i,
    sys.store.committed.Lacks id

section

variable {origin : Store} {service : ι → Service} {ids : ι → List RevisionRequestId}
  {promised : Prop} {sys : System calls} {i : ι} {request : Request WorkflowEvent}
  {next : request.Answer → Action WorkflowEvent (Except WorkflowError (calls i).Value)}

/-- A turn of a call that is ready for its commits keeps the peace. -/
theorem Peaceful.step (h : sys.Peaceful origin service ids promised)
    (apart : ∀ i j, i ≠ j → ∀ id ∈ ids i, id ∉ ids j)
    (rest : (sys.clients i).rest = .call request next) {a : Plight}
    (progress : a.progress = (sys.clients i).progress)
    (drawn : ∀ id ∈ (sys.clients i).progress.drawn, id ∈ ids i) (ready : a.Ready request)
    (w : Outside) : (sys.step (.turn i w)).Peaceful origin service ids promised := by
  have admits : Admits origin a.progress sys.store := progress ▸ h.ok.admits i
  have faults := w.faults_answer (sys.clients i).progress.session request h.onBegin h.onCommit
  -- what the others may create is spared
  have foreign : ∀ j, j ≠ i → ∀ id ∈ ids j, sys.store.committed.Spares
      (w.answer sys.store (sys.clients i).progress.session request).2.1.committed id := by
    intro j other id mem
    rw [← progress] at drawn ⊢
    exact ready.spares admits w fun own => apart j i other id mem (drawn id own)
  refine ⟨h.ok.step _, ?_, ?_, fun j opened id mem => ?_, fun promise j unpublished id mem => ?_⟩
  · rw [store_step w rest, faults, h.onBegin]
  · rw [store_step w rest, faults, h.onCommit]
  · rw [store_step w rest]
    by_cases other : j = i
    · subst other
      rw [client_step w rest] at opened ⊢
      obtain ⟨same, new | ⟨old, opened⟩⟩ := Progress.opened_next opened
      · rw [same, new]
        exact .refl _ _
      · rw [same, old]
        exact h.spares j opened id mem
    · rw [clients_step_of_ne _ other] at opened ⊢
      exact (h.spares j opened id mem).trans (foreign j other id mem)
  · rw [store_step w rest]
    by_cases other : j = i
    · subst other
      rw [client_step w rest] at unpublished
      have both : (sys.clients j).progress.published = false ∧ (w.answer sys.store
          (sys.clients j).progress.session request).2.1.committed = sys.store.committed := by
        simpa [Progress.next] using unpublished
      rw [both.2]
      exact h.lacks promise j both.1 id mem
    · rw [clients_step_of_ne _ other] at unpublished
      exact (foreign j other id mem).lacks (h.lacks promise j unpublished id mem)

end

/-! ## What a call has met with in a run -/

/-- A call has begun a transaction, and these were the committed tables at some time since. -/
def Began (sys : System calls) (turns : List (ι × Outside)) (i : ι) (t : Tables) : Prop :=
  ∃ early, early <+: turns ∧ (sys.after early).store.committed = t ∧
    0 < ((sys.after early).clients i).progress.made isBegin

/-- These were the committed tables at some time, and a call has asked for a commit since. -/
def Asked (sys : System calls) (turns : List (ι × Outside)) (i : ι) (t : Tables) : Prop :=
  ∃ early, early <+: turns ∧ (sys.after early).store.committed = t ∧
    ((sys.after early).clients i).progress.made isCommit <
      ((sys.after turns).clients i).progress.made isCommit

section

variable {sys : System calls} {turns turns' : List (ι × Outside)} {i : ι} {t : Tables}

theorem Began.later (h : Began sys turns i t) (before : turns <+: turns') :
    Began sys turns' i t := by
  obtain ⟨early, earlier, rest⟩ := h
  exact ⟨early, earlier.trans before, rest⟩

theorem Asked.later (h : Asked sys turns i t) (before : turns <+: turns') :
    Asked sys turns' i t := by
  obtain ⟨early, earlier, same, less⟩ := h
  exact ⟨early, earlier.trans before, same,
    Nat.lt_of_lt_of_le less ((sys.older_of_prefix before i).made_le isCommit)⟩

end

/-- What a call has met with was so in a run. -/
structure Recalls (sys : System calls) (turns : List (ι × Outside)) (i : ι) (a : Plight) :
    Prop where
  progress : a.progress = ((sys.after turns).clients i).progress
  first : ∀ start, a.first = some start → Began sys turns i start
  last : a.last = default ∨ Asked sys turns i a.last

namespace Recalls

variable {sys : System calls} {turns : List (ι × Outside)} {i : ι} {a : Plight}

/-- The others take turns. -/
theorem later (h : Recalls sys turns i a) {late : List (ι × Outside)}
    (same : (sys.after (turns ++ late)).clients i = (sys.after turns).clients i) :
    Recalls sys (turns ++ late) i a where
  progress := by rw [same, h.progress]
  first start begun := (h.first start begun).later (List.prefix_append _ _)
  last := h.last.imp_right fun asked => asked.later (List.prefix_append _ _)

theorem next (h : Recalls sys turns i a) (w : Outside) {request : Request WorkflowEvent}
    {next : request.Answer → Action WorkflowEvent (Except WorkflowError (calls i).Value)}
    (rest : ((sys.after turns).clients i).rest = .call request next) :
    Recalls sys (turns ++ [(i, w)]) i (a.next w (sys.after turns).store request) := by
  have progress : ((sys.after (turns ++ [(i, w)])).clients i).progress =
      (a.next w (sys.after turns).store request).progress := by
    rw [after_snoc, client_step w rest, ← h.progress]
    rfl
  have made : ∀ such, ((sys.after (turns ++ [(i, w)])).clients i).progress.made such =
      a.progress.made such + if such request then 1 else 0 := fun such => by
    rw [progress]
    exact a.progress.made_next w _ request such
  have before : turns <+: turns ++ [(i, w)] := List.prefix_append _ _
  refine ⟨progress.symm, fun start begun => ?_, ?_⟩
  · have old : a.first = some start → Began sys (turns ++ [(i, w)]) i start :=
      fun begun => (h.first start begun).later before
    cases request with
    | session call =>
      cases call with
      | begin isolation =>
        rcases Option.or_eq_some_iff.1 begun with begun | ⟨-, begun⟩
        · exact old begun
        · cases begun
          refine ⟨_, List.prefix_rfl, ?_, ?_⟩
          · rw [after_snoc, store_step w rest]
            exact Store.committed_answer _ _ nofun
          · rw [made]
            exact Nat.succ_pos _
      | _ => exact old begun
    | _ => exact old begun
  · have old : a.last = default ∨ Asked sys (turns ++ [(i, w)]) i a.last :=
      h.last.imp_right fun asked => asked.later before
    cases request with
    | session call =>
      cases call with
      | commit =>
        refine .inr ⟨turns, before, rfl, ?_⟩
        rw [made, ← h.progress]
        exact Nat.lt_succ_self _
      | _ => exact old
    | _ => exact old

/-- A call in a peaceful system meets with a store that it may find. -/
theorem meets {origin : Store} {service : ι → Service} {ids : ι → List RevisionRequestId}
    {promised : Prop} (h : Recalls sys turns i a) (ok : sys.Ok origin service)
    (peaceful : (sys.after turns).Peaceful origin service ids promised)
    (drawn : ∀ id ∈ ((sys.after turns).clients i).progress.drawn, id ∈ ids i)
    {request : Request WorkflowEvent}
    {next : request.Answer → Action WorkflowEvent (Except WorkflowError (calls i).Value)}
    (rest : ((sys.after turns).clients i).rest = .call request next) :
    Meets origin promised a (sys.after turns).store request where
  admits := by
    rw [h.progress]
    exact peaceful.ok.admits i
  onBegin := peaceful.onBegin
  onCommit := peaceful.onCommit
  later key := by
    rcases h.last with none | ⟨early, before, same, -⟩
    · rw [none]
      exact Nat.zero_le _
    · rw [← same]
      exact (ok.evolves_of_prefix before).version_le key
  spares := by
    rw [h.progress]
    exact fun opened id mem => peaceful.spares i opened id (drawn id mem)
  lacks promise isolation begin := by
    subst begin
    rw [h.progress]
    have tale := (peaceful.ok.clients i).safe.tale
    rw [rest] at tale
    have unpublished := tale.unpublished_of_not_calm fun calm => calm
    exact fun id mem => peaceful.lacks promise i unpublished id (drawn id mem)

end Recalls

/-! ## Whatever the interleaving -/

/-- Peace is kept, and each call fares as described. -/
structure Ongoing (origin : Store) (service : ι → Service) (ids : ι → List RevisionRequestId)
    (promised : Prop) (sys : System calls) (turns : List (ι × Outside)) : Prop where
  peaceful : (sys.after turns).Peaceful origin service ids promised
  fares : ∀ i, ∃ a, Recalls sys turns i a ∧
    Fares origin promised (service i) (calls i) ((sys.after turns).clients i).rest a

section

variable {service : ι → Service} {ids : ι → List RevisionRequestId} {promised : Prop}

omit [DecidableEq ι] in
theorem peaceful_start {store : Store} (keyed : store.committed.Keyed)
    (onBegin : store.faults.onBegin = []) (onCommit : store.faults.onCommit = [])
    (lacks : promised → ∀ i, ∀ id ∈ ids i, store.committed.Lacks id) :
    (start service calls store).Peaceful store service ids promised where
  ok := ok_start service calls keyed
  onBegin := onBegin
  onCommit := onCommit
  spares := nofun
  lacks promise i _ := lacks promise i

/-- Calls on a store without failures fare as they would alone with the stores that they find, as
long as they generate different identifiers. -/
theorem ongoing {store : Store}
    (peaceful : (start service calls store).Peaceful store service ids promised)
    (apart : ∀ i j, i ≠ j → ∀ id ∈ ids i, id ∉ ids j) (turns : List (ι × Outside))
    (drawn : ∀ i, ∀ id ∈ (((start service calls store).after turns).clients i).progress.drawn,
      id ∈ ids i) :
    Ongoing store service ids promised (start service calls store) turns := by
  induction turns using List.reverseRecOn with
  | nil => exact ⟨peaceful, fun i => ⟨⟨default, none, default⟩, ⟨rfl, nofun, .inl rfl⟩,
      fares_call store promised (service i) (calls i)⟩⟩
  | append_singleton turns turn ih =>
    obtain ⟨i, w⟩ := turn
    let sys := start service calls store
    have drawn' : ∀ j, ∀ id ∈ ((sys.after turns).clients j).progress.drawn, id ∈ ids j :=
      fun j id mem =>
        drawn j id ((sys.older_of_prefix (List.prefix_append _ _) j).drawn mem)
    obtain ⟨quiet, fares⟩ := ih drawn'
    have others : ∀ j, j ≠ i → (sys.after (turns ++ [(i, w)])).clients j =
        (sys.after turns).clients j := fun j other => by
      rw [after_snoc, clients_step_of_ne _ other]
    cases rest : ((sys.after turns).clients i).rest with
    | pure r =>
      have same : sys.after (turns ++ [(i, w)]) = sys.after turns := by
        rw [after_snoc, step_of_returned w rest]
      refine ⟨?_, fun j => ?_⟩
      · show (sys.after _).Peaceful _ _ _ _
        rw [same]
        exact quiet
      · obtain ⟨a, recalls, fares⟩ := fares j
        refine ⟨a, recalls.later (by rw [same]), ?_⟩
        show Fares _ _ _ _ ((sys.after _).clients j).rest a
        rw [same]
        exact fares
    | call request next =>
      obtain ⟨a, recalls, own⟩ := fares i
      rw [rest] at own
      have meets := recalls.meets peaceful.ok quiet (drawn' i) rest
      refine ⟨?_, fun j => ?_⟩
      · show (sys.after _).Peaceful _ _ _ _
        rw [after_snoc]
        exact quiet.step apart rest recalls.progress (drawn' i) own.1 w
      · by_cases other : j = i
        · subst other
          refine ⟨_, recalls.next w rest, ?_⟩
          show Fares _ _ _ _ ((sys.after _).clients j).rest _
          rw [after_snoc, client_step w rest, ← recalls.progress]
          exact own.2 w _ meets
        · obtain ⟨a, recalls, fares⟩ := fares j
          refine ⟨a, recalls.later (others j other), ?_⟩
          show Fares _ _ _ _ ((sys.after _).clients j).rest a
          rw [others j other]
          exact fares

end

end System

end Appraisal.Memory
