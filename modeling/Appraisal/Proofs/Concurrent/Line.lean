import Mathlib.Data.List.Nodup
import Appraisal.Proofs.Concurrent.Stages
import Appraisal.Proofs.Concurrent.System

/-!
# The line

Each call in the line stands between two states of the committed tables, and the states fit
together: the line leads from the tables of the start to those of now (`Linked`).  A call that has
not published stands between a state and itself, so it may be taken out anywhere.

`System.Ok` is the invariant of concurrent calls.  It also says that every call keeps its tale and
that its transaction works on a snapshot that has evolved into the committed tables.  Every turn
preserves it (`Ok.step`).
-/

namespace Appraisal.Memory

open Workflow

/-! ## Links -/

/-- The spans of a list lead from some tables to others.  What has no span is passed over. -/
inductive Linked {ι : Type} (span : ι → Option (Tables × Tables)) :
    Tables → List ι → Tables → Prop
  /-- Nothing leads anywhere. -/
  | nil (a : Tables) : Linked span a [] a
  /-- No span. -/
  | skip {a c : Tables} {i : ι} {is : List ι} (none : span i = none) (rest : Linked span a is c) :
    Linked span a (i :: is) c
  /-- A span, and those after it. -/
  | link {a b c : Tables} {i : ι} {is : List ι} (some : span i = some (a, b))
    (rest : Linked span b is c) : Linked span a (i :: is) c

namespace Linked

variable {ι : Type} {span span' : ι → Option (Tables × Tables)} {a b c : Tables} {is js : List ι}

theorem append (h : Linked span a is b) (h' : Linked span b js c) :
    Linked span a (is ++ js) c := by
  induction h with
  | nil => exact h'
  | skip none rest ih => exact .skip none (ih h')
  | link some rest ih => exact .link some (ih h')

theorem congr (h : Linked span a is c) (same : ∀ i ∈ is, span' i = span i) :
    Linked span' a is c := by
  induction h with
  | nil => exact .nil _
  | @skip a c i is none rest ih =>
    exact .skip ((same i List.mem_cons_self).trans none)
      (ih fun j hj => same j (List.mem_cons_of_mem _ hj))
  | @link a b c i is some rest ih =>
    exact .link ((same i List.mem_cons_self).trans some)
      (ih fun j hj => same j (List.mem_cons_of_mem _ hj))

/-- Spans that lead nowhere may be left out. -/
theorem filter (h : Linked span a is c) (keep : ι → Bool)
    (neutral : ∀ i ∈ is, keep i = false → ∀ x y, span i = some (x, y) → x = y) :
    Linked span a (is.filter keep) c := by
  induction h with
  | nil => exact .nil _
  | @skip a c i is none rest ih =>
    have later := ih fun j hj => neutral j (List.mem_cons_of_mem _ hj)
    cases kept : keep i with
    | true =>
      rw [List.filter_cons_of_pos kept]
      exact .skip none later
    | false =>
      rw [List.filter_cons_of_neg (by simp [kept])]
      exact later
  | @link a b c i is some rest ih =>
    have later := ih fun j hj => neutral j (List.mem_cons_of_mem _ hj)
    cases kept : keep i with
    | true =>
      rw [List.filter_cons_of_pos kept]
      exact .link some later
    | false =>
      rw [List.filter_cons_of_neg (by simp [kept]), neutral i List.mem_cons_self kept a b some]
      exact later

/-- What has no span may be put in anywhere. -/
theorem of_filter {keep : ι → Bool} (h : Linked span a (is.filter keep) c)
    (none : ∀ i ∈ is, keep i = false → span i = none) : Linked span a is c := by
  induction is generalizing a with
  | nil => exact h
  | cons i is ih =>
    have later := fun j hj => none j (List.mem_cons_of_mem _ hj)
    cases kept : keep i with
    | true =>
      rw [List.filter_cons_of_pos kept] at h
      cases h with
      | skip none rest => exact .skip none (ih rest later)
      | link some rest => exact .link some (ih rest later)
    | false =>
      rw [List.filter_cons_of_neg (by simp [kept])] at h
      exact .skip (none i List.mem_cons_self kept) (ih h later)

/-- A call goes to the end of the line. -/
theorem move [DecidableEq ι] {i : ι} (h : Linked span a is b) (nodup : is.Nodup)
    (neutral : ∀ x y, span i = some (x, y) → x = y) (ends : span' i = some (b, c))
    (others : ∀ j, j ≠ i → span' j = span j) : Linked span' a (is.erase i ++ [i]) c := by
  have erased : Linked span a (is.erase i) b := by
    rw [nodup.erase_eq_filter]
    refine h.filter _ fun j _ gone => ?_
    obtain rfl : j = i := by simpa using gone
    exact neutral
  refine (erased.congr fun j hj => others j ?_).append (.link ends (.nil c))
  rintro rfl
  exact nodup.not_mem_erase hj

end Linked

/-! ## A turn of one call -/

/-- Only a commit changes the committed tables. -/
theorem eq_commit_of_committed_ne {store : Store} {w : Outside} {s : Session}
    {request : Request WorkflowEvent}
    (changed : (w.answer store s request).2.1.committed ≠ store.committed) :
    request = .session .commit := by
  cases request with
  | session call =>
    by_contra other
    exact changed (store.committed_answer s fun commit => other (congrArg _ commit))
  | _ => exact absurd rfl changed

/-- It ends the transaction. -/
theorem closed_of_committed_ne {store : Store} {w : Outside} {s : Session}
    {request : Request WorkflowEvent}
    (changed : (w.answer store s request).2.1.committed ≠ store.committed) :
    ∃ t, s.working = some t ∧ (w.answer store s request).2.2 = s.discard := by
  obtain rfl := eq_commit_of_committed_ne changed
  obtain ⟨t, working, -⟩ := (store.committed_commit s).resolve_left changed
  exact ⟨t, working, (commit_cases store working).1⟩

theorem Progress.base_next (b : Progress) (w : Outside) (store : Store)
    (request : Request WorkflowEvent) :
    (b.next w store request).base =
      if Session.begins b.session (w.answer store b.session request).2.2 then store.committed
      else if (w.answer store b.session request).2.1.committed = store.committed then b.base
      else store.committed := by
  by_cases begun : Session.begins b.session (w.answer store b.session request).2.2 = true
  · simp only [base, next, if_pos begun]
  · by_cases same : (w.answer store b.session request).2.1.committed = store.committed
    · simp only [base, next, if_neg begun, if_pos same]
    · simp only [base, next, if_neg begun, if_neg same]

/-- A transaction that is open after a turn has just begun, or it was open before. -/
theorem Progress.opened_next {b : Progress} {w : Outside} {store : Store}
    {request : Request WorkflowEvent}
    (opened : (b.next w store request).session.working.isSome) :
    (w.answer store b.session request).2.1.committed = store.committed ∧
      ((b.next w store request).base = store.committed ∨
        (b.next w store request).base = b.base ∧ b.session.working.isSome) := by
  have same : (w.answer store b.session request).2.1.committed = store.committed := by
    by_contra changed
    obtain ⟨t, -, discard⟩ := closed_of_committed_ne changed
    rw [show (b.next w store request).session = b.session.discard from discard] at opened
    cases opened
  refine ⟨same, ?_⟩
  rw [Progress.base_next, if_pos same]
  split
  · exact .inl rfl
  · rename_i begun
    refine .inr ⟨rfl, ?_⟩
    cases working : b.session.working with
    | some t => rfl
    | none => exact absurd (by rw [Session.begins, working]; exact opened) begun

namespace Admits

variable {origin store : Store} {b : Progress}

theorem evolves_answer (h : Admits origin b store) (w : Outside)
    (request : Request WorkflowEvent) :
    store.committed.Evolves (w.answer store b.session request).2.1.committed := by
  cases request with
  | session call => exact Store.evolves_answer h.sound h.evolves call
  | _ => exact .refl _

theorem keyed_answer (h : Admits origin b store) (w : Outside) (request : Request WorkflowEvent) :
    (w.answer store b.session request).2.1.committed.Keyed := by
  cases request with
  | session call => exact Store.keyed_answer h.sound h.keyed call
  | _ => exact h.keyed

/-- The session works on a copy of the tables that its transaction began on, after a turn too. -/
theorem sound_next (h : Admits origin b store) (w : Outside) (request : Request WorkflowEvent) :
    (b.next w store request).session.Sound (b.next w store request).base := by
  rw [Progress.base_next]
  show (w.answer store b.session request).2.2.Sound _
  cases request with
  | session call =>
    let after := w.answer store b.session (.session call)
    have step : after.2.2.Sound
        (if Session.begins b.session after.2.2 then store.committed else b.base) :=
      h.sound.step (store.step_answer b.session call)
    by_cases begun : Session.begins b.session after.2.2 = true
    · rw [if_pos begun] at step ⊢
      exact step
    · rw [if_neg begun] at step ⊢
      split
      · exact step
      · rename_i changed
        obtain ⟨t, -, discard⟩ := closed_of_committed_ne (w := w) changed
        rw [discard]
        exact Session.sound_of_closed rfl ⟨rfl, rfl⟩ _
  | openSession => exact Session.sound_default _
  | _ => simpa [Outside.answer] using h.sound

theorem evolves_next (h : Admits origin b store) (w : Outside) (request : Request WorkflowEvent)
    (opened : (b.next w store request).session.working.isSome) :
    (b.next w store request).base.Evolves
      (w.answer store b.session request).2.1.committed := by
  obtain ⟨same, new | ⟨old, opened⟩⟩ := Progress.opened_next opened
  · rw [same, new]
    exact .refl _
  · rw [same, old]
    exact h.evolves opened

end Admits

/-- A call that has not published stands between a state and itself. -/
def Progress.Neutral (b : Progress) : Prop :=
  b.published = false → ∀ x y, b.span = some (x, y) → x = y

theorem Progress.Neutral.next {b : Progress} (h : b.Neutral) (w : Outside) (store : Store)
    (request : Request WorkflowEvent) : (b.next w store request).Neutral := by
  intro unpublished x y span
  simp only [Progress.next, Bool.or_eq_false_iff, decide_eq_false_iff_not, not_not]
    at unpublished span
  split at span
  · cases span
    rfl
  · rw [if_pos unpublished.2] at span
    exact h unpublished.1 x y span

/-- A transaction begins with the turn, or it publishes rows. -/
def Moves (store : Store) (s : Session) (w : Outside) (request : Request WorkflowEvent) : Prop :=
  Session.begins s (w.answer store s request).2.2 = true ∨
    (w.answer store s request).2.1.committed ≠ store.committed

theorem Progress.span_next_of_moves {b : Progress} {w : Outside} {store : Store}
    {request : Request WorkflowEvent} (moves : Moves store b.session w request) :
    (b.next w store request).span =
      some (store.committed, (w.answer store b.session request).2.1.committed) := by
  simp only [next]
  by_cases same : (w.answer store b.session request).2.1.committed = store.committed
  · rw [if_pos (moves.resolve_right (not_not.2 same)), same]
  · obtain ⟨t, -, discard⟩ := closed_of_committed_ne same
    have closed : ¬ Session.begins b.session (w.answer store b.session request).2.2 = true := by
      rw [discard, Session.begins_of_closed rfl]
      simp
    rw [if_neg closed, if_neg same]

theorem Progress.span_next_of_stays {b : Progress} {w : Outside} {store : Store}
    {request : Request WorkflowEvent} (stays : ¬ Moves store b.session w request) :
    (b.next w store request).span = b.span ∧
      (w.answer store b.session request).2.1.committed = store.committed := by
  rw [Moves, not_or, not_not] at stays
  exact ⟨by simp only [next, if_neg stays.1, if_pos stays.2], stays.2⟩

/-- A call that opens a session, begins a transaction or commits has published no rows before. -/
theorem Tale.unpublished_of_not_calm {origin : Store} {s : Service} {c : Call}
    {request : Request WorkflowEvent}
    {next : request.Answer → Action WorkflowEvent (Except WorkflowError c.Value)} {b : Progress}
    (h : Tale origin s c (.call request next) b) (loud : ¬ Calm request) :
    b.published = false := by
  cases h with
  | unsettled hidden => exact hidden.unpublished
  | settled h =>
    cases h with
    | done _ _ _ _ _ _ _ _ _ calm => exact absurd calm.1 loud

theorem Tale.unpublished {origin : Store} {s : Service} {c : Call}
    {request : Request WorkflowEvent}
    {next : request.Answer → Action WorkflowEvent (Except WorkflowError c.Value)} {b : Progress}
    (h : Tale origin s c (.call request next) b) {store : Store} (admits : Admits origin b store)
    {w : Outside} (moves : Moves store b.session w request) : b.published = false := by
  refine h.unpublished_of_not_calm fun calm => ?_
  rcases moves with begun | changed
  · rw [begins_of_calm admits.sound w store calm] at begun
    cases begun
  · exact changed (Store.alikeOn admits.like w b.session calm).committed

/-! ## The invariant -/

/-- A call keeps its tale. -/
structure Client.Ok (origin : Store) (s : Service) (c : Call) (committed : Tables)
    (client : Client c.Value) : Prop where
  /-- Whatever stores it finds from now on. -/
  safe : Safe origin (Tale origin s c) client.rest client.progress
  /-- Its session works on a copy of the tables that its transaction began on. -/
  sound : client.progress.session.Sound client.progress.base
  /-- These have evolved into the committed tables. -/
  evolves : client.progress.session.working.isSome → client.progress.base.Evolves committed
  /-- It stands between a state and itself, unless it has published. -/
  neutral : client.progress.Neutral

/-- The invariant of concurrent calls. -/
structure System.Ok {ι : Type} {calls : ι → Call} (origin : Store) (service : ι → Service)
    (sys : System calls) : Prop where
  /-- The store is like the one of the start. -/
  like : origin.Like sys.store
  /-- Rows stand under their own keys. -/
  keyed : sys.store.committed.Keyed
  /-- Every call keeps its tale. -/
  clients : ∀ i, Client.Ok origin (service i) (calls i) sys.store.committed (sys.clients i)
  /-- The calls in the line are those that stand somewhere. -/
  placed : ∀ i, i ∈ sys.line ↔ (sys.clients i).progress.span ≠ none
  /-- No call is in the line twice. -/
  nodup : sys.line.Nodup
  /-- The line leads from the start to now. -/
  linked : Linked (fun i => (sys.clients i).progress.span) origin.committed sys.line
    sys.store.committed

theorem Safe.tale {α : Type} {origin : Store} {T : Action WorkflowEvent α → Progress → Prop}
    {p : Action WorkflowEvent α} {b : Progress} (h : Safe origin T p b) : T p b := by
  cases p with
  | pure a => exact h
  | call request next => exact h.1

namespace Client.Ok

variable {origin : Store} {s : Service} {c : Call} {committed : Tables}

theorem start (origin : Store) (s : Service) (c : Call) (committed : Tables) :
    Client.Ok origin s c committed ⟨(c.action s).run, default⟩ where
  safe := safe_call origin s c
  sound := Session.sound_default _
  evolves := nofun
  neutral := nofun

theorem evolve {committed' : Tables} {client : Client c.Value}
    (h : Client.Ok origin s c committed client) (grows : committed.Evolves committed') :
    Client.Ok origin s c committed' client :=
  { h with evolves := fun opened => (h.evolves opened).trans grows }

theorem admits {client : Client c.Value} {store : Store}
    (h : Client.Ok origin s c store.committed client) (like : origin.Like store)
    (keyed : store.committed.Keyed) : Admits origin client.progress store :=
  ⟨like, keyed, h.sound, h.evolves⟩

/-- A call that takes a turn keeps its tale. -/
theorem turn {request : Request WorkflowEvent}
    {next : request.Answer → Action WorkflowEvent (Except WorkflowError c.Value)} {b : Progress}
    {store : Store} (h : Client.Ok origin s c store.committed ⟨.call request next, b⟩)
    (admits : Admits origin b store) (w : Outside) :
    Client.Ok origin s c (w.answer store b.session request).2.1.committed
      ⟨next (w.answer store b.session request).1, b.next w store request⟩ where
  safe := h.safe.2 w store admits
  sound := admits.sound_next w request
  evolves := admits.evolves_next w request
  neutral := h.neutral.next w store request

end Client.Ok

namespace System

variable {ι : Type} {calls : ι → Call} {service : ι → Service} {origin : Store}

theorem ok_start (service : ι → Service) (calls : ι → Call) {store : Store}
    (keyed : store.committed.Keyed) : (start service calls store).Ok store service where
  like := .refl store
  keyed := keyed
  clients i := .start store (service i) (calls i) store.committed
  placed i := by simp [start]; rfl
  nodup := .nil
  linked := .nil _

variable [DecidableEq ι] {sys : System calls}

/-- A turn preserves the invariant. -/
theorem Ok.respond (h : sys.Ok origin service) (i : ι) (w : Outside)
    {request : Request WorkflowEvent}
    {next : request.Answer → Action WorkflowEvent (Except WorkflowError (calls i).Value)}
    (rest : (sys.clients i).rest = .call request next) :
    (sys.respond i w request next).Ok origin service := by
  let b := (sys.clients i).progress
  have ok : Client.Ok origin (service i) (calls i) sys.store.committed ⟨.call request next, b⟩ := by
    rw [← rest]
    exact h.clients i
  have admits := ok.admits h.like h.keyed
  have spans : ∀ j, j ≠ i → ((sys.respond i w request next).clients j).progress.span =
      (sys.clients j).progress.span := by
    intro j other
    simp only [System.respond, Function.update_of_ne other]
  have own : ((sys.respond i w request next).clients i).progress = b.next w sys.store request := by
    simp only [System.respond, Function.update_self]
    rfl
  have clients : ∀ j, Client.Ok origin (service j) (calls j)
      (sys.respond i w request next).store.committed ((sys.respond i w request next).clients j) := by
    refine (Function.forall_update_iff sys.clients fun j => Client.Ok origin (service j) (calls j)
      (sys.respond i w request next).store.committed).2 ⟨ok.turn admits w, fun j _ => ?_⟩
    exact (h.clients j).evolve (admits.evolves_answer w request)
  have like : origin.Like (sys.respond i w request next).store :=
    h.like.trans (w.like_answer sys.store b.session request)
  have keyed : (sys.respond i w request next).store.committed.Keyed := admits.keyed_answer w request
  by_cases moves : Moves sys.store b.session w request
  · have line : (sys.respond i w request next).line = sys.line.erase i ++ [i] := if_pos moves
    have ends := Progress.span_next_of_moves moves
    rw [← own] at ends
    refine ⟨like, keyed, clients, fun j => ?_, ?_, ?_⟩
    · rw [line, List.mem_append, List.mem_singleton]
      by_cases other : j = i
      · subst other
        rw [ends]
        simp
      · rw [spans j other, ← h.placed j, List.mem_erase_of_ne other]
        simp [other]
    · rw [line, List.nodup_append_comm]
      exact List.nodup_cons.2 ⟨h.nodup.not_mem_erase, h.nodup.erase i⟩
    · rw [line]
      exact h.linked.move h.nodup (ok.neutral (ok.safe.tale.unpublished admits moves)) ends spans
  · have line : (sys.respond i w request next).line = sys.line := if_neg moves
    obtain ⟨span, same⟩ := Progress.span_next_of_stays moves
    have stays : ∀ j, ((sys.respond i w request next).clients j).progress.span =
        (sys.clients j).progress.span := by
      intro j
      by_cases other : j = i
      · subst other
        rw [own]
        exact span
      · exact spans j other
    refine ⟨like, keyed, clients, fun j => ?_, ?_, ?_⟩
    · rw [line, stays]
      exact h.placed j
    · rw [line]
      exact h.nodup
    · rw [line]
      show Linked _ _ _ (w.answer sys.store b.session request).2.1.committed
      rw [same]
      exact h.linked.congr fun j _ => stays j

theorem Ok.step (h : sys.Ok origin service) (happening : Happening ι) :
    (sys.step happening).Ok origin service := by
  cases happening with
  | plan onBegin onCommit =>
    exact
      { like := h.like.trans ⟨rfl, rfl, rfl⟩
        keyed := h.keyed
        clients := h.clients
        placed := h.placed
        nodup := h.nodup
        linked := h.linked }
  | turn i w =>
    simp only [System.step]
    split
    · exact h
    · rename_i request next rest
      exact h.respond i w rest

/-- The invariant holds whatever happens. -/
theorem ok_run (h : sys.Ok origin service) (happenings : List (Happening ι)) :
    (sys.run happenings).Ok origin service := by
  induction happenings generalizing sys with
  | nil => exact h
  | cons happening happenings ih => exact ih (h.step happening)

end System

end Appraisal.Memory
