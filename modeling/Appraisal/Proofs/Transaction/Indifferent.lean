import Appraisal.Proofs.Memory.History
import Appraisal.Proofs.Transaction.Coupled

/-!
# Runs that fail to clean up

Two runs of the same call are made on stores that differ only in whether clean-up fails, and with
handlers that have nothing in common.  They come to the same outcome and leave the same rows.  They
make the same attempts, waits and deliveries.  They differ in what they report, and in nothing else
(`indifferent_runWith`).

A run goes on at a `Site`, which is the store with its current session and what answers all other
requests.  Coupled actions run to values that are related, at sites that stay alike (`Coupled.run`).
-/

namespace Appraisal.Memory

open Coordinator

variable {ε E α β : Type}

/-! ## Sites -/

/-- What a run finds: the store with the current session, what the clock and the source of random
bits go by, and what the handlers remember. -/
structure Site (σ η : Type) where
  store : Store
  session : Session
  elsewhere : σ
  handlers : η

/-- The clock, waiting, and the source of random bits. -/
structure Elsewhere (σ : Type) where
  now : σ → Instant × σ
  draw : σ → Uuid × σ
  sleep : Duration → σ → σ

/-- What the handler at a place does with an event. -/
abbrev Reaction (ε η : Type) : Type := Nat → ε → η → Except String Unit × η

/-- The answer to a request, with the site after it. -/
def Site.answer {σ η : Type} (elsewhere : Elsewhere σ) (react : Reaction ε η) :
    (request : Request ε) → Site σ η → request.Answer × Site σ η
  | .openSession, site =>
    (.ok (), { site with store := site.store.openSession.2, session := site.store.openSession.1 })
  | .session call, site =>
    let (answer, store, session) := site.store.answer site.session call
    (answer, { site with store, session })
  | .findMapping id, site => (.ok (site.store.findMapping id), site)
  | .now, site =>
    let (time, after) := elsewhere.now site.elsewhere
    (time, { site with elsewhere := after })
  | .draw, site =>
    let (bits, after) := elsewhere.draw site.elsewhere
    (bits, { site with elsewhere := after })
  | .sleep d, site => ((), { site with elsewhere := elsewhere.sleep d site.elsewhere })
  | .signal _, site => ((), site)
  | .deliver place event, site =>
    let (result, after) := react place event site.handlers
    (result, { site with handlers := after })

/-- The store with other failures to clean up. -/
def Store.told (store : Store) (onRollback onRelease : Bool) : Store :=
  { store with
    faults.failOnRollback := onRollback
    faults.failOnRelease := onRelease }

/-- The site with other failures to clean up and with other handlers. -/
def Site.told {σ η η' : Type} (site : Site σ η) (onRollback onRelease : Bool) (handlers : η') :
    Site σ η' :=
  ⟨site.store.told onRollback onRelease, site.session, site.elsewhere, handlers⟩

namespace Store

variable (store : Store) (onRollback onRelease : Bool) (s : Session)

theorem publish_told (t : Transaction) :
    (store.told onRollback onRelease).publish t =
      ((store.publish t).1, (store.publish t).2.told onRollback onRelease) := by
  cases can : t.canCommit store.committed with
  | true => simp only [publish, told, can, if_true]
  | false => simp only [publish, told, can, Bool.false_eq_true, if_false]

theorem commit_told :
    (store.told onRollback onRelease).commit s =
      ((store.commit s).1, (store.commit s).2.1.told onRollback onRelease,
        (store.commit s).2.2) := by
  cases working : s.working with
  | none => simp only [commit, working]
  | some t =>
    cases faults : store.faults.onCommit with
    | cons f rest => simp only [commit, working, told, faults]
    | nil =>
      cases readOnly : s.readOnly with
      | true => simp only [commit, working, told, faults, readOnly, if_true]
      | false =>
        have faults' : (store.told onRollback onRelease).faults.onCommit = [] := faults
        rw [commit_eq working readOnly faults', commit_eq working readOnly faults, publish_told]

/-- Only rollback and release tell whether clean-up fails. -/
theorem answer_told {call : SessionCall} (firm : Firm (.session call : Request ε)) :
    (store.told onRollback onRelease).answer s call =
      ((store.answer s call).1, (store.answer s call).2.1.told onRollback onRelease,
        (store.answer s call).2.2) := by
  cases call with
  | begin isolation =>
    simp only [answer, begin, told]
    split
    · rfl
    · split <;> rfl
  | setReadOnly => simp only [answer, setReadOnly]; split <;> rfl
  | savepoint name =>
    simp only [answer, savepoint]
    split
    · rfl
    · split <;> rfl
  | releaseSavepoint name => simp only [answer, releaseSavepoint]; split <;> rfl
  | rollbackToSavepoint name => simp only [answer, rollbackToSavepoint]; split <;> rfl
  | commit => exact store.commit_told onRollback onRelease s
  | rollback => exact absurd trivial firm
  | release => exact absurd trivial firm
  | store call => rfl

/-- Whether clean-up fails or not, a call leaves the same store and session. -/
theorem after_told (call : SessionCall) :
    ((store.told onRollback onRelease).answer s call).2 =
      ((store.answer s call).2.1.told onRollback onRelease, (store.answer s call).2.2) := by
  by_cases fickle : Fickle (.session call : Request Unit)
  · cases call with
    | rollback => rfl
    | release => simp only [answer, release]; split <;> rfl
    | _ => exact fickle.elim
  · rw [store.answer_told onRollback onRelease s fickle]

end Store

namespace Site

variable {σ η η' : Type} (elsewhere : Elsewhere σ) (react : Reaction ε η) (react' : Reaction ε η')
  (site : Site σ η) (onRollback onRelease : Bool) (handlers : η')

/-- A firm request gets the same answer. -/
theorem answer_told {request : Request ε} (firm : Firm request) :
    ((site.told onRollback onRelease handlers).answer elsewhere react' request).1 =
      (site.answer elsewhere react request).1 := by
  cases request with
  | session call =>
    exact congrArg Prod.fst (site.store.answer_told onRollback onRelease site.session firm)
  | deliver place event => exact absurd trivial firm
  | _ => rfl

/-- Any request changes no more than the handlers in a different way. -/
theorem after_told (request : Request ε) :
    ∃ later : η', ((site.told onRollback onRelease handlers).answer elsewhere react' request).2 =
      (site.answer elsewhere react request).2.told onRollback onRelease later := by
  cases request with
  | session call =>
    have same := site.store.after_told onRollback onRelease site.session call
    refine ⟨handlers, ?_⟩
    simp only [answer, told, same]
  | deliver place event => exact ⟨(react' place event handlers).2, rfl⟩
  | _ => exact ⟨handlers, rfl⟩

end Site

/-! ## Runs -/

/-- A run that has ended. -/
structure Run (ε σ η α : Type) where
  value : α
  /-- What was asked for, in order. -/
  requests : List (Request ε)
  site : Site σ η

/-- The run of an action from a site on. -/
def Site.run {σ η : Type} (elsewhere : Elsewhere σ) (react : Reaction ε η) :
    Action ε α → Site σ η → Run ε σ η α
  | .pure a, site => ⟨a, [], site⟩
  | .call request next, site =>
    let (answer, after) := site.answer elsewhere react request
    let rest := run elsewhere react (next answer) after
    { rest with requests := request :: rest.requests }

theorem filterMap_cons_congr {A B : Type} {f : A → Option B} {a a' : A} {l l' : List A}
    (head : f a' = f a) (tail : l'.filterMap f = l.filterMap f) :
    (a' :: l').filterMap f = (a :: l).filterMap f := by
  rw [List.filterMap_cons, List.filterMap_cons, head, tail]

theorem filterMap_report {s : Signal} (report : essence s = none) (l : List (Request ε)) :
    (.signal s :: l).filterMap unreported = l.filterMap unreported :=
  List.filterMap_cons_none (by rw [unreported, report]; rfl)

/-- Coupled actions run to values that are related.  Of the requests, only reports differ. -/
theorem Coupled.run {R : α → β → Prop} {p : Action ε α} {q : Action ε β} (h : Coupled R p q)
    {σ η η' : Type} (elsewhere : Elsewhere σ) (react : Reaction ε η) (react' : Reaction ε η')
    (onRollback onRelease : Bool) (site : Site σ η) (handlers : η') :
    let one := site.run elsewhere react p
    let other := (site.told onRollback onRelease handlers).run elsewhere react' q
    R one.value other.value ∧
      other.requests.filterMap unreported = one.requests.filterMap unreported ∧
      ∃ later : η', other.site = one.site.told onRollback onRelease later := by
  induction h generalizing site handlers with
  | done related => exact ⟨related, rfl, handlers, rfl⟩
  | @firm request next next' firm later ih =>
    obtain ⟨handlers', after⟩ :=
      site.after_told elsewhere react react' onRollback onRelease handlers request
    have same := site.answer_told elsewhere react react' onRollback onRelease handlers firm
    obtain ⟨related, requests, ended⟩ := ih _ (site.answer elsewhere react request).2 handlers'
    simp only [Site.run, same, after]
    exact ⟨related, filterMap_cons_congr rfl requests, ended⟩
  | @fickle request next next' later ih =>
    obtain ⟨handlers', after⟩ :=
      site.after_told elsewhere react react' onRollback onRelease handlers request
    obtain ⟨related, requests, ended⟩ := ih _ _ (site.answer elsewhere react request).2 handlers'
    simp only [Site.run, after]
    exact ⟨related, filterMap_cons_congr rfl requests, ended⟩
  | signals same later ih =>
    obtain ⟨related, requests, ended⟩ := ih site handlers
    exact ⟨related, filterMap_cons_congr (by rw [unreported, unreported, same]) requests, ended⟩
  | left report later ih =>
    obtain ⟨related, requests, ended⟩ := ih site handlers
    exact ⟨related, requests.trans (filterMap_report report _).symm, ended⟩
  | right report later ih =>
    obtain ⟨related, requests, ended⟩ := ih site handlers
    exact ⟨related, (filterMap_report report _).trans requests, ended⟩

/-! ## Indifferent actions -/

/-- How long a request waits, if it does. -/
def sleep? : Request ε → Option Duration
  | .sleep d => some d
  | _ => none

/-- The handler and the event of a delivery. -/
def delivery? : Request ε → Option (Nat × ε)
  | .deliver place event => some (place, event)
  | _ => none

/-- The request opens a session. -/
def opens : Request ε → Bool
  | .openSession => true
  | _ => false

/-- The second run differs from the first one only in what it reports, if clean-up fails in it as
given. -/
structure Run.Alike {σ η η' : Type} (onRollback onRelease : Bool) (one : Run ε σ η α)
    (other : Run ε σ η' α) : Prop where
  /-- It ends with the same value. -/
  value : other.value = one.value
  /-- It leaves the same rows, versions, queued failures and statistics. -/
  store : other.site.store = one.site.store.told onRollback onRelease
  attempts : other.requests.countP opens = one.requests.countP opens
  sleeps : other.requests.filterMap sleep? = one.requests.filterMap sleep?
  deliveries : other.requests.filterMap delivery? = one.requests.filterMap delivery?
  /-- All its requests are the same but for reports. -/
  requests : other.requests.filterMap unreported = one.requests.filterMap unreported

/-- Whether clean-up fails, and how handlers fail, changes nothing but reports. -/
def Indifferent (p : Action ε α) : Prop :=
  ∀ {σ η η' : Type} (elsewhere : Elsewhere σ) (react : Reaction ε η) (react' : Reaction ε η')
    (onRollback onRelease : Bool) (site : Site σ η) (handlers : η'),
    (site.run elsewhere react p).Alike onRollback onRelease
      ((site.told onRollback onRelease handlers).run elsewhere react' p)

theorem filterMap_unreported {β : Type} {f : Request ε → Option β}
    (quiet : ∀ s, f (.signal s) = none) (l : List (Request ε)) :
    (l.filterMap unreported).filterMap f = l.filterMap f := by
  rw [List.filterMap_filterMap]
  refine congrArg (List.filterMap · l) (funext fun request => ?_)
  cases request with
  | signal s => cases h : essence s <;> simp [unreported, h, quiet]
  | _ => rfl

theorem countP_opens_unreported (l : List (Request ε)) :
    (l.filterMap unreported).countP opens = l.countP opens := by
  rw [List.countP_filterMap]
  refine congrArg (List.countP · l) (funext fun request => ?_)
  cases request with
  | signal s => cases h : essence s <;> simp [unreported, h, opens]
  | _ => rfl

/-- An action that is coupled with itself is indifferent. -/
theorem Coupled.indifferent {p : Action ε α} (h : Coupled Eq p p) : Indifferent p := by
  intro σ η η' elsewhere react react' onRollback onRelease site handlers
  obtain ⟨value, requests, later, ended⟩ :=
    h.run elsewhere react react' onRollback onRelease site handlers
  refine ⟨value.symm, by rw [ended]; rfl, ?_, ?_, ?_, requests⟩
  · rw [← countP_opens_unreported, requests, countP_opens_unreported]
  · rw [← filterMap_unreported fun _ => rfl, requests, filterMap_unreported fun _ => rfl]
  · rw [← filterMap_unreported fun _ => rfl, requests, filterMap_unreported fun _ => rfl]

/-- However rolling back and giving sessions back fails, and whatever handlers do, a coordinated
run comes to the same outcome, leaves the same store, and makes the same attempts, waits and
deliveries.  Only reports differ.  This holds at every site, with any failures queued, and for all
work that leaves rolling back, releasing and delivering to the coordinator, such as store calls and
further work in savepoints. -/
theorem indifferent_runWith [WorkError E] (c : Coordinator) (context : String)
    (options : TransactionOptions) {work : Work ε E α} (firm : work.run.Within Firm fun _ => True) :
    Indifferent (c.runWith context options work).run ∧
      ∀ [EventSource ε α] (d : Dispatcher ε),
        Indifferent (c.runWithEventsUsing context options d work).run :=
  ⟨(coupled_runWith firm).indifferent, fun d => (coupled_runWithEventsUsing d firm).indifferent⟩

/-- Work that fails in a savepoint, after it has stored a record, and still raises an event. -/
def persisting (c : Coordinator) : Work Unit RunError (Recorded Unit Unit) :=
  ExceptT.mk do
    let _ ← (c.inSavepoint "inner" "sp" (do
      Work.saveApproval (.fresh default default)
      throw (.storage (.other "rejected")) : Work Unit RunError Unit)).run
    return .ok ⟨(), [()]⟩

/-- A clock that stands still. -/
def standing : Elsewhere Unit where
  now _ := (default, ())
  draw _ := (default, ())
  sleep _ _ := ()

/-- A store whose first commit fails. -/
def troubled : Site Unit Unit :=
  ⟨{ (default : Store) with faults.onCommit := [.rejected "40P01" "deadlock detected"] },
    default, (), ()⟩

/-- Two attempts, with clean-up and the handler failing in one run and not in the other. -/
theorem indifferent_runWith_persisting :
    let p : Action Unit _ := ((default : Coordinator).runWithEventsUsing "save" default
      ⟨[⟨"handler", none⟩]⟩ (persisting default)).run
    let one := troubled.run standing (fun _ _ _ => (.ok (), ())) p
    let other := (troubled.told true true ()).run standing (fun _ _ _ => (.error "no", ())) p
    one.requests.length + 5 = other.requests.length ∧ one.requests.countP opens = 2 ∧
      one.Alike true true other := by
  intro p one other
  have firm : (persisting default).run.Within Firm fun _ => True := by
    refine (firm_inSavepoint "sp" ?_).bind fun _ _ => trivial
    refine ⟨id, fun answer => ?_⟩
    cases answer <;> trivial
  exact ⟨by decide +kernel, by decide +kernel,
    (indifferent_runWith default "save" default firm).2 _ standing _ _ true true troubled ()⟩

end Appraisal.Memory
