import Appraisal.Proofs.Postgres.World
import Appraisal.Proofs.Workflow.Telling

/-!
# What a call about a row may do

A call decides on the row that it has loaded and writes what it decided, at most once in a
transaction (`Account.Allows`).  It may tell of a reading only after its commit of a row that it had
loaded unread succeeded: that is what `Account.owed` counts.

`touch_obeys` says that both calls keep to this, whatever the answers.  The lemmas before it take an
attempt from its end to its start, for any job whose work and end keep to it (`Orderly`).
-/

namespace Appraisal.Postgres

open Workflow Memory

/-! ## Accounts -/

/-- What is made of a row that was loaded. -/
inductive Decision (loaded : RecipientRow) : RecipientRow → Prop
  /-- A row that is not read is marked read. -/
  | read (now : Instant) (unread : loaded.isRead = false) : Decision loaded (loaded.markRead now)
  /-- A row that is not completed is completed. -/
  | complete (comment : String) (now : Instant) (incomplete : loaded.isCompleted = false) :
    Decision loaded (loaded.complete comment now)

/-- A row that was not read was loaded. -/
def unread (loaded : Option RecipientRow) : Bool := loaded.any (!·.isRead)

/-- Whether an event tells of a reading. -/
def isReading : WorkflowEvent → Bool
  | .revisionRead _ => true
  | _ => false

/-- A reading that a handler is told of. -/
def announces (place : Nat) : Appraisal.Request WorkflowEvent → Option Unit
  | .deliver at_ event => if at_ = place ∧ isReading event then some () else none
  | _ => none

/-- What a client knows, with how many readings it may tell a handler of. -/
structure Account where
  standing : Standing
  owed : Nat

namespace Account

/-- How many readings a commit adds. -/
def earned (a : Account) : Nat :=
  if a.standing.written && unread a.standing.loaded then 1 else 0

/-- The account after a request was answered. -/
def next (place : Nat) (a : Account) (request : Appraisal.Request WorkflowEvent)
    (answer : request.Answer) : Account where
  standing := a.standing.next request answer
  owed := match request, answer with
    | .session .commit, .ok () => a.owed + a.earned
    | request, _ => a.owed - (announces place request).toList.length

/-- The account after the row was loaded. -/
def load (a : Account) (row : RecipientRow) : Account :=
  { a with standing := { a.standing with loaded := some row } }

/-- The account after the row was written. -/
def write (a : Account) : Account := { a with standing := { a.standing with written := true } }

/-- What a call about a row may ask for. -/
def Allows (requestId : RevisionRequestId) (recipientId : EmployeeId) (place : Nat) (a : Account) :
    Appraisal.Request WorkflowEvent → Prop
  | .session call => a.standing.opened = true ∧ match call with
    | .begin _ | .commit | .rollback | .store (.findRequest _) => True
    | .release => a.standing.written = false
    | .store (.findRecipient request recipient) =>
      a.standing.written = false ∧ request = requestId ∧ recipient = recipientId
    | .store (.updateRecipient row) =>
      a.standing.written = false ∧ ∃ loaded, a.standing.loaded = some loaded ∧ Decision loaded row
    | _ => False
  | .deliver at_ event => (announces place (.deliver at_ event)).toList.length ≤ a.owed
  | _ => True

/-- The rules of a call about a row. -/
def rules (requestId : RevisionRequestId) (recipientId : EmployeeId) (place : Nat) :
    Program.Rules (@Appraisal.Request.Answer WorkflowEvent) Account where
  allows := Allows requestId recipientId place
  next := next place

end Account

section

variable {requestId : RevisionRequestId} {recipientId : EmployeeId} {place : Nat} {a : Account}
  {α β : Type} {post : Except WorkflowError β → Account → Prop}

/-! ## The work -/

theorem obeys_store {call : StoreCall} {k : call.Value → WorkflowWork β}
    (allowed : a.Allows requestId recipientId place (.session (.store call)))
    (failed : ∀ e, post (.error e) a)
    (rest : ∀ v, (k v).run.Obeys (Account.rules requestId recipientId place) post
      (a.next place (.session (.store call)) (.ok v))) :
    (Work.store call >>= k).run.Obeys (Account.rules requestId recipientId place) post a := by
  refine ⟨allowed, fun answer => ?_⟩
  cases answer with
  | ok v => exact rest v
  | error f =>
    have same : a.next place (.session (.store call)) (.error f) = a := by
      cases call <;> rfl
    show post (.error (.storage f)) (a.next place (.session (.store call)) (.error f))
    rw [same]
    exact failed _

/-- Loading the row lets the call decide on it. -/
theorem obeys_loadRow {k : RecipientRow → WorkflowWork β} (opened : a.standing.opened = true)
    (clean : a.standing.written = false) (failed : ∀ e, post (.error e) a)
    (rest : ∀ row, (k row).run.Obeys (Account.rules requestId recipientId place) post (a.load row)) :
    (loadRow requestId recipientId >>= k).run.Obeys (Account.rules requestId recipientId place)
      post a := by
  rw [loadRow, bind_assoc]
  refine obeys_store ⟨opened, trivial⟩ failed fun found => ?_
  cases found with
  | none => exact failed _
  | some request =>
    rw [bind_assoc]
    refine obeys_store ⟨opened, clean, rfl, rfl⟩ failed fun found => ?_
    cases found with
    | none => exact failed _
    | some row => exact rest row

/-- The work of a call has ended. -/
structure Worked (outcome : Except WorkflowError (WithEvents RecipientRow)) (a : Account) :
    Prop where
  opened : a.standing.opened = true
  owed : a.owed = 0
  earned : ∀ r, outcome = .ok r → r.pending.countP isReading ≤ a.earned

theorem Worked.failed (opened : a.standing.opened = true) (owed : a.owed = 0) (e : WorkflowError) :
    Worked (.error e) a :=
  ⟨opened, owed, nofun⟩

theorem Worked.silent (opened : a.standing.opened = true) (owed : a.owed = 0)
    (row : RecipientRow) : Worked (.ok (.ofValue row)) a := by
  refine ⟨opened, owed, ?_⟩
  rintro _ ⟨⟩
  exact Nat.zero_le _

theorem earned_write (a : Account) (row : RecipientRow) :
    (a.load row).write.earned = if row.isRead then 0 else 1 := by
  cases h : row.isRead <;> simp [Account.earned, Account.load, Account.write, unread, h]

theorem countP_completionEvents (wasRead : Bool) (comment : String) (now : Instant) :
    (completionEvents requestId recipientId wasRead comment now).countP isReading =
      if wasRead then 0 else 1 := by
  cases wasRead <;> rfl

theorem obeys_markReadIn (opened : a.standing.opened = true) (clean : a.standing.written = false)
    (owed : a.owed = 0) :
    (markReadIn requestId recipientId).run.Obeys (Account.rules requestId recipientId place)
      Worked a := by
  refine obeys_loadRow opened clean (Worked.failed opened owed) fun row => ⟨trivial, fun now => ?_⟩
  show Program.Obeys _ _ (ExceptT.run (if row.isRead then _ else _)) (a.load row)
  cases isRead : row.isRead with
  | true => exact Worked.silent (a := a.load row) opened owed row
  | false =>
    refine obeys_store ⟨opened, clean, row, rfl, .read now isRead⟩
      (Worked.failed (a := a.load row) opened owed) fun taken => ?_
    cases taken with
    | true =>
      refine ⟨opened, owed, ?_⟩
      rintro _ ⟨⟩
      show _ ≤ (a.load row).write.earned
      rw [earned_write, isRead]
      exact Nat.le_refl 1
    | false =>
      exact obeys_loadRow (a := a.load row) opened clean
        (Worked.failed (a := a.load row) opened owed) fun row' =>
          Worked.silent (a := (a.load row).load row') opened owed row'

theorem obeys_completeIn {comment : String} (opened : a.standing.opened = true)
    (clean : a.standing.written = false) (owed : a.owed = 0) :
    (completeIn requestId recipientId comment).run.Obeys
      (Account.rules requestId recipientId place) Worked a := by
  refine obeys_loadRow opened clean (Worked.failed opened owed) fun row => ?_
  cases isCompleted : row.isCompleted with
  | true =>
    rw [if_pos rfl]
    exact Worked.failed (a := a.load row) opened owed _
  | false =>
    refine ⟨trivial, fun now => ?_⟩
    refine obeys_store ⟨opened, clean, row, rfl, .complete comment now isCompleted⟩
      (Worked.failed (a := a.load row) opened owed) fun taken => ?_
    cases taken with
    | true =>
      refine ⟨opened, owed, ?_⟩
      rintro _ ⟨⟩
      show _ ≤ (a.load row).write.earned
      rw [earned_write]
      exact Nat.le_of_eq (countP_completionEvents _ _ _)
    | false => exact Worked.failed (a := a.load row) opened owed _

/-! ## What follows the attempts -/

theorem blind_announces (place : Nat) : Blind (announces place) := by
  intro request silent
  cases request with
  | deliver => exact silent.elim
  | _ => rfl

theorem length_handed (s : Service) (events : List WorkflowEvent) :
    (handed (announces place) s events).length ≤ events.countP isReading := by
  have deaf : ∀ at_ event, at_ ≠ place → announces place (.deliver at_ event) = none :=
    fun _ _ other => if_neg fun h => other h.1
  induction events with
  | nil => exact Nat.le_refl 0
  | cons event events ih =>
    have first := length_handedTo deaf event s.dispatcher.handlers 0
    have counted : (announces place (.deliver place event)).toList.length =
        if isReading event then 1 else 0 := by
      cases h : isReading event <;> simp [announces, h]
    show (handedTo _ event 0 _ ++ handed _ s events).length ≤ _
    rw [List.length_append, List.countP_cons]
    omega

/-- A stage that goes to others may tell of as many readings as are owed. -/
theorem obeys_of_emits {p : Action WorkflowEvent α} {told : List Unit} {ended : α → Prop}
    (outward : p.Within Outward ended) (emits : p.Emits (announces place) told)
    (owed : told.length ≤ a.owed) :
    p.Obeys (Account.rules requestId recipientId place) (fun _ _ => True) a := by
  induction p generalizing a told with
  | pure v => trivial
  | call request next ih =>
    obtain ⟨later, rfl, emits⟩ := emits
    rw [List.length_append] at owed
    have may : a.Allows requestId recipientId place request := by
      cases request with
      | signal => trivial
      | deliver at_ event => exact Nat.le_trans (Nat.le_add_right _ _) owed
      | _ => exact outward.1.elim
    refine ⟨may, fun answer => ih answer (outward.2 answer) (emits answer) ?_⟩
    have paid : (a.next place request answer).owed =
        a.owed - (announces place request).toList.length := by
      cases request with
      | signal | deliver => rfl
      | _ => exact outward.1.elim
    show later.length ≤ (a.next place request answer).owed
    omega

end

/-! ## The attempts -/

section

variable (requestId : RevisionRequestId) (recipientId : EmployeeId) (place : Nat)

/-- A call in progress keeps to the rules. -/
abbrev InOrder {α : Type} (p : Action WorkflowEvent α) (a : Account) : Prop :=
  p.Obeys (Account.rules requestId recipientId place) (fun _ _ => True) a

/-- The work and the end of a job keep to the rules. -/
structure Orderly (j : Job (WithEvents RecipientRow) RecipientRow) : Prop where
  body : ∀ a : Account, a.standing.opened = true → a.standing.written = false → a.owed = 0 →
    j.body.Obeys (Account.rules requestId recipientId place) Worked a
  conclude : ∀ (r : WithEvents RecipientRow) (a : Account), r.pending.countP isReading ≤ a.owed →
    InOrder requestId recipientId place (j.conclude (.ok r)) a

/-- The job keeps to the rules if a raw failure ends one of its attempts. -/
def Resumes (j : Job (WithEvents RecipientRow) RecipientRow) (left number : Nat) : Prop :=
  ∀ f (a : Account), a.standing.written = false → a.owed = 0 →
    InOrder requestId recipientId place
      (j.afterAttempt left number (.error (.storage f)) >>= j.conclude) a

end

section

variable {requestId : RevisionRequestId} {recipientId : EmployeeId} {place : Nat} {a : Account}
  {α : Type} {j : Job (WithEvents RecipientRow) RecipientRow} {left number : Nat}

theorem inOrder_release {k : Unit → Action WorkflowEvent α} (opened : a.standing.opened = true)
    (clean : a.standing.written = false)
    (rest : InOrder requestId recipientId place (k ())
      { a with standing := { a.standing with opened := false } }) :
    InOrder requestId recipientId place (j.release >>= k) a := by
  refine ⟨⟨opened, clean⟩, fun answer => ?_⟩
  cases answer with
  | ok u => exact rest
  | error f => exact ⟨trivial, fun _ => rest⟩

theorem inOrder_rollBack {k : Unit → Action WorkflowEvent α} (opened : a.standing.opened = true)
    (rest : InOrder requestId recipientId place (k ())
      { a with standing := { a.standing with written := false } }) :
    InOrder requestId recipientId place (j.rollBack >>= k) a := by
  refine ⟨⟨opened, trivial⟩, fun answer => ?_⟩
  cases answer with
  | ok u => exact rest
  | error f => exact ⟨trivial, fun _ => rest⟩

theorem Orderly.ends (orderly : Orderly requestId recipientId place j)
    (opened : a.standing.opened = true) (clean : a.standing.written = false)
    {r : WithEvents RecipientRow} (earned : r.pending.countP isReading ≤ a.owed) :
    InOrder requestId recipientId place (j.afterTransaction left number (.ok r)) a :=
  inOrder_release opened clean (orderly.conclude r _ earned)

theorem Resumes.ends (resumes : Resumes requestId recipientId place j left number)
    (opened : a.standing.opened = true) (clean : a.standing.written = false) (owed : a.owed = 0)
    (e : WorkflowError) :
    InOrder requestId recipientId place (j.afterTransaction left number (.error e)) a := by
  refine inOrder_release opened clean ?_
  cases raw : WorkError.failure? e with
  | none =>
    rw [Job.afterAttempt, raw]
    exact ⟨trivial, fun _ => trivial⟩
  | some f =>
    obtain rfl := eq_storage_of_failure? raw
    exact resumes f _ clean owed

theorem Resumes.rollBack (resumes : Resumes requestId recipientId place j left number)
    (opened : a.standing.opened = true) (owed : a.owed = 0) (e : WorkflowError) :
    InOrder requestId recipientId place
      (j.rollBack >>= fun _ => j.afterTransaction left number (.error e)) a := by
  refine inOrder_rollBack opened ?_
  exact resumes.ends (a := ⟨{ a.standing with written := false }, a.owed⟩) opened rfl owed e

theorem Resumes.afterBody (resumes : Resumes requestId recipientId place j left number)
    (orderly : Orderly requestId recipientId place j)
    {outcome : Except WorkflowError (WithEvents RecipientRow)} (worked : Worked outcome a) :
    InOrder requestId recipientId place (j.afterBody left number outcome) a := by
  obtain ⟨opened, owed, earned⟩ := worked
  cases outcome with
  | error e => exact resumes.rollBack opened owed e
  | ok r =>
    refine ⟨⟨opened, trivial⟩, fun answer => ?_⟩
    cases answer with
    | error f =>
      exact resumes.rollBack (a := ⟨{ a.standing with written := false }, a.owed⟩) opened owed _
    | ok u =>
      -- the commit earns what the value tells of
      exact orderly.ends (a := ⟨{ a.standing with written := false }, a.owed + a.earned⟩) opened
        rfl (Nat.le_trans (earned r rfl) (Nat.le_add_left _ _))

theorem Resumes.attempt (resumes : Resumes requestId recipientId place j left number)
    (orderly : Orderly requestId recipientId place j) (clean : a.standing.written = false)
    (owed : a.owed = 0) :
    InOrder requestId recipientId place (j.attempts left number >>= j.conclude) a := by
  rw [Job.attempts_bind]
  refine ⟨trivial, fun opening => ?_⟩
  cases opening with
  | error f => exact resumes f a clean owed
  | ok u =>
    let opened : Account := ⟨{ a.standing with opened := true }, a.owed⟩
    refine ⟨⟨rfl, trivial⟩, fun begun => ?_⟩
    cases begun with
    | error f => exact resumes.ends (a := opened) rfl clean owed _
    | ok u =>
      exact (orderly.body opened rfl clean owed).bind fun outcome a worked =>
        resumes.afterBody orderly worked

theorem Orderly.attempts (orderly : Orderly requestId recipientId place j)
    (clean : a.standing.written = false) (owed : a.owed = 0) (left number : Nat) :
    InOrder requestId recipientId place (j.attempts left number >>= j.conclude) a := by
  have givesUp : ∀ number f (a : Account), InOrder requestId recipientId place ((do
      let e ← (Coordinator.giveUp j.context number f : Action WorkflowEvent WorkflowError)
      return .error e) >>= j.conclude) a :=
    fun number f a => ⟨trivial, fun _ => ⟨trivial, fun _ => ⟨trivial, fun _ => trivial⟩⟩⟩
  -- on the attempts left: a failed attempt is followed by the next one, or by the end
  induction left generalizing number a with
  | zero => exact Resumes.attempt (fun f a _ _ => givesUp number f a) orderly clean owed
  | succ left ih =>
    refine Resumes.attempt (fun f a clean owed => ?_) orderly clean owed
    show InOrder requestId recipientId place
      ((if j.policy.shouldRetry f.kind number then _ else _) >>= _) a
    split
    · exact ⟨trivial, fun _ => ⟨trivial, fun _ => ⟨trivial, fun _ => ih clean owed (number + 1)⟩⟩⟩
    · exact givesUp number f a

theorem Orderly.action (orderly : Orderly requestId recipientId place j)
    (clean : a.standing.written = false) (owed : a.owed = 0) :
    InOrder requestId recipientId place j.action a :=
  ⟨trivial, fun _ => orderly.attempts clean owed _ _⟩

end

/-! ## The calls -/

section

variable {requestId : RevisionRequestId} {recipientId : EmployeeId} {place : Nat}

theorem orderly_markRead (s : Service) :
    Orderly requestId recipientId place ((Call.markRead requestId recipientId).job s ()) where
  body a opened clean owed := obeys_markReadIn opened clean owed
  conclude r a owed := by
    have emits := emits_conclude (blind_announces place) s (.markRead requestId recipientId) ()
      (.ok r)
    exact obeys_of_emits (outward_conclude s (.markRead requestId recipientId) () (.ok r)) emits
      (Nat.le_trans (length_handed s r.pending) owed)

theorem orderly_submitCompletion (s : Service) (comment : String) :
    Orderly requestId recipientId place
      ((Call.submitCompletion requestId recipientId comment).job s ()) where
  body a opened clean owed := obeys_completeIn opened clean owed
  conclude r a owed := by
    have emits := emits_conclude (blind_announces place) s
      (.submitCompletion requestId recipientId comment) () (.ok r)
    refine obeys_of_emits
      (outward_conclude s (.submitCompletion requestId recipientId comment) () (.ok r)) emits ?_
    show (handed _ s r.pending ++ []).length ≤ a.owed
    rw [List.append_nil]
    exact Nat.le_trans (length_handed s r.pending) owed

/-- Both calls keep to the rules, whatever the answers. -/
theorem touch_obeys (s : Service) (touch : Touch) :
    InOrder requestId recipientId place (touch.action s requestId recipientId).run
      ⟨default, 0⟩ := by
  cases touch with
  | read =>
    rw [show (Touch.read.action s requestId recipientId).run = _ from
      Call.action_eq s (.markRead requestId recipientId)]
    exact (orderly_markRead s).action rfl rfl
  | complete comment =>
    rw [show ((Touch.complete comment).action s requestId recipientId).run = _ from
      Call.action_eq s (.submitCompletion requestId recipientId comment)]
    exact (orderly_submitCompletion s comment).action rfl rfl

end

end Appraisal.Postgres
