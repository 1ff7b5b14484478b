import Appraisal.Proofs.Workflow.Deed

/-!
# How work fails

Work on an open transaction ends with a value, with an error of the application, or with a failure
of the store.  Only the insertion of a row can fail, because there is one already, and no such
failure is retried.  So work that is to store a request of which no row is there yet never fails for
a reason of the store (`comes_body`).

`Comes` follows a program on a session of its own, whatever the outside answers.
-/

namespace Appraisal.Memory

open Workflow

/-- Whatever the outside answers, the program ends on its session as described. -/
def Comes {α : Type} (origin : Store) (post : α → Session → Prop) :
    Action WorkflowEvent α → Session → Prop
  | .pure a, s => post a s
  | .call request next, s => ∀ w : Outside,
    Comes origin post (next (w.answer origin s request).1) (w.answer origin s request).2.2

/-- The outcome is a value or an error of the application.  If no promise is made that the rows of a
new request are new, it may also be a failure that is not retried. -/
def Excused {α : Type} (promised : Prop) (outcome : Except WorkflowError α) : Prop :=
  ∀ e, outcome = .error e → isApplication e = true ∨
    ¬ promised ∧ ∃ f, e = .storage f ∧ f.kind.isRetryable = false

/-- The program comes to an excused outcome. -/
abbrev Behaves {α : Type} (origin : Store) (promised : Prop)
    (p : Action WorkflowEvent (Except WorkflowError α)) (s : Session) : Prop :=
  Comes origin (fun r _ => Excused promised r) p s

variable {α β : Type} {origin : Store} {s : Session} {t : Transaction} {promised : Prop}

theorem excused_ok (a : α) : Excused promised (.ok a) := fun _ failed => by cases failed

theorem excused_application {e : WorkflowError} (h : isApplication e = true) :
    Excused promised (.error e : Except WorkflowError α) := by
  rintro _ ⟨⟩
  exact .inl h

theorem Excused.error {e : WorkflowError} (h : Excused promised (.error e : Except _ α)) :
    Excused promised (.error e : Except _ β) := by
  rintro _ ⟨⟩
  exact h e rfl

namespace Comes

theorem bind {post : α → Session → Prop} {post' : β → Session → Prop} {p : Action WorkflowEvent α}
    {k : α → Action WorkflowEvent β} (h : Comes origin post p s)
    (rest : ∀ a s', post a s' → Comes origin post' (k a) s') : Comes origin post' (p >>= k) s := by
  induction p generalizing s with
  | pure a => exact rest a s h
  | call request next ih => exact fun w => ih _ (h w)

/-- Work in a row: an error ends it. -/
theorem work_bind {post : Except WorkflowError β → Session → Prop} {work : WorkflowWork α}
    {k : α → WorkflowWork β}
    (h : Comes origin (fun r s' => match r with
      | .ok a => Comes origin post (k a).run s'
      | .error e => post (.error e) s') work.run s) : Comes origin post (work >>= k).run s :=
  h.bind fun r _ rest => match r with
    | .ok _ => rest
    | .error _ => rest

theorem of_follows {post : α → Session → Prop} {p : Action WorkflowEvent α}
    (h : Comes origin post p s) {turns : List Turn} {a : α} {s' : Session}
    (follows : Follows origin p s turns (pure a) s') : post a s' := by
  induction p generalizing s turns with
  | pure b =>
    obtain ⟨-, rfl, rfl⟩ := Follows.of_pure follows
    exact h
  | call request next ih =>
    cases follows with
    | turn w calm rest => exact ih _ (h w) rest

/-- Two pieces of work that behave. -/
theorem andThen {work : WorkflowWork α} {k : α → WorkflowWork β}
    (h : Behaves origin promised work.run s)
    (rest : ∀ a s', Behaves origin promised (k a).run s') :
    Behaves origin promised (work >>= k).run s :=
  h.bind fun r s' excused => match r with
    | .ok a => rest a s'
    | .error _ => Excused.error excused

/-! ### Store calls -/

theorem store (call : StoreCall) {post : Except WorkflowError call.Value → Session → Prop}
    (h : post ((s.store call).1.mapError .storage) (s.store call).2) :
    Comes origin post (Work.store call : WorkflowWork call.Value).run s := by
  intro w
  have answered : (w.answer origin s (.session (.store call))).1 = (s.store call).1 := rfl
  rw [answered]
  cases answer : (s.store call).1 with
  | ok v =>
    rw [answer] at h
    exact h
  | error f =>
    rw [answer] at h
    exact h

theorem now {post : Except WorkflowError β → Session → Prop} {k : Instant → WorkflowWork β}
    (h : ∀ now, Comes origin post (k now).run s) :
    Comes origin post (Work.perform Action.now >>= k).run s := fun w => h w.now

theorem read (call : StoreCall) {post : Except WorkflowError β → Session → Prop}
    {f : Tables → call.Value} {k : call.Value → WorkflowWork β}
    (reads : s.store call = s.read f) (working : s.working = some t)
    (h : Comes origin post (k (f t.tables)).run s) :
    Comes origin post (Work.store call >>= k).run s :=
  work_bind (store call (by rw [reads, Session.read_of_working working]; exact h))

/-- A row that the session accepts. -/
theorem accepted (call : StoreCall) {post : Except WorkflowError β → Session → Prop}
    {v : call.Value} {k : call.Value → WorkflowWork β} (accepted : (s.store call).1 = .ok v)
    (h : Comes origin post (k v).run (s.plus (storedRow call (.ok v)).toList)) :
    Comes origin post (Work.store call >>= k).run s :=
  work_bind (store call (by rw [s.store_eq_plus, accepted]; exact h))

end Comes

/-! ## What sessions refuse -/

namespace Session

theorem write_of_working (working : s.working = some t) (writable : s.readOnly = false)
    (f : Transaction → Except Failure (α × Transaction)) :
    (s.write f).1 = (f t).map Prod.fst := by
  simp only [write, writable_eq_ok_iff.2 ⟨writable, working⟩]
  cases f t <;> rfl

theorem readOnly_plus (s : Session) (rows : List Row) : (s.plus rows).readOnly = s.readOnly := by
  rw [plus]
  split <;> rfl

theorem read_refused {f : Tables → α} {e : Failure} (h : (s.read f).1 = .error e) :
    e = noTransaction := by
  simp only [read, tables] at h
  cases working : s.working <;> simp only [working] at h <;> cases h
  rfl

theorem write_refused {f : Transaction → Except Failure (α × Transaction)} {e : Failure}
    (h : (s.write f).1 = .error e) :
    e = readOnlyTransaction ∨ e = noTransaction ∨ ∃ t, f t = .error e := by
  rw [write] at h
  cases allowed : s.writable with
  | error e' =>
    simp only [allowed] at h
    cases h
    rw [writable] at allowed
    split at allowed
    · cases allowed
      exact .inl rfl
    · split at allowed <;> cases allowed
      exact .inr (.inl rfl)
  | ok t =>
    simp only [allowed] at h
    refine .inr (.inr ⟨t, ?_⟩)
    cases answer : f t with
    | ok _ =>
      simp only [answer] at h
      cases h
    | error e' =>
      simp only [answer] at h
      cases h
      rfl

end Session

theorem isRetryable_of_rejected {code : String} {message : String} {constraint : Option String}
    (known : ((FailureKind.ofCode? code).getD .constraintViolation).isRetryable = false) :
    (Failure.database (some code) message constraint).kind.isRetryable = false := known

theorem isRetryable_noTransaction : noTransaction.kind.isRetryable = false := by decide

theorem isRetryable_of_write {f : Transaction → Except Failure (α × Transaction)} {e : Failure}
    (refuses : ∀ t, f t = .error e → e.kind.isRetryable = false)
    (h : (s.write f).1 = .error e) : e.kind.isRetryable = false := by
  rcases Session.write_refused h with rfl | rfl | ⟨t, refused⟩
  · decide
  · exact isRetryable_noTransaction
  · exact refuses t refused

/-- What a session refuses to do, it would refuse again. -/
theorem isRetryable_of_store {call : StoreCall} {e : Failure} (h : (s.store call).1 = .error e) :
    e.kind.isRetryable = false := by
  have read : ∀ {β : Type} {f : Tables → β}, (s.read f).1 = .error e →
      e.kind.isRetryable = false := by
    intro β f failed
    rw [Session.read_refused failed]
    exact isRetryable_noTransaction
  cases call with
  | insertRequest request =>
    refine isRetryable_of_write (fun t refused => ?_) h
    simp only [Transaction.insertRequest_eq] at refused
    split at refused <;> cases refused
    exact isRetryable_of_rejected (by decide)
  | insertRecipient row =>
    refine isRetryable_of_write (fun t refused => ?_) h
    simp only [Transaction.insertRecipient_eq] at refused
    split at refused
    · cases refused
      exact isRetryable_of_rejected (by decide)
    · split at refused <;> cases refused
      exact isRetryable_of_rejected (by decide)
  | saveApproval | updateRecipient =>
    exact isRetryable_of_write (fun t refused => by cases refused) h
  | _ => exact read h

/-! ## Reading, and updating a row -/

section

variable {requestId : RevisionRequestId} {recipientId : EmployeeId}

theorem comes_loadRow (working : s.working = some t) :
    Comes origin (fun r s' => s' = s ∧ Excused promised r)
      (loadRow requestId recipientId).run s := by
  refine Comes.read (.findRequest requestId) rfl working ?_
  cases t.tables.requests.get? requestId with
  | none => exact ⟨rfl, excused_application rfl⟩
  | some request =>
    refine Comes.read (.findRecipient requestId recipientId) rfl working ?_
    cases t.tables.recipients.get? (requestId, recipientId) with
    | none => exact ⟨rfl, excused_application rfl⟩
    | some row => exact ⟨rfl, excused_ok row⟩

/-- What follows the loading of a row. -/
theorem Comes.load {load : RecipientRow → WorkflowWork β} (working : s.working = some t)
    (h : ∀ row, Behaves origin promised (load row).run s) :
    Behaves origin promised (loadRow requestId recipientId >>= load).run s := by
  have loaded : Comes origin (fun r s' => s' = s ∧ Excused promised r)
      (loadRow requestId recipientId).run s := comes_loadRow working
  refine loaded.bind fun r s' ⟨same, excused⟩ => ?_
  subst same
  cases r with
  | ok row => exact h row
  | error e => exact excused.error

theorem accepted_updateRecipient (working : s.working = some t) (writable : s.readOnly = false)
    (row : RecipientRow) : ∃ taken, (s.store (.updateRecipient row)).1 = .ok taken := by
  refine ⟨(t.updateRecipient row).1, ?_⟩
  rw [Session.store, Session.write_of_working working writable]
  rfl

theorem comes_markReadIn (working : s.working = some t) (writable : s.readOnly = false) :
    Behaves origin promised (markReadIn requestId recipientId).run s := by
  refine Comes.load working fun row => Comes.now fun now => ?_
  split
  · exact excused_ok _
  · obtain ⟨taken, accepted⟩ := accepted_updateRecipient working writable (row.markRead now)
    refine Comes.accepted (.updateRecipient _) accepted ?_
    cases taken with
    | true => exact excused_ok _
    | false => exact Comes.load (Session.working_plus working _) fun _ => excused_ok _

theorem comes_completeIn {comment : String} (working : s.working = some t)
    (writable : s.readOnly = false) :
    Behaves origin promised (completeIn requestId recipientId comment).run s := by
  refine Comes.load working fun row => ?_
  split
  · exact excused_application rfl
  · refine Comes.now fun now => ?_
    obtain ⟨taken, accepted⟩ := accepted_updateRecipient working writable (row.complete comment now)
    refine Comes.accepted (.updateRecipient _) accepted ?_
    cases taken with
    | true => exact excused_ok _
    | false => exact excused_application rfl

theorem comes_loadDetail (working : s.working = some t) :
    Behaves origin promised (loadDetail requestId).run s := by
  refine Comes.read (.findRequest requestId) rfl working ?_
  cases t.tables.requests.get? requestId with
  | none => exact excused_application rfl
  | some request =>
    exact Comes.read (.recipientsOf requestId) rfl working (excused_ok _)

end

/-! ## The preparation -/

theorem comes_ofCheck {result : Except WorkflowError α}
    (h : ∀ e, result = .error e → isApplication e = true) :
    Behaves origin promised (Work.ofCheck result : WorkflowWork α).run s :=
  fun e failed => .inl (h e failed)

theorem isApplication_of_checkComment {comment : Option String} {e : WorkflowError}
    (h : checkComment comment = .error e) : isApplication e = true := by
  rw [checkComment_eq] at h
  split at h <;> cases h
  rfl

theorem isApplication_of_changeComment {change : StepStatusChange} {e : WorkflowError}
    (h : changeComment change = .error e) : isApplication e = true := by
  rw [changeComment_eq] at h
  split at h
  · cases h
    rfl
  · split at h <;> cases h

theorem isApplication_of_checkRecipients {mapping : EvaluationMapping} {step : Step}
    {named : List Recipient} {e : WorkflowError}
    (h : checkRecipients mapping step named = .error e) : isApplication e = true := by
  rw [checkRecipients_eq] at h
  split at h <;> cases h
  rfl

theorem comes_checkRecipients {mapping : EvaluationMapping} {step : Step}
    {named : List Recipient} :
    Behaves origin promised (Work.ofCheck (checkRecipients mapping step named)).run s :=
  comes_ofCheck fun _ h => isApplication_of_checkRecipients h

theorem comes_requireMapping (id : MappingId) :
    Behaves origin promised (requireMapping id).run s := by
  intro w
  have answered : (w.answer origin s (.findMapping id)).1 = .ok (origin.findMapping id) := rfl
  rw [answered]
  cases origin.findMapping id with
  | none => exact excused_application rfl
  | some mapping => exact excused_ok mapping

/-- A call that is not prepared is refused by the application. -/
theorem comes_prepare (c : Call) : Behaves origin promised c.prepare.run s := by
  have built : ∀ (s : Session) mapping step comment by_, Behaves origin promised
      (Work.perform (buildRequest mapping step comment by_) : WorkflowWork _).run s :=
    fun _ _ _ _ _ _ _ => excused_ok _
  cases c with
  | setStepStatus change =>
    refine Comes.andThen (comes_ofCheck fun _ h => isApplication_of_changeComment h)
      fun comment s => Comes.andThen (comes_requireMapping _) fun mapping s => ?_
    cases comment with
    | none => exact excused_ok _
    | some comment =>
      exact Comes.andThen comes_checkRecipients fun _ s =>
        Comes.andThen (built s _ _ _ _) fun _ _ => excused_ok _
  | createRequest new =>
    exact Comes.andThen (comes_ofCheck fun _ h => isApplication_of_checkComment h) fun _ s =>
      Comes.andThen (comes_requireMapping _) fun _ s =>
        Comes.andThen comes_checkRecipients fun _ s =>
          Comes.andThen (built s _ _ _ _) fun _ _ => excused_ok _
  | _ => exact excused_ok _

/-! ## Creating a request -/

/-- The request that a row is about. -/
def RowKey.about? : RowKey → Option RevisionRequestId
  | .approval _ => none
  | .request id | .recipient id _ => some id

/-- No row is about a request. -/
def Tables.Lacks (t : Tables) (id : RevisionRequestId) : Prop :=
  ∀ key : RowKey, key.about? = some id → t.row key = none

theorem Tables.Lacks.put {t : Tables} {id : RevisionRequestId} (h : t.Lacks id) {r : Row}
    (other : r.key.about? = none) : (t.put r).Lacks id := by
  intro key about
  rw [row_put, if_neg]
  · exact h key about
  · rintro rfl
    rw [other] at about
    cases about

/-- No row of some recipients of a request is there. -/
def Vacant (t : Transaction) (id : RevisionRequestId) (recipients : List Recipient) : Prop :=
  (t.tables.row (.request id)).isSome ∧ (recipients.map Recipient.id).Nodup ∧
    ∀ r ∈ recipients, t.tables.row (.recipient id r.id) = none

theorem Vacant.next {id : RevisionRequestId} {r : Recipient} {recipients : List Recipient}
    (h : Vacant t id (r :: recipients)) :
    Vacant (t.put (.recipient (.fresh id r.id r.role))) id recipients := by
  obtain ⟨requested, distinct, absent⟩ := h
  obtain ⟨new, distinct⟩ := List.nodup_cons.1 distinct
  refine ⟨?_, distinct, fun other mem => ?_⟩
  · rw [Transaction.tables_put, Tables.row_put, if_neg fun same => by cases same]
    exact requested
  · rw [Transaction.tables_put, Tables.row_put, if_neg]
    · exact absent other (List.mem_cons_of_mem _ mem)
    · intro same
      have same : other.id = r.id := (RowKey.recipient.inj same).2
      exact new (same ▸ List.mem_map_of_mem mem)

/-- A store call that the session may refuse. -/
theorem Comes.insert (call : StoreCall) {k : call.Value → WorkflowWork β}
    (sure : promised → ∃ v, (s.store call).1 = .ok v)
    (h : ∀ v, (s.store call).1 = .ok v → Behaves origin promised (k v).run
      (s.plus (storedRow call (.ok v)).toList)) :
    Behaves origin promised (Work.store call >>= k).run s := by
  refine Comes.work_bind (Comes.store call ?_)
  cases answer : (s.store call).1 with
  | ok v =>
    rw [s.store_eq_plus, answer]
    exact h v answer
  | error f =>
    rintro _ ⟨⟩
    refine .inr ⟨fun promise => ?_, f, rfl, isRetryable_of_store answer⟩
    obtain ⟨v, accepted⟩ := sure promise
    rw [answer] at accepted
    cases accepted

theorem comes_insertRows {id : RevisionRequestId} {recipients : List Recipient}
    (working : s.working = some t) (writable : s.readOnly = false)
    (vacant : promised → Vacant t id recipients) :
    Behaves origin promised (insertRows id recipients : WorkflowWork _).run s := by
  induction recipients generalizing s t with
  | nil => exact excused_ok _
  | cons r recipients ih =>
    refine Comes.insert (.insertRecipient (.fresh id r.id r.role)) (fun promise => ⟨(), ?_⟩)
      fun v accepted => ?_
    · obtain ⟨requested, -, absent⟩ := vacant promise
      have insert : t.insertRecipient (.fresh id r.id r.role) = .ok _ :=
        (t.insertRecipient_eq _).trans ((if_neg (by
          rw [← Option.not_isSome, Bool.not_eq_true', Bool.not_eq_false]
          exact requested)).trans
            (if_neg (by
              show ¬ (t.tables.row (.recipient id r.id)).isSome = true
              rw [absent r List.mem_cons_self]
              exact Bool.false_ne_true)))
      rw [Session.store, Session.write_of_working working writable, insert]
      rfl
    · refine Comes.andThen (ih (Session.working_plus working _) ?_ fun promise => ?_)
        fun _ _ => excused_ok _
      · exact (Session.readOnly_plus s _).trans writable
      · exact (vacant promise).next

theorem comes_createIn {request : RevisionRequest} {recipients : List Recipient}
    (working : s.working = some t) (writable : s.readOnly = false)
    (lacks : promised → t.tables.Lacks request.id) :
    Behaves origin promised (createIn request recipients : WorkflowWork _).run s := by
  refine Comes.insert (.insertRequest request) (fun promise => ⟨(), ?_⟩) fun v accepted => ?_
  · have insert : t.insertRequest request = .ok _ :=
      (t.insertRequest_eq _).trans (if_neg (by simp [lacks promise (.request request.id) rfl]))
    rw [Session.store, Session.write_of_working working writable, insert]
    rfl
  · refine Comes.andThen (comes_insertRows (Session.working_plus working _) ?_ fun promise => ?_)
      fun _ _ _ => excused_ok _
    · exact (Session.readOnly_plus s _).trans writable
    · refine ⟨?_, Recipient.nodup_distinct _, fun r _ => ?_⟩
      · rw [Transaction.tables_putAll]
        exact Tables.isSome_row_putAll List.mem_cons_self
      · show (t.put (.request request)).tables.row (.recipient request.id r.id) = none
        rw [Transaction.tables_put, Tables.row_put, if_neg fun same => by cases same]
        exact lacks promise (.recipient request.id r.id) rfl

/-! ## The work of a call -/

theorem comes_applyChange {change : StepStatusChange} {revision : Option PreparedRevision}
    (working : s.working = some t) (writable : s.readOnly = false)
    (lacks : promised → ∀ p, revision = some p → t.tables.Lacks p.request.id) :
    Behaves origin promised (applyChange change revision).run s := by
  refine Comes.now fun now => Comes.read (.findApproval change.mappingId) rfl working ?_
  dsimp only
  split
  · exact fun _ => excused_ok _
  · have accepted : ∀ record, (s.store (.saveApproval record)).1 = .ok () := fun record => by
      rw [Session.store, Session.write_of_working working writable]
      rfl
    refine Comes.accepted (.saveApproval _) (accepted _) ?_
    refine Comes.andThen ?_ fun _ _ => excused_ok _
    cases revision with
    | none => exact excused_ok _
    | some p =>
      refine Comes.andThen (comes_createIn (Session.working_plus working _) ?_ fun promise => ?_)
        fun _ _ => excused_ok _
      · exact (Session.readOnly_plus s _).trans writable
      · exact (lacks promise p rfl).put rfl

/-- Between the begin of a transaction and its end, the store refuses only rows that are there. -/
theorem comes_body (service : Service) (c : Call) (plan : c.Plan) (base : Tables)
    (lacks : promised → ∀ p, revisionOf c plan = some p → base.Lacks p.request.id) :
    Behaves origin promised (c.job service plan).body (.opened base) := by
  have opened : (Session.opened base).working = some (.start base) := rfl
  cases c with
  | setStepStatus change =>
    rw [body_of_writes rfl]
    exact comes_applyChange opened rfl lacks
  | createRequest new =>
    rw [body_of_writes rfl]
    exact Comes.andThen (comes_createIn opened rfl fun promise => lacks promise _ rfl)
      fun _ _ => excused_ok _
  | markRead requestId recipientId =>
    rw [body_of_writes rfl]
    exact comes_markReadIn opened rfl
  | submitCompletion requestId recipientId comment =>
    rw [body_of_writes rfl]
    exact comes_completeIn opened rfl
  | getRequest requestId =>
    rw [body_of_reads rfl]
    exact fun _ => comes_loadDetail opened
  | listForRecipient recipientId filter =>
    rw [body_of_reads rfl]
    exact fun _ => Comes.store (.listFor recipientId filter) (excused_ok _)
  | countUnread recipientId =>
    rw [body_of_reads rfl]
    exact fun _ => Comes.store (.countUnread recipientId) (excused_ok _)
  | getRecord id =>
    rw [body_of_reads rfl]
    exact fun _ => Comes.store (.findApproval id) (excused_ok _)

end Appraisal.Memory
