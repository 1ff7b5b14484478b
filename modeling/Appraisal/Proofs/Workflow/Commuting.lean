import Appraisal.Proofs.Workflow.Upshot

/-!
# Calls in either order

Two clients make a call each on one store, one after the other.  The calls are *independent* if they
read or complete different rows, or change the records of different mappings.  Then neither looks at
a row that the other one stores (`Solo.Independent.unseen`), so each comes to what it comes to
without the other, and the tables are the same in the end whichever was first
(`Solo.EitherWay.commute`).

Changes of different steps of one mapping are not independent.  The record is stored as a whole, so
each of them returns what the other one has left.  But a step has its own state in the record, which
decides whether it is changed and what others are told of it, and the change of another step keeps
that state (`Solo.Outcome.alike`).  So the states, the requests and the events are the same in
either order, and only the times of the record and what the calls return may differ.

`Solo.calls_commute` is both.  The identifiers that are drawn must differ, or else one change could
take the identifier that the other one needs.
-/

namespace Appraisal.Memory

open Workflow

/-! ## Gains in either order -/

namespace Tables

variable {base t t' u u' : Tables} {rows rows' more more' : List Row}

namespace Gains

/-- Where no row is stored twice, rows are the same in either order. -/
theorem row_commute (first : base.Gains rows t) (second : t.Gains more' t')
    (other : base.Gains more u) (back : u.Gains rows' u') {k : RowKey}
    (sameRows : ∀ r, r.key = k → (r ∈ rows ↔ r ∈ rows'))
    (sameMore : ∀ r, r.key = k → (r ∈ more ↔ r ∈ more'))
    (disjoint : k ∈ rows.map Row.key → k ∉ more.map Row.key) : t'.row k = u'.row k := by
  have keys : ∀ {xs ys : List Row}, (∀ r, r.key = k → (r ∈ xs ↔ r ∈ ys)) →
      (k ∈ xs.map Row.key ↔ k ∈ ys.map Row.key) := by
    intro xs ys same
    simp only [List.mem_map]
    exact ⟨fun ⟨r, mem, key⟩ => ⟨r, (same r key).1 mem, key⟩,
      fun ⟨r, mem, key⟩ => ⟨r, (same r key).2 mem, key⟩⟩
  by_cases mem : k ∈ rows.map Row.key
  · have missing : k ∉ more'.map Row.key := fun h => disjoint mem ((keys sameMore).2 h)
    obtain ⟨r, there, key⟩ := List.mem_map.1 mem
    have there' := (sameRows r key).1 there
    rw [(second.others k missing).1, ← key, (first.stored r there).1, (back.stored r there').1]
  · have missing : k ∉ rows'.map Row.key := fun h => mem ((keys sameRows).2 h)
    rw [(back.others k missing).1]
    by_cases stored : k ∈ more.map Row.key
    · obtain ⟨r, there, key⟩ := List.mem_map.1 stored
      have there' := (sameMore r key).1 there
      rw [← key, (second.stored r there').1, (other.stored r there).1]
    · have absent : k ∉ more'.map Row.key := fun h => stored ((keys sameMore).2 h)
      rw [(second.others k absent).1, (first.others k mem).1, (other.others k stored).1]

/-- Versions are the same in either order. -/
theorem version_commute (first : base.Gains rows t) (second : t.Gains more' t')
    (other : base.Gains more u) (back : u.Gains rows' u')
    (sameRows : rows.map Row.key = rows'.map Row.key)
    (sameMore : more.map Row.key = more'.map Row.key) (k : RowKey) :
    t'.version k = u'.version k := by
  rw [second.version, first.version, back.version, other.version, sameRows, sameMore]
  omega

end Gains

/-- The states of the steps of a mapping, if it has a record. -/
def states (t : Tables) (id : MappingId) : Option (Step → StepState) :=
  (t.approvals.get? id).map ApprovalRecord.state

theorem state_eq_states (t : Tables) (id : MappingId) (step : Step) :
    t.state id step = ((t.states id).getD fun _ => default) step := by
  rw [state, states]
  cases t.approvals.get? id <;> rfl

end Tables

namespace Solo

variable {a b q : Solo} {store : Store} {s s' : Service} {c d : Call}

/-! ## Calls on a store -/

/-- What a call returns on a store. -/
def gets (q : Solo) (store : Store) (s : Service) (c : Call) : Except WorkflowError c.Value :=
  ((q.on store).perform (c.action s)).1

/-- The store that a call leaves. -/
def leaves (q : Solo) (store : Store) (s : Service) (c : Call) : Store :=
  ((q.on store).perform (c.action s)).2.store

/-- The tables after two calls. -/
def afterBoth (a b : Solo) (store : Store) (s s' : Service) (c d : Call) : Tables :=
  (b.leaves (a.leaves store s c) s' d).committed

/-- Others are told the same of a call on two stores. -/
def ToldAlike (q : Solo) (s : Service) (c : Call) (store other : Store) : Prop :=
  ∀ place, Observes s place →
    (q.on store).told (c.action s) place = (q.on other).told (c.action s) place

theorem like_run {α : Type} (p : Action WorkflowEvent α) (q : Solo) :
    q.store.Like (p.run answer q).2.store := by
  induction p generalizing q with
  | pure a => exact .refl _
  | call request next ih =>
    exact (q.outside.like_answer q.store q.session request).trans (ih _ (answer request q).2)

section

variable {f : Tables → Upshot c.Value} {g : Tables → Upshot d.Value}

/-- What a call comes to on a store that is in order, and the store is in order after it. -/
structure Outcome (q : Solo) (s : Service) (c : Call) (f : Tables → Upshot c.Value)
    (store : Store) : Prop where
  gets : q.gets store s c = (f store.committed).result
  gains : store.committed.Gains (f store.committed).rows (q.leaves store s c).committed
  told : ∀ place, Observes s place →
    (q.on store).told (c.action s) place = (f store.committed).events
  order : (q.leaves store s c).InOrder
  mappings : (q.leaves store s c).mappings = store.mappings

theorem Amounts.outcome {origin : Store} (h : (q.on origin).Amounts s c f) (order : store.InOrder)
    (mappings : store.mappings = origin.mappings) : q.Outcome s c f store := by
  obtain ⟨left, gains, comes⟩ := h.yields store order mappings
  have same : (q.leaves store s c).committed = left := comes.left
  rw [← same] at gains
  have faults : (q.leaves store s c).faults = store.faults :=
    faults_run (q := q.on store) order.onBegin order.onCommit
  refine ⟨comes.result, gains, comes.told, ⟨?_, ?_, gains.keyed order.keyed, ?_⟩,
    (like_run _ (q.on store)).mappings⟩
  · rw [faults, order.onBegin]
  · rw [faults, order.onCommit]
  · exact gains.attached order.attached (h.owned _ order.keyed)

/-- What two calls come to in either order: the first one and then the second one, or the second one
and then the first one. -/
structure EitherWay (a b : Solo) (s s' : Service) (c d : Call) (f : Tables → Upshot c.Value)
    (g : Tables → Upshot d.Value) (store : Store) : Prop where
  first : a.Outcome s c f store
  second : b.Outcome s' d g (a.leaves store s c)
  other : b.Outcome s' d g store
  back : a.Outcome s c f (b.leaves store s' d)

theorem Amounts.eitherWay (hc : (a.on store).Amounts s c f) (hd : (b.on store).Amounts s' d g)
    (order : store.InOrder) : EitherWay a b s s' c d f g store :=
  have first := hc.outcome order rfl
  have other := hd.outcome order rfl
  { first
    second := hd.outcome first.order first.mappings
    other
    back := hc.outcome other.order other.mappings }

end

/-! ## Independent calls -/

/-- The row that a call reads or completes. -/
def updated? : Call → Option (RevisionRequestId × EmployeeId)
  | .markRead requestId recipientId | .submitCompletion requestId recipientId _ =>
    some (requestId, recipientId)
  | _ => none

/-- Calls that read or complete different rows, or change the records of different mappings. -/
inductive Independent : Call → Call → Prop
  | updates {c d : Call} {p p' : RevisionRequestId × EmployeeId} (first : updated? c = some p)
    (second : updated? d = some p') (apart : p ≠ p') : Independent c d
  | changes {x y : StepStatusChange} (apart : x.mappingId ≠ y.mappingId) :
    Independent (.setStepStatus x) (.setStepStatus y)

theorem Independent.symm (h : Independent c d) : Independent d c := by
  cases h with
  | updates first second apart => exact .updates second first apart.symm
  | changes apart => exact .changes apart.symm

theorem exists_amounts_of_updated (q : Solo) (s : Service) {p : RevisionRequestId × EmployeeId}
    (h : updated? c = some p) : ∃ f, q.Amounts s c f := by
  cases c with
  | markRead requestId recipientId => exact ⟨_, (amounts_update q s requestId recipientId).1⟩
  | submitCompletion requestId recipientId comment =>
    exact ⟨_, (amounts_update q s requestId recipientId).2 comment⟩
  | _ => cases h

theorem Independent.exists_amounts (h : Independent c d) (q : Solo) (s : Service) :
    ∃ f, q.Amounts s c f := by
  cases h with
  | updates first => exact exists_amounts_of_updated q s first
  | changes => exact ⟨_, amounts_change q s _⟩

theorem updated_sees {p : RevisionRequestId × EmployeeId} (h : updated? c = some p) {k : RowKey}
    (seen : q.sees c k) : k = .request p.1 ∨ k = .recipient p.1 p.2 := by
  cases c with
  | markRead | submitCompletion =>
    cases h
    exact seen
  | _ => cases h

theorem updated_stores {p : RevisionRequestId × EmployeeId} (h : updated? c = some p) {k : RowKey}
    (stored : q.stores c k) : k = .recipient p.1 p.2 := by
  cases c with
  | markRead | submitCompletion =>
    cases h
    exact stored
  | _ => cases h

/-- Two changes have at most their record in common. -/
theorem record_of_stores {x y : StepStatusChange}
    (ids : (Id.random a.bits.head : RevisionRequestId) ≠ Id.random b.bits.head) {k : RowKey}
    (stored : a.stores (.setStepStatus x) k)
    (shared : b.sees (.setStepStatus y) k ∨ b.stores (.setStepStatus y) k) :
    k = .approval x.mappingId ∧ x.mappingId = y.mappingId := by
  rcases stored with rfl | rfl | ⟨e, rfl⟩
  · simpa [sees, Solo.stores] using shared
  · simp [sees, Solo.stores, ids] at shared
  · simp [sees, Solo.stores, ids] at shared

/-- What one call stores the other one neither looks at nor stores. -/
theorem Independent.unseen (h : Independent c d)
    (ids : (Id.random a.bits.head : RevisionRequestId) ≠ Id.random b.bits.head) {k : RowKey}
    (stored : a.stores c k) : ¬ b.sees d k ∧ ¬ b.stores d k := by
  cases h with
  | @updates _ _ p p' first second apart =>
    have unlike : RowKey.recipient p.1 p.2 ≠ .recipient p'.1 p'.2 := fun same =>
      apart (Prod.ext (RowKey.recipient.inj same).1 (RowKey.recipient.inj same).2)
    rw [updated_stores first stored]
    refine ⟨fun seen => ?_, fun also => unlike (updated_stores second also)⟩
    rcases updated_sees second seen with same | same
    · cases same
    · exact unlike same
  | changes apart =>
    exact ⟨fun seen => apart (record_of_stores ids stored (.inl seen)).2,
      fun also => apart (record_of_stores ids stored (.inr also)).2⟩

/-- Two calls come to the same in either order. -/
structure Commute (a b : Solo) (store : Store) (s s' : Service) (c d : Call) : Prop where
  first : a.gets store s c = a.gets (b.leaves store s' d) s c
  second : b.gets (a.leaves store s c) s' d = b.gets store s' d
  firstTold : a.ToldAlike s c store (b.leaves store s' d)
  secondTold : b.ToldAlike s' d (a.leaves store s c) store
  row : ∀ k, (a.afterBoth b store s s' c d).row k = (b.afterBoth a store s' s d c).row k
  version : ∀ k, (a.afterBoth b store s s' c d).version k = (b.afterBoth a store s' s d c).version k

/-- Calls commute if each comes to what it comes to without the other, and no row is stored by
both. -/
theorem EitherWay.commute {f : Tables → Upshot c.Value} {g : Tables → Upshot d.Value}
    (h : EitherWay a b s s' c d f g store)
    (unaffected : f (b.leaves store s' d).committed = f store.committed)
    (unaffected' : g (a.leaves store s c).committed = g store.committed)
    (disjoint : ∀ k ∈ (f store.committed).rows.map Row.key,
      k ∉ (g store.committed).rows.map Row.key) : Commute a b store s s' c d where
  first := by rw [h.first.gets, h.back.gets, unaffected]
  second := by rw [h.second.gets, h.other.gets, unaffected']
  firstTold place observes := by
    rw [h.first.told place observes, h.back.told place observes, unaffected]
  secondTold place observes := by
    rw [h.second.told place observes, h.other.told place observes, unaffected']
  row k := h.first.gains.row_commute h.second.gains h.other.gains h.back.gains
    (fun r _ => by rw [unaffected]) (fun r _ => by rw [unaffected']) (disjoint k)
  version := h.first.gains.version_commute h.second.gains h.other.gains h.back.gains
    (by rw [unaffected]) (by rw [unaffected'])

/-- Independent calls commute. -/
theorem Independent.commute (h : Independent c d) (order : store.InOrder)
    (ids : (Id.random a.bits.head : RevisionRequestId) ≠ Id.random b.bits.head) :
    Commute a b store s s' c d := by
  obtain ⟨f, hc⟩ := h.exists_amounts (a.on store) s
  obtain ⟨g, hd⟩ := h.symm.exists_amounts (b.on store) s'
  have ways := hc.eitherWay hd order
  have stored := hc.stores _ order.keyed
  have stored' := hd.stores _ order.keyed
  refine ways.commute (hc.sees _ _ fun k seen => ?_) (hd.sees _ _ fun k seen => ?_)
    fun k mem mem' => (h.unseen ids (stored k mem)).2 (stored' k mem')
  · exact (ways.other.gains.others k fun mem =>
      (h.symm.unseen ids.symm (stored' k mem)).1 seen).1
  · exact (ways.first.gains.others k fun mem => (h.unseen ids (stored k mem)).1 seen).1

/-! ## Changes of different steps -/

section

variable {change : StepStatusChange} {revision : Option PreparedRevision} {now : Instant}
  {base left t u : Tables}

/-- What a change of a step makes of the states of its mapping. -/
def entered (states : Option (Step → StepState)) (step : Step) (state : StepState) :
    Option (Step → StepState) :=
  some (Function.update (states.getD fun _ => default) step state)

theorem entered_comm (states : Option (Step → StepState)) {step step' : Step} (apart : step ≠ step')
    (state state' : StepState) :
    entered (entered states step state) step' state' =
      entered (entered states step' state') step state := by
  rw [entered, entered, entered, entered, Option.getD_some, Option.getD_some,
    Function.update_comm apart]

/-- A step keeps its state when another one is changed. -/
theorem getD_entered_of_ne (states : Option (Step → StepState)) {step other : Step}
    (apart : other ≠ step) (state : StepState) :
    ((entered states step state).getD fun _ => default) other =
      (states.getD fun _ => default) other := by
  rw [entered, Option.getD_some, Function.update_of_ne apart]

/-- Upshots that differ in nothing but what they return and the record of a mapping. -/
structure Alike {V : Type} (id : MappingId) (p p' : Upshot V) : Prop where
  events : p.events = p'.events
  keys : p.rows.map Row.key = p'.rows.map Row.key
  rows : ∀ r : Row, r.key ≠ .approval id → (r ∈ p.rows ↔ r ∈ p'.rows)

theorem Alike.isEmpty {V : Type} {id : MappingId} {p p' : Upshot V} (h : Alike id p p') :
    p.rows.isEmpty = p'.rows.isEmpty := by
  rw [← List.isEmpty_map (f := Row.key), h.keys, List.isEmpty_map]

/-- The own step alone decides what a change comes to, but for the record. -/
theorem changeUpshot_alike (keyed : t.Keyed) (keyed' : u.Keyed)
    (state : t.state change.mappingId change.step = u.state change.mappingId change.step)
    (requests : ∀ r, revision = some r →
      t.row (.request r.request.id) = u.row (.request r.request.id)) :
    Alike change.mappingId (changeUpshot change revision now t)
      (changeUpshot change revision now u) := by
  have status : (foundRecord t change now).status change.step =
      (foundRecord u change now).status change.step := by
    rw [ApprovalRecord.status, ApprovalRecord.status, state_foundRecord, state_foundRecord, state]
  have key := key_changedRecord keyed change now
  have key' := key_changedRecord keyed' change now
  rw [changeUpshot, changeUpshot, status, taken_congr requests]
  split
  · exact ⟨rfl, rfl, fun _ _ => .rfl⟩
  · split
    · exact ⟨rfl, rfl, fun _ _ => .rfl⟩
    · refine ⟨by rw [changeEvent, changeEvent, status], ?_, fun r other => ?_⟩
      · rw [List.map_cons, List.map_cons, key, key']
      · have unlike : r ≠ .approval (changedRecord t change now) := fun same =>
          other (same ▸ key)
        have unlike' : r ≠ .approval (changedRecord u change now) := fun same =>
          other (same ▸ key')
        rw [List.mem_cons, List.mem_cons, or_iff_right unlike, or_iff_right unlike']

theorem changing_alike (q : Solo) (keyed : t.Keyed) (keyed' : u.Keyed)
    (state : t.state change.mappingId change.step = u.state change.mappingId change.step)
    (request : t.row (.request (Id.random q.bits.head)) =
      u.row (.request (Id.random q.bits.head))) :
    Alike change.mappingId (q.changing change t) (q.changing change u) := by
  rcases q.changing_cases change with ⟨e, const⟩ | ⟨revision, now, is, ids⟩
  · rw [const]
    exact ⟨rfl, rfl, fun _ _ => .rfl⟩
  · rw [is]
    exact changeUpshot_alike keyed keyed' state fun r asked => by rw [ids r asked, request]

/-- The states stay as they are if nothing is stored, and otherwise the step enters another one. -/
theorem states_changing (q : Solo) (change : StepStatusChange) :
    ∃ state, ∀ base left : Tables, base.Keyed → base.Gains (q.changing change base).rows left →
      left.states change.mappingId =
        if (q.changing change base).rows.isEmpty then base.states change.mappingId
        else entered (base.states change.mappingId) change.step state := by
  have stays : ∀ {base left : Tables}, base.Gains [] left →
      left.states change.mappingId = base.states change.mappingId := by
    intro base left gains
    rw [Tables.states, Tables.states,
      Tables.approval_eq_of_row (gains.others _ List.not_mem_nil).1]
  rcases q.changing_cases change with ⟨e, const⟩ | ⟨revision, now, is, -⟩
  · refine ⟨default, fun base left _ gains => ?_⟩
    rw [const] at gains ⊢
    exact stays gains
  · refine ⟨⟨change.status, some now, some change.actedBy⟩, fun base left keyed gains => ?_⟩
    rw [is] at gains ⊢
    rcases @rows_changeUpshot change revision now base with none | rows
    · rw [none] at gains ⊢
      exact stays gains
    · rw [rows] at gains ⊢
      have there := (gains.stored _ List.mem_cons_self).1
      rw [key_changedRecord keyed, row_approval] at there
      rw [Tables.states, there]
      refine congrArg some (funext fun other => ?_)
      rw [changedRecord, state_change, state_foundRecord, Tables.state_eq_states,
        Function.update_apply]
      simp only [eq_comm]

end

/-- Two changes of one mapping come to the same in either order, but for the times of the record and
what they return. -/
structure CommuteByStep (a b : Solo) (store : Store) (s s' : Service) (x y : StepStatusChange) :
    Prop where
  firstTold : a.ToldAlike s (.setStepStatus x) store (b.leaves store s' (.setStepStatus y))
  secondTold : b.ToldAlike s' (.setStepStatus y) (a.leaves store s (.setStepStatus x)) store
  /-- The steps are left in the same states. -/
  states :
    (a.afterBoth b store s s' (.setStepStatus x) (.setStepStatus y)).states x.mappingId =
      (b.afterBoth a store s' s (.setStepStatus y) (.setStepStatus x)).states x.mappingId
  /-- The requests, the rows of recipients and the other records are the same. -/
  row : ∀ k, k ≠ .approval x.mappingId →
    (a.afterBoth b store s s' (.setStepStatus x) (.setStepStatus y)).row k =
      (b.afterBoth a store s' s (.setStepStatus y) (.setStepStatus x)).row k
  version : ∀ k, (a.afterBoth b store s s' (.setStepStatus x) (.setStepStatus y)).version k =
    (b.afterBoth a store s' s (.setStepStatus y) (.setStepStatus x)).version k

/-- A change comes to the same, but for the record, after a change of another step. -/
theorem Outcome.alike {x y : StepStatusChange}
    (h : b.Outcome s' (.setStepStatus y) ((b.on store).changing y) store) (order : store.InOrder)
    (ids : (Id.random a.bits.head : RevisionRequestId) ≠ Id.random b.bits.head)
    (same : x.mappingId = y.mappingId) (apart : x.step ≠ y.step) :
    Alike x.mappingId ((a.on store).changing x store.committed)
      ((a.on store).changing x (b.leaves store s' (.setStepStatus y)).committed) := by
  obtain ⟨state, enters⟩ := (b.on store).states_changing y
  refine changing_alike _ order.keyed h.order.keyed ?_ (h.gains.others _ fun mem => ?_).1.symm
  · rw [Tables.state_eq_states, Tables.state_eq_states, same, enters _ _ order.keyed h.gains]
    split
    · rfl
    · rw [getD_entered_of_ne _ apart]
  · have stored := (amounts_change (b.on store) s' y).stores _ order.keyed _ mem
    have seen : (a.on store).sees (.setStepStatus x) (.request (Id.random a.bits.head)) := .inr rfl
    cases (record_of_stores (a := b.on store) (b := a.on store) ids.symm stored (.inl seen)).1

/-- Changes of different steps of a mapping commute by step. -/
theorem commuteByStep {x y : StepStatusChange} (order : store.InOrder)
    (ids : (Id.random a.bits.head : RevisionRequestId) ≠ Id.random b.bits.head)
    (same : x.mappingId = y.mappingId) (apart : x.step ≠ y.step) :
    CommuteByStep a b store s s' x y := by
  have hc := amounts_change (a.on store) s x
  have hd := amounts_change (b.on store) s' y
  have ways := hc.eitherWay hd order
  have alike := ways.other.alike order ids same apart
  have alike' := ways.first.alike order ids.symm same.symm apart.symm
  refine ⟨fun place observes => ?_, fun place observes => ?_, ?_, fun k unlike => ?_, ?_⟩
  · rw [ways.first.told place observes, ways.back.told place observes, alike.events]
  · rw [ways.second.told place observes, ways.other.told place observes, alike'.events]
  · obtain ⟨state, enters⟩ := (a.on store).states_changing x
    obtain ⟨state', enters'⟩ := (b.on store).states_changing y
    rw [← same] at enters'
    rw [afterBoth, afterBoth, enters' _ _ ways.first.order.keyed ways.second.gains,
      enters _ _ ways.other.order.keyed ways.back.gains, enters _ _ order.keyed ways.first.gains,
      enters' _ _ order.keyed ways.other.gains, ← alike.isEmpty, ← alike'.isEmpty]
    split
    · rfl
    · split
      · rfl
      · exact entered_comm _ apart state state'
  · refine ways.first.gains.row_commute ways.second.gains ways.other.gains ways.back.gains
      (fun r key => alike.rows r (key ▸ unlike))
      (fun r key => alike'.rows r (key ▸ same ▸ unlike)) fun mem mem' => ?_
    have stored := hc.stores _ order.keyed k mem
    have stored' := hd.stores _ order.keyed k mem'
    exact unlike (record_of_stores (a := a.on store) (b := b.on store) ids stored (.inr stored')).1
  · exact ways.first.gains.version_commute ways.second.gains ways.other.gains ways.back.gains
      alike.keys alike'.keys

/-! ## Main result -/

/-- Calls that are independent come to the same in either order: what they return, what others are
told, and the rows and versions in the end.  Changes of different steps of one mapping do so but for
the times of the record and what they return. -/
theorem calls_commute (a b : Solo) (s s' : Service) (reached : store.committed.Reached)
    (onBegin : store.faults.onBegin = []) (onCommit : store.faults.onCommit = [])
    (ids : (Id.random a.bits.head : RevisionRequestId) ≠ Id.random b.bits.head) :
    (∀ c d, Independent c d → Commute a b store s s' c d) ∧
      ∀ x y : StepStatusChange, x.mappingId = y.mappingId → x.step ≠ y.step →
        CommuteByStep a b store s s' x y := by
  have order : store.InOrder := ⟨onBegin, onCommit, reached.keyed, reached.attached⟩
  exact ⟨fun _ _ independent => independent.commute order ids,
    fun _ _ same apart => commuteByStep order ids same apart⟩

/-- A store with two mappings and no rows. -/
def twoMappings : Store :=
  System.oneMapping.insertMapping (.fresh (Id.random default) default default)

/-- A client who comes at another time and draws other bits. -/
def latecomer : Solo :=
  { newcomer with
    clock := fun _ => { Instant.epoch with seconds := 1 }
    bits := fun _ => ⟨1⟩ }

/-- A change that approves the primary evaluation. -/
def approvePrimary (id : MappingId) : StepStatusChange :=
  ⟨id, .primary, .approved, default, none, []⟩

/-- On two mappings the changes commute.  On one mapping they leave the same states, but what the
first client returns shows whether the other one has come before. -/
theorem calls_commute_twoSteps :
    let s : Service := ⟨default, ⟨[⟨"audit", none⟩]⟩⟩
    let ask := Call.setStepStatus askForCriteria
    let approve := Call.setStepStatus (approvePrimary default)
    Commute newcomer latecomer twoMappings s s ask
        (.setStepStatus (approvePrimary (Id.random default))) ∧
      CommuteByStep newcomer latecomer twoMappings s s askForCriteria (approvePrimary default) ∧
      ((newcomer.afterBoth latecomer twoMappings s s ask approve).state default .criteria).status =
        .revisionRequested ∧
      ((newcomer.afterBoth latecomer twoMappings s s ask approve).state default .primary).status =
        .approved ∧
      (newcomer.gets twoMappings s ask).toOption.map (ApprovalRecord.status · .primary) =
        some .pending ∧
      (newcomer.gets (latecomer.leaves twoMappings s approve) s ask).toOption.map
        (ApprovalRecord.status · .primary) = some .approved := by
  intro s ask approve
  have reached : twoMappings.committed.Reached := ⟨default, [], rfl, rfl⟩
  obtain ⟨independent, byStep⟩ :=
    calls_commute newcomer latecomer s s reached rfl rfl (by decide)
  refine ⟨independent _ _ (.changes (by decide)), byStep _ _ rfl (by decide), by decide +kernel,
    by decide +kernel, by decide +kernel, by decide +kernel⟩

end Solo

end Appraisal.Memory
