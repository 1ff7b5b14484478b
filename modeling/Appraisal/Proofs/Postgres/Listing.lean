import Mathlib.Algebra.Group.Nat.Defs
import Appraisal.Proofs.Postgres.Mirror

/-!
# Lists of a recipient's requests

The server lists a recipient's requests by a query of both tables, and the store in memory filters,
sorts and cuts them itself.

*Placeholders.*  The query numbers its placeholders in one pass and binds its parameters in another.
Every wish of the filter gets the parameter that was meant for it (`asks_listing`).

*Contents.*  What the query finds are the views that the store in memory finds, in any order
(`found_listing`).  Its order leaves no choice, since no two requests share an identifier
(`Memory.Tables.Keyed.eq_viewsFor`).

*Limits.*  The limit and the offset are sent as numbers of 64 bits with a sign.  From 2 ^ 63 on they
turn negative, and the server answers no query with a negative limit.  `lists_alike_iff` says that
both stores answer alike exactly if neither is that large.
-/

namespace Appraisal

/-- The limit and the offset of a filter have at most so many bits. -/
def RecipientFilter.Fits (f : RecipientFilter) (bits : Nat) : Prop :=
  (∀ n ∈ f.limit, n < 2 ^ bits) ∧ ∀ n ∈ f.offset, n < 2 ^ bits

namespace Postgres

/-! ## Placeholders -/

/-- What a condition asks for: the column, and the value that it must have. -/
def Condition.asks (parameters : List Cell) : Condition → Option (Column × Cell)
  | .equals column n => (parameters[n - 1]?).map (column, ·)
  | .isFalse _ | .isNull _ => none

/-- Conditions that are numbered after some others ask for the parameters that follow those of the
others. -/
theorem asks_numbered (before after : List Cell) (cs : List (Column × Cell)) :
    (numberedConditions (before.length + 1) cs).map (·.asks (before ++ cs.map Prod.snd ++ after)) =
      cs.map some := by
  induction cs generalizing before with
  | nil => rfl
  | cons c cs ih =>
    have first : (before ++ c.2 :: cs.map Prod.snd ++ after)[before.length]? = some c.2 := by
      simp
    have later := ih (before ++ [c.2])
    rw [List.length_append, List.length_singleton, List.append_assoc before] at later
    rw [numberedConditions, List.map_cons, List.map_cons, Condition.asks, Nat.add_sub_cancel, first]
    exact congrArg _ later

variable (recipientId : EmployeeId) (f : RecipientFilter)

/-- The conditions that the query sets: whose rows, and what the filter wishes. -/
def wishes : List (Column × Cell) :=
  (ofRecipient "recipient_id", toCell recipientId) :: filterConditions f

/-- The query of `selectList`. -/
def listing : Select where
  selection := .columns (requestColumns.map ofRequest ++ recipientColumns.map ofRecipient)
  source := ⟨recipientTable, some "c"⟩
  join := some ⟨⟨requestTable, some "r"⟩, ofRequest "id", ofRecipient "revision_request_id"⟩
  conditions := numberedConditions 1 (wishes recipientId f)
  order := [(ofRequest "requested_at", .descending), (ofRequest "id", .ascending)]
  limit := f.limit.map fun _ => (wishes recipientId f).length + 1
  offset := f.offset.map fun _ =>
    if f.limit.isSome then (wishes recipientId f).length + 1 + 1
    else (wishes recipientId f).length + 1

/-- The parameters of `selectList`. -/
def listingParameters : List Cell :=
  (wishes recipientId f).map Prod.snd ++
    (f.limit.toList ++ f.offset.toList).map fun n => toCell (wrapCount n)

theorem selectList_eq :
    selectList recipientId f = ⟨.select (listing recipientId f), listingParameters recipientId f⟩ :=
  rfl

theorem asks_listing :
    (listing recipientId f).conditions.map (·.asks (listingParameters recipientId f)) =
      (wishes recipientId f).map some :=
  asks_numbered [] _ (wishes recipientId f)

theorem limit_listing :
    (listing recipientId f).limit.map (fun n => (listingParameters recipientId f)[n - 1]?) =
      f.limit.map fun n => some (toCell (wrapCount n)) := by
  cases limit : f.limit with
  | none => simp [listing, limit]
  | some n => simp [listing, listingParameters, limit]

theorem offset_listing :
    (listing recipientId f).offset.map (fun n => (listingParameters recipientId f)[n - 1]?) =
      f.offset.map fun n => some (toCell (wrapCount n)) := by
  cases offset : f.offset with
  | none => simp [listing, offset]
  | some n => cases limit : f.limit <;> simp [listing, listingParameters, limit, offset]

/-! ## Contents -/

/-- The rows in scope have the value that is asked for. -/
def Scope.satisfies (scope : Scope) (wish : Column × Cell) : Bool :=
  (scope.lookup wish.1.source).any fun row => row.cell? wish.1.name == some wish.2

theorem meets_of_asks {parameters : List Cell} {c : Condition} {wish : Column × Cell}
    (asks : c.asks parameters = some wish) (filled : wish.2 ≠ .null) (scope : Scope) :
    c.meets parameters scope = scope.satisfies wish := by
  cases c with
  | equals column n =>
    obtain ⟨cell, given, rfl⟩ := Option.map_eq_some_iff.1 asks
    rw [Condition.meets, Scope.satisfies]
    exact congrArg (Option.any · _) (funext (holds_equals given filled))
  | isFalse column => cases asks
  | isNull column => cases asks

theorem all_meets {parameters : List Cell} {conditions : List Condition}
    {wishes : List (Column × Cell)} (asks : conditions.map (·.asks parameters) = wishes.map some)
    (filled : ∀ wish ∈ wishes, wish.2 ≠ .null) (scope : Scope) :
    conditions.all (·.meets parameters scope) = wishes.all scope.satisfies := by
  induction conditions generalizing wishes with
  | nil =>
    cases wishes with
    | nil => rfl
    | cons wish wishes => cases asks
  | cons c conditions ih =>
    cases wishes with
    | nil => cases asks
    | cons wish wishes =>
      obtain ⟨first, later⟩ := List.cons.inj asks
      obtain ⟨head, tail⟩ := List.forall_mem_cons.1 filled
      rw [List.all_cons, List.all_cons, meets_of_asks first head, ih later tail]

theorem filled_wishes : ∀ wish ∈ wishes recipientId f, wish.2 ≠ .null := by
  intro wish listed
  simp only [wishes, filterConditions, List.mem_cons, List.mem_append, List.mem_map] at listed
  obtain rfl | (⟨_, -, rfl⟩ | ⟨_, -, rfl⟩) | ⟨_, -, rfl⟩ := listed <;> nofun

/-- The rows of a view as the query looks at them. -/
def viewScope (v : RequestView) : Scope :=
  [(some "c", recipientRow v.recipient), (some "r", requestRow v.request)]

theorem satisfies_recipient (v : RequestView) :
    (viewScope v).satisfies (ofRecipient "recipient_id", toCell recipientId) =
      (v.recipient.recipientId == recipientId) :=
  some_toCell_beq v.recipient.recipientId recipientId

theorem satisfies_step (v : RequestView) (step : Step) :
    (viewScope v).satisfies (ofRequest "step", toCell step.text) = (step == v.request.step) := by
  show (some (Cell.text v.request.step.text) == some (Cell.text step.text)) = _
  cases v.request.step <;> cases step <;> rfl

theorem satisfies_isRead (v : RequestView) (b : Bool) :
    (viewScope v).satisfies (ofRecipient "is_read", toCell b) = (b == v.recipient.isRead) := by
  show (some (Cell.bool v.recipient.isRead) == some (Cell.bool b)) = _
  cases v.recipient.isRead <;> cases b <;> rfl

theorem satisfies_isCompleted (v : RequestView) (b : Bool) :
    (viewScope v).satisfies (ofRecipient "is_completed", toCell b) =
      (b == v.recipient.isCompleted) := by
  show (some (Cell.bool v.recipient.isCompleted) == some (Cell.bool b)) = _
  cases v.recipient.isCompleted <;> cases b <;> rfl

/-- A wish that may be absent. -/
theorem all_wish {α : Type} [BEq α] (wish : Option α) (asks : α → Column × Cell) (scope : Scope)
    (value : α) (satisfies : ∀ a, scope.satisfies (asks a) = (a == value)) :
    (wish.toList.map asks).all scope.satisfies = RecipientFilter.admits wish value := by
  cases wish with
  | none => rfl
  | some a =>
    rw [Option.toList_some, List.map_singleton, List.all_cons, List.all_nil, Bool.and_true,
      satisfies]
    rfl

/-- The query asks for what the filter keeps. -/
theorem all_satisfies (v : RequestView) :
    (wishes recipientId f).all (viewScope v).satisfies =
      (v.recipient.recipientId == recipientId && f.keeps v.request v.recipient) := by
  rw [wishes, filterConditions, List.all_cons, List.all_append, List.all_append,
    satisfies_recipient, all_wish f.step _ _ _ (satisfies_step v),
    all_wish f.isRead _ _ _ (satisfies_isRead v),
    all_wish f.isCompleted _ _ _ (satisfies_isCompleted v)]
  rfl

section

variable {db : Database} {t : Memory.Tables}

theorem agrees_viewScope (v : RequestView) :
    (Join.mk ⟨requestTable, some "r"⟩ (ofRequest "id") (ofRecipient "revision_request_id")).agrees
      (viewScope v) = decide (v.request.id = v.recipient.requestId) := by
  show (toCell v.request.id == toCell v.recipient.requestId && true) = _
  rw [Bool.and_true, Bool.eq_iff_iff, beq_iff_eq, decide_eq_true_iff, toCell_inj]

/-- The view of a row, if its request is stored. -/
def joined? (t : Memory.Tables) (row : RecipientRow) : Option RequestView :=
  (t.requests.get? row.requestId).map (⟨·, row⟩)

/-- The requests that the query looks at together with a row. -/
theorem filter_agrees (mirrors : db.Mirrors t) (row : RecipientRow) :
    (((db.rows requestTable).map fun other =>
        [(some "c", recipientRow row), (some "r", other)]).filter
      (Join.mk ⟨requestTable, some "r"⟩ (ofRequest "id")
        (ofRecipient "revision_request_id")).agrees).Perm
      ((joined? t row).map viewScope).toList := by
  refine ((mirrors.requests.map _).filter _).trans (.of_eq ?_)
  have agrees : (Join.mk ⟨requestTable, some "r"⟩ (ofRequest "id")
      (ofRecipient "revision_request_id")).agrees ∘ (fun q => viewScope ⟨q, row⟩) =
        fun q => decide (q.id = row.requestId) := funext fun q => agrees_viewScope ⟨q, row⟩
  rw [List.map_map]
  show (t.requests.values.map fun q => viewScope ⟨q, row⟩).filter _ = _
  rw [List.filter_map, agrees, mirrors.keyed.requests.filter_values, joined?]
  cases t.requests.get? row.requestId <;> rfl

/-- The rows that the query looks at together. -/
theorem scopes_listing (mirrors : db.Mirrors t) :
    ((listing recipientId f).scopes db.rows).Perm
      ((t.recipients.values.filterMap (joined? t)).map viewScope) := by
  have inner := List.Perm.flatMap_left t.recipients.values fun row _ => filter_agrees mirrors row
  have outer := mirrors.recipients.flatMap_right fun row =>
    ((db.rows requestTable).map fun other => [(some "c", row), (some "r", other)]).filter
      (Join.mk ⟨requestTable, some "r"⟩ (ofRequest "id") (ofRecipient "revision_request_id")).agrees
  rw [List.flatMap_map] at outer
  refine (outer.trans inner).trans (.of_eq ?_)
  rw [← List.filterMap_eq_flatMap_toList, List.map_filterMap]

/-- What the query finds. -/
theorem found_listing (mirrors : db.Mirrors t) :
    ((listing recipientId f).found (listingParameters recipientId f) db.rows).Perm
      (((t.recipients.values.filter fun row => row.recipientId == recipientId).filterMap
        (t.view? f)).map viewScope) := by
  have meets : (fun scope => (listing recipientId f).conditions.all
      (·.meets (listingParameters recipientId f) scope)) ∘ viewScope = fun v =>
        v.recipient.recipientId == recipientId && f.keeps v.request v.recipient := by
    funext v
    rw [Function.comp_apply, all_meets (asks_listing recipientId f) (filled_wishes recipientId f),
      all_satisfies]
  refine ((scopes_listing recipientId f mirrors).filter _).trans (.of_eq ?_)
  rw [List.filter_map, meets, List.filter_filterMap, List.filterMap_filter]
  congr 1
  refine List.filterMap_congr fun row _ => ?_
  rw [joined?, Memory.Tables.view?]
  cases t.requests.get? row.requestId with
  | none => cases row.recipientId == recipientId <;> rfl
  | some q => cases own : row.recipientId == recipientId <;> simp [Option.filter, own]

end

/-! ## Order -/

theorem Timestamp.order_instant (a b : Timestamp) :
    a.instant.order < b.instant.order ↔ a.micros < b.micros := by
  simp only [Timestamp.instant, Instant.ofNanos, Instant.order]
  omega

/-- Times as the server keeps them are in the order of its counts. -/
theorem order_of_kept {t u : Instant} (first : keptTime t = t) (second : keptTime u = u) :
    t.order < u.order ↔ (Timestamp.ofInstant t).micros < (Timestamp.ofInstant u).micros := by
  have counts := Timestamp.order_instant (.ofInstant t) (.ofInstant u)
  have first : (Timestamp.ofInstant t).instant = t := first
  have second : (Timestamp.ofInstant u).instant = u := second
  rwa [first, second] at counts

theorem before_viewScope (w v : RequestView) :
    Scope.before [(ofRequest "requested_at", .descending), (ofRequest "id", .ascending)]
        (viewScope w) (viewScope v) =
      (decide ((Timestamp.ofInstant v.request.requestedAt).micros <
          (Timestamp.ofInstant w.request.requestedAt).micros) ||
        (toCell w.request.requestedAt == toCell v.request.requestedAt &&
          decide (rank w.request.id < rank v.request.id))) := by
  show (_ || (_ && (decide (rank w.request.id < rank v.request.id) || (_ && false)))) = _
  rw [Bool.and_false, Bool.or_false]
  rfl

/-- The query lists views as the store in memory does. -/
theorem before_viewScope_iff {w v : RequestView}
    (first : keptTime w.request.requestedAt = w.request.requestedAt)
    (second : keptTime v.request.requestedAt = v.request.requestedAt) :
    Scope.before [(ofRequest "requested_at", .descending), (ofRequest "id", .ascending)]
        (viewScope w) (viewScope v) = false ↔ Memory.Tables.listedBefore v w = true := by
  have later := order_of_kept first second
  have earlier := order_of_kept second first
  have same : (toCell w.request.requestedAt == toCell v.request.requestedAt) = true ↔
      (Timestamp.ofInstant w.request.requestedAt).micros =
        (Timestamp.ofInstant v.request.requestedAt).micros := by
    rw [beq_iff_eq]
    constructor
    · intro same
      exact congrArg Timestamp.micros (Cell.timestamp.inj same)
    · intro same
      exact congrArg (fun micros => Cell.timestamp ⟨micros⟩) same
  rw [before_viewScope, Memory.Tables.listedBefore_iff, Bool.or_eq_false_iff,
    decide_eq_false_iff_not, Bool.and_eq_false_iff, Bool.eq_false_iff, ne_eq, same,
    decide_eq_false_iff_not]
  omega

/-- All times of the requests and recipients' rows are as the server keeps them. -/
structure Exact (t : Memory.Tables) : Prop where
  /-- Requests are read back as they are. -/
  requests : ∀ q ∈ t.requests.values, keptRequest q = q
  /-- Recipients' rows are read back as they are. -/
  recipients : ∀ r ∈ t.recipients.values, kept r = r

/-! ## Limits -/

theorem wrapCount_eq (n : Nat) : wrapCount n = Int.bmod n 18446744073709551616 := rfl

theorem wrapCount_of_lt {n : Nat} (small : n < 2 ^ 63) : wrapCount n = n := by
  rw [wrapCount_eq, Int.bmod_def]
  split <;> omega

theorem wrapCount_neg {n : Nat} (large : 2 ^ 63 ≤ n) (sized : n < 2 ^ 64) : wrapCount n < 0 := by
  rw [wrapCount_eq, Int.bmod_def]
  split <;> omega

/-- A count makes sense to the server exactly if it does not turn negative. -/
theorem bound_iff {parameters : List Cell} {placeholder : Option Nat} {wish : Option Nat}
    (asks : placeholder.map (fun n => parameters[n - 1]?) =
      wish.map fun n => some (toCell (wrapCount n)))
    (sized : ∀ n ∈ wish, n < 2 ^ 64) {most : Option Nat} :
    Select.bound? parameters placeholder = some most ↔ (∀ n ∈ wish, n < 2 ^ 63) ∧ most = wish := by
  cases wish with
  | none =>
    obtain rfl := Option.map_eq_none_iff.1 asks
    simp [Select.bound?, eq_comm]
  | some n =>
    obtain ⟨k, rfl, given⟩ := Option.map_eq_some_iff.1 asks
    rw [Select.bound?, given]
    show (if wrapCount n < 0 then none else some (some (wrapCount n).toNat)) = some most ↔ _
    by_cases small : n < 2 ^ 63
    · rw [wrapCount_of_lt small, if_neg (Int.not_lt.2 (Int.natCast_nonneg n)), Int.toNat_natCast,
        Option.some_inj]
      refine ⟨fun same => ⟨fun _ held => ?_, same.symm⟩, fun fits => fits.2.symm⟩
      exact Option.some.inj held ▸ small
    · rw [if_pos (wrapCount_neg (Nat.not_lt.1 small) (sized n rfl))]
      exact ⟨nofun, fun fits => absurd (fits.1 n rfl) small⟩

theorem window_map {α β : Type} (skipped most : Option Nat) (g : α → β) (xs : List α) :
    Select.window skipped most (xs.map g) = (Select.window skipped most xs).map g := by
  cases most <;> simp [Select.window]

theorem page_eq_window {α : Type} (f : RecipientFilter) (xs : List α) :
    f.page xs = Select.window f.offset f.limit xs := rfl

/-! ## What is listed -/

/-- The columns of a view. -/
def viewRow (v : RequestView) : Row := requestRow v.request ++ recipientRow v.recipient

theorem readView_viewRow (v : RequestView) : readView (viewRow v) = .ok (keptView v) := by
  have request : readRequest (viewRow v) = readRequest (requestRow v.request) := rfl
  have recipient : readRecipient (viewRow v) = readRecipient (recipientRow v.recipient) := rfl
  simp only [readView, request, recipient, readRequest_requestRow, readRecipient_recipientRow, bind,
    Except.bind, pure, Except.pure]
  rfl

section

variable {db after : Database} {t : Memory.Tables} {recipientId : EmployeeId} {f : RecipientFilter}

/-- What the query returns. -/
theorem returns_listing_iff (mirrors : db.Mirrors t) (exact_ : Exact t) (sized : f.Fits 64)
    {rows : List Row} :
    (listing recipientId f).Returns (listingParameters recipientId f) db.rows rows ↔
      f.Fits 63 ∧ rows = (t.listFor recipientId f).map viewRow := by
  have found := found_listing recipientId f mirrors
  have limits {most : Option Nat} : Select.bound? (listingParameters recipientId f)
      (listing recipientId f).limit = some most ↔ (∀ n ∈ f.limit, n < 2 ^ 63) ∧ most = f.limit :=
    bound_iff (limit_listing recipientId f) sized.1
  have offsets {most : Option Nat} : Select.bound? (listingParameters recipientId f)
      (listing recipientId f).offset = some most ↔ (∀ n ∈ f.offset, n < 2 ^ 63) ∧ most = f.offset :=
    bound_iff (offset_listing recipientId f) sized.2
  have order : ∀ vs : List RequestView, vs.Perm ((t.recipients.values.filter fun row =>
      row.recipientId == recipientId).filterMap (t.view? f)) →
      ((vs.map viewScope).Pairwise (fun a b =>
          Scope.before (listing recipientId f).order b a = false) ↔
        vs.Pairwise fun a b => Memory.Tables.listedBefore a b = true) := by
    intro vs perm
    rw [List.pairwise_map]
    refine List.Pairwise.iff_of_mem fun {a b} first second => ?_
    obtain ⟨-, -, storedA, -⟩ := Memory.Tables.mem_views.1 (perm.subset first)
    obtain ⟨-, -, storedB, -⟩ := Memory.Tables.mem_views.1 (perm.subset second)
    have keptA := exact_.requests _ ((Table.mem_values _).2 ⟨_, storedA⟩)
    have keptB := exact_.requests _ ((Table.mem_values _).2 ⟨_, storedB⟩)
    exact before_viewScope_iff (congrArg RevisionRequest.requestedAt keptB)
      (congrArg RevisionRequest.requestedAt keptA)
  have shown : ∀ vs : List RequestView,
      (Select.window f.offset f.limit (vs.map viewScope)).map (listing recipientId f).view =
        (f.page vs).map viewRow := by
    intro vs
    rw [window_map, List.map_map, page_eq_window]
    rfl
  constructor
  · intro returned
    cases returned with
    | counted counts => cases counts
    | listed _ all ordered offset limit =>
      obtain ⟨boundedOffset, rfl⟩ := offsets.1 offset
      obtain ⟨boundedLimit, rfl⟩ := limits.1 limit
      obtain ⟨vs, perm, rfl⟩ := perm_map_iff.1 (all.trans found)
      have sorted := mirrors.keyed.eq_viewsFor perm ((order vs perm).1 ordered)
      exact ⟨⟨boundedLimit, boundedOffset⟩, by rw [shown, sorted]; rfl⟩
  · rintro ⟨⟨boundedLimit, boundedOffset⟩, rfl⟩
    have perm := Memory.Tables.perm_sortViews ((t.recipients.values.filter fun row =>
      row.recipientId == recipientId).filterMap (t.view? f))
    have ordered := (order _ perm).2 (Memory.Tables.sorted_sortViews _)
    have returned := Select.Returns.listed (by nofun) ((perm.map viewScope).trans found.symm)
      ordered (offsets.2 ⟨boundedOffset, rfl⟩) (limits.2 ⟨boundedLimit, rfl⟩)
    rwa [shown] at returned

theorem mem_of_page {α : Type} {xs : List α} {x : α} (listed : x ∈ f.page xs) : x ∈ xs := by
  rw [RecipientFilter.page] at listed
  split at listed
  · exact List.mem_of_mem_drop (List.mem_of_mem_take listed)
  · exact List.mem_of_mem_drop listed

/-- Views whose times are as the server keeps them are read back as they are. -/
theorem map_keptView (exact_ : Exact t) :
    (t.listFor recipientId f).map keptView = t.listFor recipientId f := by
  refine (List.map_congr_left fun v listed => ?_).trans (List.map_id _)
  obtain ⟨row, -, request, -⟩ := Memory.Tables.mem_viewsFor.1 (mem_of_page listed)
  rw [keptView, exact_.recipients _ row, exact_.requests _ ((Table.mem_values _).2 ⟨_, request⟩)]
  rfl

end

/-- Both stores list the same views in the same order, unless the limit or the offset is 2 ^ 63 or
more.  Then the server has no answer.  The query asks for the wishes of the filter, each with the
value that it wishes for. -/
theorem lists_alike_iff {session : Session} (connected : session.connected = true) {db : Database}
    {t : Memory.Tables} (mirrors : db.Mirrors t) (exact_ : Exact t) {s : Memory.Session}
    (reads : s.tables = .ok t) (recipientId : EmployeeId) {f : RecipientFilter}
    (sized : f.Fits 64) :
    (∃ q parameters, selectList recipientId f = ⟨.select q, parameters⟩ ∧
      q.conditions.map (·.asks parameters) =
        ((ofRecipient "recipient_id", toCell recipientId) :: filterConditions f).map some ∧
      q.limit.map (fun n => parameters[n - 1]?) = f.limit.map (some <| toCell <| wrapCount ·) ∧
      q.offset.map (fun n => parameters[n - 1]?) = f.offset.map (some <| toCell <| wrapCount ·)) ∧
    ∀ views after, db.Performs (session.store (.listFor recipientId f)) [] views after ↔
      f.Fits 63 ∧ (s.store (.listFor recipientId f)).1 = .ok views ∧ after = db := by
  refine ⟨⟨_, _, selectList_eq recipientId f, asks_listing recipientId f,
    limit_listing recipientId f, offset_listing recipientId f⟩, fun views after => ?_⟩
  have stored : (s.store (.listFor recipientId f)).1 = .ok (t.listFor recipientId f) := by
    show (s.tables.map _) = _
    rw [reads]
    rfl
  have decodes : readRows readView ((t.listFor recipientId f).map viewRow) =
      .ok (t.listFor recipientId f) := by
    rw [Database.readRows_map readView_viewRow, map_keptView exact_]
  rw [stored]
  constructor
  · intro performed
    obtain ⟨-, rfl, rows, returned, decoded⟩ :=
      (Database.performs_query_iff connected).1 performed
    obtain ⟨fits, rfl⟩ := (returns_listing_iff mirrors exact_ sized).1 returned
    exact ⟨fits, decodes.symm.trans decoded, rfl⟩
  · rintro ⟨fits, same, rfl⟩
    have returned : (listing recipientId f).Returns _ _ _ :=
      (returns_listing_iff mirrors exact_ sized).2 ⟨fits, rfl⟩
    exact (Database.performs_query_iff connected).2
      ⟨rfl, rfl, _, returned, decodes.trans same⟩

/-! ### One request -/

theorem exact_asked : Exact asked := by
  constructor
  · intro q listed
    obtain rfl := List.mem_singleton.1 listed
    decide +kernel
  · intro r listed
    obtain rfl := List.mem_singleton.1 listed
    rfl

/-- The only request is on the first page of the requests for its step. -/
theorem lists_alike_iff_asked :
    let f : RecipientFilter := ⟨some .criteria, none, some false, some 10, some 0⟩
    Database.Performs (.image asked) ((default : Session).store (.listFor default f)) []
      [⟨⟨default, default, default, default, .criteria, "", default, .epoch⟩,
        .fresh default default .evaluatee⟩] (.image asked) := by
  intro f
  have sized : f.Fits 64 := ⟨by rintro n ⟨⟩; decide, by rintro n ⟨⟩; decide⟩
  have fits : f.Fits 63 := ⟨by rintro n ⟨⟩; decide, by rintro n ⟨⟩; decide⟩
  exact ((lists_alike_iff rfl (Database.mirrors_image keyed_asked) exact_asked
    (show asking.tables = .ok asked from rfl) default sized).2 _ _).2 ⟨fits, rfl, rfl⟩

/-- With the largest limit the store in memory lists the request, and the server has no answer. -/
theorem largest_limit :
    let f : RecipientFilter := ⟨none, none, none, some 18446744073709551615, none⟩
    (asking.store (.listFor default f)).1 =
        .ok [⟨⟨default, default, default, default, .criteria, "", default, .epoch⟩,
          .fresh default default .evaluatee⟩] ∧
      ∀ views after, ¬ Database.Performs (.image asked)
        ((default : Session).store (.listFor default f)) [] views after := by
  intro f
  refine ⟨rfl, fun views after performed => ?_⟩
  have sized : f.Fits 64 := ⟨by rintro n ⟨⟩; decide, by rintro n ⟨⟩⟩
  obtain ⟨-, -, rows, returned, -⟩ :=
    (Database.performs_query_iff (show (default : Session).connected = true from rfl)).1 performed
  obtain ⟨⟨limit, -⟩, -⟩ := (returns_listing_iff (Database.mirrors_image keyed_asked) exact_asked
    sized).1 returned
  exact absurd (limit _ rfl) (by decide)

end Postgres

end Appraisal
