import Appraisal.Proofs.Concurrent.Attachment
import Appraisal.Proofs.Memory.Listing
import Appraisal.Proofs.Workflow.Solo

/-!
# Lists, pages and counts

What a recipient is shown of their requests, on a store of one's own and for every filter
(`Solo.paging`).

*Lists.*  A list holds every row of the recipient that the filter is for, with its own request, and
its order is strict (`Tables.Lists`).  No row is missing for want of a request, because rows of
recipients belong to requests in all tables that can be reached.

*Pages.*  A page is a part of the list (`getElem?_page`), and pages of one length make up the list
(`flatMap_page`).

*Counts.*  The count does not look at requests and is right all the same
(`Tables.Keyed.length_viewsFor_unread`).
-/

namespace Appraisal

namespace RecipientFilter

/-- The filter with another page. -/
def paged (f : RecipientFilter) (limit offset : Option Nat) : RecipientFilter :=
  { f with limit, offset }

/-- A view is what the filter is for. -/
structure Meets (f : RecipientFilter) (v : RequestView) : Prop where
  step : ∀ step, f.step = some step → v.request.step = step
  isRead : ∀ read, f.isRead = some read → v.recipient.isRead = read
  isCompleted : ∀ completed, f.isCompleted = some completed → v.recipient.isCompleted = completed

theorem admits_iff {α : Type} [BEq α] [LawfulBEq α] {wish : Option α} {value : α} :
    admits wish value = true ↔ ∀ w, wish = some w → value = w := by
  cases wish with
  | none => exact iff_of_true rfl nofun
  | some w =>
    rw [admits, beq_iff_eq]
    exact ⟨fun met _ same => met.symm.trans (Option.some.inj same), fun met => (met w rfl).symm⟩

theorem keeps_iff {f : RecipientFilter} {v : RequestView} :
    f.keeps v.request v.recipient = true ↔ f.Meets v := by
  rw [keeps, Bool.and_eq_true, Bool.and_eq_true, admits_iff, admits_iff, admits_iff]
  exact ⟨fun ⟨⟨step, isRead⟩, isCompleted⟩ => ⟨step, isRead, isCompleted⟩,
    fun met => ⟨⟨met.step, met.isRead⟩, met.isCompleted⟩⟩

/-! ## Pages -/

variable {α : Type} (f : RecipientFilter) (xs : List α)

theorem page_of_whole (limit : f.limit = none) (offset : f.offset = none) : f.page xs = xs := by
  rw [page, limit, offset]
  rfl

/-- A page begins at its offset and ends at its limit. -/
theorem getElem?_page (i : Nat) :
    (f.page xs)[i]? =
      if f.limit.all (fun n => decide (i < n)) then xs[f.offset.getD 0 + i]? else none := by
  rw [page]
  cases f.limit with
  | none => exact List.getElem?_drop
  | some n =>
    show ((xs.drop (f.offset.getD 0)).take n)[i]? = _
    rw [List.getElem?_take, List.getElem?_drop, Option.all_some]
    simp only [decide_eq_true_eq]

/-- Pages of one length, one after the other, make up the list. -/
theorem flatMap_page (k n : Nat) :
    ((List.range n).flatMap fun i => (f.paged (some k) (some (i * k))).page xs) =
      xs.take (n * k) := by
  induction n with
  | zero => rw [Nat.zero_mul]; rfl
  | succ n ih =>
    rw [List.range_succ, List.flatMap_append, ih, Nat.succ_mul, List.take_add]
    simp only [List.flatMap_singleton]
    rfl

end RecipientFilter

namespace Memory

open Workflow

namespace Tables

variable {t : Tables} {recipientId : EmployeeId} {f : RecipientFilter}

/-! ## Lists -/

/-- A list holds the rows of a recipient that a filter is for, each once and with its own request,
the newest request first and the lower identifier first where two are equally old. -/
structure Lists (t : Tables) (recipientId : EmployeeId) (f : RecipientFilter)
    (views : List RequestView) : Prop where
  ordered : views.Pairwise fun a b => b.request.requestedAt < a.request.requestedAt ∨
    a.request.requestedAt = b.request.requestedAt ∧ rank a.request.id < rank b.request.id
  own : ∀ v ∈ views, t.recipients.get? (v.request.id, recipientId) = some v.recipient ∧
    t.requests.get? v.request.id = some v.request ∧ f.Meets v
  complete : ∀ id row, t.recipients.get? (id, recipientId) = some row →
    ∃ request, t.requests.get? id = some request ∧
      (f.Meets ⟨request, row⟩ → ⟨request, row⟩ ∈ views)

/-- The row of a recipient belongs to a request. -/
theorem Attached.requested (attached : t.Attached) {id : RevisionRequestId} {row : RecipientRow}
    (found : t.recipients.get? (id, recipientId) = some row) :
    ∃ request, t.requests.get? id = some request := by
  have there : (t.row (.request id)).isSome := by
    refine attached id recipientId ?_
    rw [isSome_row_recipient, found]
    rfl
  rw [Tables.row, Option.isSome_map] at there
  exact Option.isSome_iff_exists.1 there

namespace Keyed

variable (keyed : t.Keyed) (attached : t.Attached)

include keyed attached

theorem lists_viewsFor : t.Lists recipientId f (t.viewsFor recipientId f) where
  ordered := keyed.sorted_viewsFor
  own v listed := by
    obtain ⟨stands, rfl, requested, kept⟩ := mem_viewsFor.1 listed
    obtain ⟨⟨id, e⟩, found⟩ := (Table.mem_values _).1 stands
    obtain ⟨rfl, rfl⟩ := keyed.recipient found
    have id : v.request.id = v.recipient.requestId := keyed.requests _ _ requested
    rw [id]
    exact ⟨found, requested, RecipientFilter.keeps_iff.1 kept⟩
  complete id row found := by
    obtain ⟨request, requested⟩ := attached.requested found
    refine ⟨request, requested, fun met => mem_viewsFor.2 ⟨?_, ?_, ?_, ?_⟩⟩
    · exact (Table.mem_values _).2 ⟨_, found⟩
    · exact (keyed.recipient found).2
    · rw [(keyed.recipient found).1, requested]
    · exact RecipientFilter.keeps_iff.2 met

/-- What is not read is counted as it is listed. -/
theorem length_viewsFor_unread (recipientId : EmployeeId) :
    (t.viewsFor recipientId ⟨none, some false, none, none, none⟩).length =
      t.countUnread recipientId := by
  rw [viewsFor, (perm_sortViews _).length_eq, List.length_filterMap_eq_countP, List.countP_filter,
    countUnread]
  refine List.countP_congr fun row stands => ?_
  obtain ⟨⟨id, e⟩, found⟩ := (Table.mem_values _).1 stands
  obtain ⟨rfl, rfl⟩ := keyed.recipient found
  obtain ⟨request, requested⟩ := attached.requested found
  cases unread : row.isRead <;>
    simp [view?, requested, RecipientFilter.keeps, RecipientFilter.admits, unread]

end Keyed

end Tables

namespace Solo

variable {q : Solo}

/-! ## The calls -/

section

variable (onBegin : q.store.faults.onBegin = []) (onCommit : q.store.faults.onCommit = [])

include onBegin onCommit

theorem comesTo_listForRecipient (s : Service) (recipientId : EmployeeId) (f : RecipientFilter) :
    q.ComesTo s (.listForRecipient recipientId f)
      (.ok (f.page (q.store.committed.viewsFor recipientId f))) q.store.committed [] := by
  have working : (q.readied .reading).session.working = some (.start q.store.committed) := rfl
  have listed : (q.readied .reading).perform (Work.listFor recipientId f) =
      (.ok (f.page (q.store.committed.viewsFor recipientId f)), q.readied .reading) :=
    perform_reading working trivial
  exact comesTo_of_read (c := .listForRecipient recipientId f) rfl onBegin onCommit listed rfl rfl

theorem comesTo_countUnread (s : Service) (recipientId : EmployeeId) :
    q.ComesTo s (.countUnread recipientId) (.ok (q.store.committed.countUnread recipientId))
      q.store.committed [] := by
  have working : (q.readied .reading).session.working = some (.start q.store.committed) := rfl
  have counted : (q.readied .reading).perform (Work.countUnread recipientId) =
      (.ok (q.store.committed.countUnread recipientId), q.readied .reading) :=
    perform_reading working trivial
  exact comesTo_of_read (c := .countUnread recipientId) rfl onBegin onCommit counted rfl rfl

end

/-- A recipient is shown all that a filter is for, in one list or page by page, and the count of
what is not read is the length of its list. -/
theorem paging (s : Service) (reached : q.store.committed.Reached)
    (onBegin : q.store.faults.onBegin = []) (onCommit : q.store.faults.onCommit = [])
    (recipientId : EmployeeId) :
    (∀ f : RecipientFilter, ∃ views, q.store.committed.Lists recipientId f views ∧
      q.ComesTo s (.listForRecipient recipientId (f.paged none none)) (.ok views)
        q.store.committed [] ∧
      (∀ limit offset, ∃ page : List RequestView,
        q.ComesTo s (.listForRecipient recipientId (f.paged limit offset)) (.ok page)
          q.store.committed [] ∧
        ∀ i, page[i]? = if limit.all (fun n => decide (i < n)) then views[offset.getD 0 + i]?
          else none) ∧
      ∀ k, ∃ pages : Nat → List RequestView,
        (∀ i, q.ComesTo s (.listForRecipient recipientId (f.paged (some k) (some (i * k))))
          (.ok (pages i)) q.store.committed []) ∧
        ∀ n, views.length ≤ n * k → (List.range n).flatMap pages = views) ∧
    ∃ views : List RequestView,
      q.ComesTo s (.listForRecipient recipientId ⟨none, some false, none, none, none⟩)
        (.ok views) q.store.committed [] ∧
      q.ComesTo s (.countUnread recipientId) (.ok views.length) q.store.committed [] := by
  have keyed := reached.keyed
  have attached := reached.attached
  refine ⟨fun f => ?_, _, comesTo_listForRecipient onBegin onCommit s recipientId _, ?_⟩
  · -- a filter keeps the same views whichever page it shows
    have comes := fun limit offset =>
      comesTo_listForRecipient onBegin onCommit s recipientId (f.paged limit offset)
    let views := q.store.committed.viewsFor recipientId f
    refine ⟨views, keyed.lists_viewsFor attached, comes none none, fun limit offset => ?_,
      fun k => ⟨_, fun i => comes _ _, fun n enough => ?_⟩⟩
    · exact ⟨_, comes limit offset, (f.paged limit offset).getElem?_page views⟩
    · exact (f.flatMap_page views k n).trans (List.take_of_length_le enough)
  · rw [RecipientFilter.page_of_whole _ _ rfl rfl, keyed.length_viewsFor_unread attached]
    exact comesTo_countUnread onBegin onCommit s recipientId

/-- A request that was made at the same time as others. -/
def due (id : RevisionRequestId) : RevisionRequest :=
  ⟨id, default, default, default, .criteria, "x", default, default⟩

/-- What a session does to store such requests, each with a row for one recipient. -/
def storeDue (ids : List RevisionRequestId) : List (Memory.Move Nat) :=
  let rows (id : RevisionRequestId) : List SessionCall :=
    [.store (.insertRequest (due id)), .store (.insertRecipient (.fresh id default .evaluatee))]
  (SessionCall.begin default :: ids.flatMap rows ++ [SessionCall.commit]).map (.call 0)

/-- A client of a store with two requests that are equally old. -/
def twoDue : Solo where
  store := ((History.start default).run (storeDue [Id.random default, default])).store
  session := default
  clock _ := default
  bits _ := default
  reactions _ := .ok ()

/-- The lower identifier comes first, the second page of one view shows the other, and both are
counted. -/
theorem paging_twoDue :
    ∃ first second : RequestView, first.request = due default ∧
      second.request = due (Id.random default) ∧
      twoDue.ComesTo ⟨default, default⟩ (.listForRecipient default default) (.ok [first, second])
        twoDue.store.committed [] ∧
      twoDue.ComesTo ⟨default, default⟩
        (.listForRecipient default ⟨none, none, none, some 1, some 1⟩) (.ok [second])
        twoDue.store.committed [] ∧
      twoDue.ComesTo ⟨default, default⟩ (.countUnread default) (.ok (2 : Nat))
        twoDue.store.committed [] := by
  have reached : twoDue.store.committed.Reached := ⟨default, _, rfl, rfl⟩
  have onBegin : twoDue.store.faults.onBegin = [] := by decide +kernel
  have onCommit : twoDue.store.faults.onCommit = [] := by decide +kernel
  obtain ⟨lists, unread, -, counted⟩ :=
    paging ⟨default, default⟩ reached onBegin onCommit default
  obtain ⟨views, -, whole, slices, -⟩ := lists default
  obtain ⟨page, paged, slice⟩ := slices (some 1) (some 1)
  let first : RequestView := ⟨due default, .fresh default default .evaluatee⟩
  let second : RequestView :=
    ⟨due (Id.random default), .fresh (Id.random default) default .evaluatee⟩
  have stored : twoDue.store.committed.viewsFor default default = [first, second] := by
    decide +kernel
  have unread_eq : twoDue.store.committed.countUnread default = 2 := by
    decide +kernel
  have listed : views = [first, second] := by
    have same := whole.result.symm.trans
      (comesTo_listForRecipient onBegin onCommit ⟨default, default⟩ default _).result
    rw [RecipientFilter.page_of_whole _ _ rfl rfl] at same
    exact (Except.ok.inj same).trans stored
  have other : page = [second] := by
    refine List.ext_getElem? fun i => ?_
    rw [slice, listed]
    cases i with
    | zero => rfl
    | succ i => rfl
  have two : unread.length = 2 := by
    have same := counted.result.symm.trans
      (comesTo_countUnread onBegin onCommit ⟨default, default⟩ default).result
    exact (Except.ok.inj same).trans unread_eq
  rw [listed] at whole
  rw [other] at paged
  rw [two] at counted
  exact ⟨first, second, rfl, rfl, whole, paged, counted⟩

end Solo

end Memory

end Appraisal
