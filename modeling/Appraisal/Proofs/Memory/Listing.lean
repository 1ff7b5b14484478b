import Mathlib.Data.List.Sort
import Appraisal.Proofs.Memory.Keyed
import Appraisal.Proofs.Memory.Snapshot

/-!
# Rows that are listed

What lists of rows hold, and in which order, on tables whose rows stand under their keys.

*Recipients of a request.*  Each of them has one row, in the order of the recipients
(`Keyed.mem_recipientsOf`, `Keyed.sorted_recipientsOf`).

*Requests of a recipient.*  The list holds the rows that the filter keeps, each with its own request
(`mem_viewsFor`).  Two requests may be equally old, but no two have one identifier, so the order is
strict (`Keyed.sorted_viewsFor`) and leaves no choice (`Keyed.eq_viewsFor`).
-/

namespace Appraisal.Memory.Tables

variable {t : Tables}

namespace Keyed

theorem approvals (keyed : t.Keyed) : t.approvals.Keyed ApprovalRecord.mappingId :=
  fun _ _ found => keyed.approval found

theorem requests (keyed : t.Keyed) : t.requests.Keyed RevisionRequest.id := by
  intro id request found
  have same := keyed _ _ ((row_request t id request).2 found)
  simpa [Row.key] using same

theorem recipients (keyed : t.Keyed) :
    t.recipients.Keyed fun r => (r.requestId, r.recipientId) := by
  rintro ⟨requestId, recipientId⟩ row found
  obtain ⟨rfl, rfl⟩ := keyed.recipient found
  rfl

end Keyed

/-! ## The recipients of a request -/

theorem Keyed.sorted_recipientsOf (keyed : t.Keyed) (requestId : RevisionRequestId) :
    (t.recipientsOf requestId).Pairwise fun a b => rank a.recipientId < rank b.recipientId := by
  refine (keyed.recipients.sorted_values.filter _).imp_of_mem fun {a b} first second before => ?_
  have ofA : a.requestId = requestId := by simpa using (List.mem_filter.1 first).2
  have ofB : b.requestId = requestId := by simpa using (List.mem_filter.1 second).2
  rcases rank_pair_lt_iff.1 before with before | ⟨-, before⟩
  · simp [ofA, ofB] at before
  · exact before

theorem Keyed.mem_recipientsOf (keyed : t.Keyed) {requestId : RevisionRequestId}
    {row : RecipientRow} : row ∈ t.recipientsOf requestId ↔
      t.recipients.get? (requestId, row.recipientId) = some row := by
  rw [recipientsOf, List.mem_filter, beq_iff_eq, Table.mem_values]
  constructor
  · rintro ⟨⟨⟨id, e⟩, found⟩, rfl⟩
    obtain ⟨rfl, rfl⟩ := keyed.recipient found
    exact found
  · exact fun found => ⟨⟨_, found⟩, (keyed.recipient found).1⟩

/-! ## Views in order -/

theorem placeView_eq (v : RequestView) (vs : List RequestView) :
    placeView v vs = vs.orderedInsert (fun a b => listedBefore a b = true) v := by
  induction vs with
  | nil => rfl
  | cons w ws ih => rw [placeView, List.orderedInsert_cons, ih]

theorem sortViews_eq (vs : List RequestView) :
    sortViews vs = vs.insertionSort fun a b => listedBefore a b = true := by
  induction vs with
  | nil => rfl
  | cons v vs ih => rw [sortViews, placeView_eq, ih, List.insertionSort_cons]

theorem listedBefore_iff {a b : RequestView} :
    listedBefore a b = true ↔ b.request.requestedAt.order < a.request.requestedAt.order ∨
      a.request.requestedAt.order = b.request.requestedAt.order ∧
        rank a.request.id ≤ rank b.request.id := by
  have time : a.request.requestedAt = b.request.requestedAt ↔
      a.request.requestedAt.order = b.request.requestedAt.order :=
    ⟨congrArg Instant.order, Instant.order_inj⟩
  rw [listedBefore, Bool.or_eq_true, Bool.and_eq_true, decide_eq_true_iff, decide_eq_true_iff,
    decide_eq_true_iff, time]
  rfl

instance : Std.Total fun a b : RequestView => listedBefore a b = true where
  total a b := by
    rw [listedBefore_iff, listedBefore_iff]
    omega

instance : IsTrans RequestView fun a b => listedBefore a b = true where
  trans a b c := by
    rw [listedBefore_iff, listedBefore_iff, listedBefore_iff]
    omega

theorem perm_sortViews (vs : List RequestView) : (sortViews vs).Perm vs := by
  rw [sortViews_eq]
  exact List.perm_insertionSort _ vs

theorem sorted_sortViews (vs : List RequestView) :
    (sortViews vs).Pairwise fun a b => listedBefore a b = true := by
  rw [sortViews_eq]
  exact List.pairwise_insertionSort _ vs

/-! ## The requests of a recipient -/

section

variable {recipientId : EmployeeId} {f : RecipientFilter} {v w : RequestView}

theorem view?_eq_some {row : RecipientRow} : t.view? f row = some v ↔
    v.recipient = row ∧ t.requests.get? row.requestId = some v.request ∧
      f.keeps v.request row = true := by
  obtain ⟨request, recipient⟩ := v
  rw [view?]
  constructor
  · intro viewed
    split at viewed
    · rename_i q found
      split at viewed
      · rename_i kept
        cases viewed
        exact ⟨rfl, found, kept⟩
      · cases viewed
    · cases viewed
  · rintro ⟨rfl, found, kept⟩
    simp only [found, kept, if_true]

theorem mem_views : v ∈ (t.recipients.values.filter fun row =>
      row.recipientId == recipientId).filterMap (t.view? f) ↔
    v.recipient ∈ t.recipients.values ∧ v.recipient.recipientId = recipientId ∧
      t.requests.get? v.recipient.requestId = some v.request ∧
      f.keeps v.request v.recipient = true := by
  rw [List.mem_filterMap]
  constructor
  · rintro ⟨row, listed, viewed⟩
    obtain ⟨rfl, found, kept⟩ := view?_eq_some.1 viewed
    obtain ⟨stands, own⟩ := List.mem_filter.1 listed
    exact ⟨stands, beq_iff_eq.1 own, found, kept⟩
  · rintro ⟨stands, own, found, kept⟩
    exact ⟨v.recipient, List.mem_filter.2 ⟨stands, beq_iff_eq.2 own⟩,
      view?_eq_some.2 ⟨rfl, found, kept⟩⟩

theorem mem_viewsFor : v ∈ t.viewsFor recipientId f ↔
    v.recipient ∈ t.recipients.values ∧ v.recipient.recipientId = recipientId ∧
      t.requests.get? v.recipient.requestId = some v.request ∧
      f.keeps v.request v.recipient = true :=
  (perm_sortViews _).mem_iff.trans mem_views

/-- Two views of one recipient's rows that have one identifier are the same. -/
theorem Keyed.eq_of_id (keyed : t.Keyed) (first : v ∈ t.viewsFor recipientId f)
    (second : w ∈ t.viewsFor recipientId f) (same : v.request.id = w.request.id) : v = w := by
  obtain ⟨rowV, ownV, storedV, -⟩ := mem_viewsFor.1 first
  obtain ⟨rowW, ownW, storedW, -⟩ := mem_viewsFor.1 second
  have row : v.recipient = w.recipient := by
    refine keyed.recipients.eq_of_key rowV rowW (Prod.ext ?_ (ownV.trans ownW.symm))
    exact (keyed.requests _ _ storedV).symm.trans (same.trans (keyed.requests _ _ storedW))
  rw [row] at storedV
  have request : v.request = w.request := Option.some.inj (storedV.symm.trans storedW)
  obtain ⟨requestV, recipientV⟩ := v
  obtain ⟨requestW, recipientW⟩ := w
  cases row
  cases request
  rfl

/-- Views in the order of a list, whichever way they were put in order, are as listed. -/
theorem Keyed.eq_viewsFor (keyed : t.Keyed) {vs : List RequestView}
    (perm : vs.Perm ((t.recipients.values.filter fun row =>
      row.recipientId == recipientId).filterMap (t.view? f)))
    (ordered : vs.Pairwise fun a b => listedBefore a b = true) :
    vs = t.viewsFor recipientId f := by
  have same : vs.Perm (t.viewsFor recipientId f) := perm.trans (perm_sortViews _).symm
  refine same.eq_of_pairwise (fun a b first second le ge => ?_) ordered (sorted_sortViews _)
  rw [listedBefore_iff] at le ge
  exact keyed.eq_of_id (same.subset first) second (rank_inj (by omega))

theorem Keyed.nodup_viewsFor (keyed : t.Keyed) : (t.viewsFor recipientId f).Nodup := by
  have rows : t.recipients.values.Nodup := Table.nodup_of_sorted keyed.recipients.sorted_values
  refine (perm_sortViews _).nodup_iff.2 ((rows.filter _).filterMap fun row other view h h' => ?_)
  exact (view?_eq_some.1 h).1.symm.trans (view?_eq_some.1 h').1

/-- The newest request comes first, and the lower identifier where two are equally old. -/
theorem Keyed.sorted_viewsFor (keyed : t.Keyed) :
    (t.viewsFor recipientId f).Pairwise fun a b =>
      b.request.requestedAt < a.request.requestedAt ∨
        a.request.requestedAt = b.request.requestedAt ∧
          rank a.request.id < rank b.request.id := by
  refine ((sorted_sortViews _).and keyed.nodup_viewsFor).imp_of_mem fun {a b} first second h => ?_
  obtain ⟨before, other⟩ := h
  rcases listedBefore_iff.1 before with later | ⟨time, le⟩
  · exact .inl later
  · refine .inr ⟨Instant.order_inj time, Nat.lt_of_le_of_ne le fun same => other ?_⟩
    exact keyed.eq_of_id first second (rank_inj same)

end

end Appraisal.Memory.Tables
