/-!
# Values that carry events

Work records the events it raises beside its value, and whoever runs the work takes them out once
the transaction has committed.  Taking them out leaves the value without events.  A list gives up
the events of its items one item after the other.

`drain_foldl_record` says that events are taken out in the order in which they were recorded, and
`drain_drain` that nothing can be taken out twice.
-/

namespace Appraisal

/-- Values that carry events of type `ε`. -/
class EventSource (ε : outParam Type) (α : Type) where
  /-- The events, the oldest first, and the value without them. -/
  drain : α → List ε × α

export EventSource (drain)

/-- A value with the events that were raised on the way to it. -/
structure Recorded (ε α : Type) where
  /-- The value. -/
  value : α
  /-- The events, the oldest first. -/
  pending : List ε
deriving DecidableEq, Repr

namespace Recorded

variable {ε α : Type}

/-- A value without events. -/
def ofValue (value : α) : Recorded ε α := ⟨value, []⟩

/-- The value with one more event. -/
def record (r : Recorded ε α) (event : ε) : Recorded ε α :=
  { r with pending := r.pending ++ [event] }

instance : EventSource ε (Recorded ε α) where
  drain r := (r.pending, ofValue r.value)

end Recorded

/-- The events of all items, and the items without them. -/
def drainAll {ε α : Type} [EventSource ε α] : List α → List ε × List α
  | [] => ([], [])
  | a :: as => ((drain a).1 ++ (drainAll as).1, (drain a).2 :: (drainAll as).2)

instance {ε α : Type} [EventSource ε α] : EventSource ε (List α) := ⟨drainAll⟩

/-! ## Laws -/

@[simp] theorem Recorded.drain_eq {ε α : Type} (r : Recorded ε α) :
    drain r = (r.pending, .ofValue r.value) := rfl

@[simp] theorem Recorded.pending_record {ε α : Type} (r : Recorded ε α) (event : ε) :
    (r.record event).pending = r.pending ++ [event] := rfl

@[simp] theorem Recorded.value_record {ε α : Type} (r : Recorded ε α) (event : ε) :
    (r.record event).value = r.value := rfl

theorem Recorded.foldl_record {ε α : Type} (r : Recorded ε α) (events : List ε) :
    events.foldl record r = ⟨r.value, r.pending ++ events⟩ := by
  induction events generalizing r with
  | nil => rw [List.foldl_nil, List.append_nil]
  | cons event events ih =>
    rw [List.foldl_cons, ih, value_record, pending_record, List.append_assoc,
      List.singleton_append]

/-- The events that were recorded on a value are taken out of it, the oldest first, and leave the
value. -/
theorem Recorded.drain_foldl_record {ε α : Type} (value : α) (events : List ε) :
    drain (events.foldl record (ofValue value)) = (events, ofValue value) := by
  rw [foldl_record, drain_eq]
  rfl

theorem Recorded.drain_drain {ε α : Type} (r : Recorded ε α) : (drain (drain r).2).1 = [] := rfl

theorem drainAll_recorded {ε α : Type} (rs : List (Recorded ε α)) :
    drainAll rs = (rs.flatMap (·.pending), rs.map fun r => .ofValue r.value) := by
  induction rs with
  | nil => rfl
  | cons r rs ih => simp [drainAll, ih]

end Appraisal
