import Mathlib

/-!
Contract: vectors of bounded capacity whose bound is part of their type.

`ArrayVec α capacity` carries `items.length ≤ capacity` as a field, so a value
that overflows its capacity cannot be built. The operations that could overflow
return `Option`: `none` is the point where the `arrayvec` crate's
`ArrayVec<T, CAP>` panics, as its documentation states for `push` ("panics if
the vector is already full") and for collecting an iterator
("panics if the number of elements in the iterator exceeds the arrayvec's
capacity").

Owns: `empty`, `push`, `collect`, and when each of them succeeds.
-/

/-- At most `capacity` items, in order. -/
structure ArrayVec (α : Type) (capacity : Nat) where
  items : List α
  bounded : items.length ≤ capacity

namespace ArrayVec

variable {α : Type} {capacity : Nat}

instance [DecidableEq α] : DecidableEq (ArrayVec α capacity) := fun left right =>
  decidable_of_iff (left.items = right.items) (by
    cases left
    cases right
    simp)

/-- `ArrayVec::new()`. -/
def empty : ArrayVec α capacity := ⟨[], Nat.zero_le capacity⟩

@[simp] theorem empty_items : (empty : ArrayVec α capacity).items = [] := rfl

/-- `ArrayVec::push`: `none` when the vector is already full. -/
def push (vector : ArrayVec α capacity) (item : α) : Option (ArrayVec α capacity) :=
  if room : vector.items.length < capacity then
    some ⟨vector.items ++ [item], by rw [List.length_append, List.length_singleton]; omega⟩
  else
    none

theorem push_eq_some {vector : ArrayVec α capacity} (item : α)
    (room : vector.items.length < capacity) :
    ∃ pushed, vector.push item = some pushed ∧ pushed.items = vector.items ++ [item] := by
  simp [push, room]

theorem push_eq_none {vector : ArrayVec α capacity} {item : α}
    (full : vector.items.length = capacity) : vector.push item = none := by
  simp [push, full]

/-- `iter.collect::<ArrayVec<_, CAP>>()`: `none` when there are more than
`capacity` items. -/
def collect (items : List α) : Option (ArrayVec α capacity) :=
  if fits : items.length ≤ capacity then some ⟨items, fits⟩ else none

theorem collect_eq_none {items : List α} (overflows : capacity < items.length) :
    (collect items : Option (ArrayVec α capacity)) = none := by
  simp [collect]
  omega

end ArrayVec
