import DiagramOutline.Text.Basic

/-! # Slices with signed bounds

A slice is the run of elements from one position up to another. The bounds are integers: one that is
below zero counts from the end of the list, and one that lies outside the list is moved to its
nearer end. A slice whose start is not before its stop is empty.

* **`position length bound`** — where a signed bound falls in a list of that length.
* **`slice items start stop`** — the elements from `start` up to, and without, `stop`. -/

namespace DiagramOutline

variable {α : Type}

/-- The **position** that a signed bound names in a list of `length` elements. -/
def position (length : Nat) (bound : Int) : Nat :=
  if bound < 0 then (bound + length).toNat else min bound.toNat length

/-- A bound inside the list is its own position. -/
theorem position_natCast {length bound : Nat} (h : bound ≤ length) :
    position length bound = bound := by
  unfold position
  split <;> omega

/-- The **slice** of a list from `start` up to, and without, `stop`. -/
def slice (items : List α) (start stop : Int) : List α :=
  (items.take (position items.length stop)).drop (position items.length start)

/-- A slice between bounds that are not negative takes and drops. -/
theorem slice_natCast (items : List α) {start stop : Nat} (hstart : start ≤ items.length)
    (hstop : stop ≤ items.length) : slice items start stop = (items.take stop).drop start := by
  rw [slice, position_natCast hstart, position_natCast hstop]

/-- The slice of what stands **between** two lists in a longer one. -/
theorem slice_append_append (before middle behind : List α) :
    slice (before ++ middle ++ behind) before.length (before ++ middle).length = middle := by
  have hbefore : before.length ≤ (before ++ middle ++ behind).length := by
    rw [List.append_assoc, List.length_append]
    exact Nat.le_add_right _ _
  have hwhole : (before ++ middle).length ≤ (before ++ middle ++ behind).length :=
    (List.sublist_append_left _ _).length_le
  rw [slice_natCast _ hbefore hwhole, List.take_left, List.drop_left]

end DiagramOutline
