import SqlGateway.OrderedMap

/-!
# Counters

Numbers that only grow, one for each combination of labels.
-/

namespace SqlGateway

/-- A number for each combination of labels. -/
abbrev Counter (κ : Type) := OrderedMap κ Nat

namespace Counter

variable {κ : Type} [DecidableEq κ]

/-- The number of a combination of labels. -/
def count (counter : Counter κ) (labels : κ) : Nat :=
  (counter.get? labels).getD 0

/-- One more for a combination of labels. -/
def increment (counter : Counter κ) (labels : κ) : Counter κ :=
  counter.insert labels (counter.count labels + 1)

/-- Only the number of the labels that are counted grows, by one. -/
theorem count_increment (counter : Counter κ) (labels wanted : κ) :
    (counter.increment labels).count wanted =
      counter.count wanted + if wanted = labels then 1 else 0 := by
  rw [count, increment, OrderedMap.get?_insert]
  split
  · next same => rw [same, Option.getD_some]
  · rfl

end Counter

end SqlGateway
