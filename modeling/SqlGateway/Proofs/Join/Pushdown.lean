import SqlGateway.Proofs.Join.NestedLoop

/-!
# Conditions before and after a join

A condition on one side may be applied to the rows of this side before they are joined
or to the joined rows afterwards. Both ways agree as long as no row is kept for want of a
partner on the side that the condition thins out: an inner join takes conditions on both
sides, a left join on the left side and a right join on the right side. A full join takes
none.

To speak of the two parts of a joined row, its columns must tell them apart. Rows have
exactly the columns of their result, no two columns of a side have the same text, and no
column of one side gets the name of a column of the other one. The argument is about the
double loop; the limit comes in at the end, because both ways cut the same list.
-/

namespace SqlGateway

/-- The rows of a result that satisfy a condition. -/
def QueryResult.restrict (result : QueryResult) (keep : BackendRow → Bool) : QueryResult :=
  let rows := result.rows.filter keep
  { result with rows, rowCount := .int rows.length }

/-- All rows have exactly the columns of the result, which differ in their texts. -/
structure QueryResult.Keyed (result : QueryResult) : Prop where
  /-- No two columns have the same text. -/
  distinct : (result.columns.map Value.text).Nodup
  /-- Every row has the columns in their order. -/
  keyed : ∀ row ∈ result.rows, row.map Prod.fst = result.columns

namespace Join

/-- The name of a column in a joined row. -/
def columnName (side : String) (column : Value) : String :=
  side ++ "_" ++ column.text

/-- The part of a joined row that one side gave to it. -/
def partOf (side : String) (columns : List Value) (row : Row) : BackendRow :=
  columns.map fun column => (column, (row.get? (columnName side column)).getD .null)

/-- No column of one side has the name of a column of the other one. -/
def Apart (join : Join) (left right : List Value) : Prop :=
  ∀ first ∈ left, ∀ second ∈ right,
    columnName join.leftAlias first ≠ columnName join.rightAlias second

/-- The conditions that may be applied before a join of some kind. A side is thinned out
    only if no row of the other side is kept for want of a partner. -/
def MayPushDown (onLeft onRight : BackendRow → Bool) : JoinType → Prop
  | .inner => True
  | .left => ∀ row, onRight row = true
  | .right => ∀ row, onLeft row = true
  | .full => (∀ row, onLeft row = true) ∧ ∀ row, onRight row = true

/-- The condition on the left side holds always if right rows are kept. -/
theorem MayPushDown.left {onLeft onRight : BackendRow → Bool} {type : JoinType}
    (allowed : MayPushDown onLeft onRight type) (kept : type.keepsRight = true)
    (row : BackendRow) : onLeft row = true := by
  cases type with
  | inner => cases kept
  | left => cases kept
  | right => exact allowed row
  | full => exact allowed.1 row

/-- The condition on the right side holds always if left rows are kept. -/
theorem MayPushDown.right {onLeft onRight : BackendRow → Bool} {type : JoinType}
    (allowed : MayPushDown onLeft onRight type) (kept : type.keepsLeft = true)
    (row : BackendRow) : onRight row = true := by
  cases type with
  | inner => cases kept
  | left => exact allowed row
  | right => cases kept
  | full => exact allowed.2 row

/-- The names of the columns that a side gives to a joined row. -/
theorem names_named (side : String) (row : BackendRow) :
    (named side row).map Prod.fst = (row.map Prod.fst).map (columnName side) := by
  simp [named, columnName, Function.comp_def]

/-- Putting the name of a side before texts keeps them apart. -/
theorem columnName_nodup (side : String) {columns : List Value}
    (distinct : (columns.map Value.text).Nodup) : (columns.map (columnName side)).Nodup := by
  have prefixed : columns.map (columnName side) =
      (columns.map Value.text).map fun text => side ++ "_" ++ text := by
    simp [columnName, Function.comp_def]
  rw [prefixed, List.Nodup, List.pairwise_map]
  refine distinct.imp fun different same => different ?_
  exact String.append_right_inj _ |>.mp same

/-- The values of a merged row stand one after the other if all its names differ. Only
    some of the columns of a side need to be there, as in a row of nulls. -/
theorem toList_merge (join : Join) {leftColumns rightColumns : List Value}
    (leftDistinct : (leftColumns.map Value.text).Nodup)
    (rightDistinct : (rightColumns.map Value.text).Nodup)
    (apart : join.Apart leftColumns rightColumns) {left right : BackendRow}
    (leftKeyed : (left.map Prod.fst).Sublist leftColumns)
    (rightKeyed : (right.map Prod.fst).Sublist rightColumns) :
    (join.merge left right).toList = named join.leftAlias left ++ named join.rightAlias right := by
  apply OrderedMap.toList_ofList
  rw [List.map_append, names_named, names_named, List.nodup_append]
  refine ⟨(leftKeyed.map _).nodup (columnName_nodup _ leftDistinct),
    (rightKeyed.map _).nodup (columnName_nodup _ rightDistinct), ?_⟩
  intro first inLeft second inRight
  obtain ⟨leftColumn, leftMember, rfl⟩ := List.mem_map.mp inLeft
  obtain ⟨rightColumn, rightMember, rfl⟩ := List.mem_map.mp inRight
  exact apart leftColumn (leftKeyed.subset leftMember) rightColumn (rightKeyed.subset rightMember)

end Join

end SqlGateway
