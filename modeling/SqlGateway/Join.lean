import SqlGateway.Fault
import SqlGateway.JoinQuery.Basic
import SqlGateway.Result
import SqlGateway.Text.LowerCase
import Std.Data.HashMap

/-!
# Joining results

The rows of both sides of a cross-source join are brought together in memory. The right
side is indexed by its join column and the left side is gone through in order, so rows
with a partner and left rows without one keep the order of the left side, and right rows
without a partner follow in the order of the right side.
-/

namespace SqlGateway

/-- How two results are joined. -/
structure Join where
  /-- Which rows without a partner are kept. -/
  joinType : JoinType
  /-- The name put before the columns of the left side. -/
  leftAlias : String
  /-- The name put before the columns of the right side. -/
  rightAlias : String
  /-- The join column of the left side. -/
  leftColumn : String
  /-- The join column of the right side. -/
  rightColumn : String
  /-- Greatest number of joined rows. -/
  limit : Option Nat := none
  deriving Repr

namespace Join

/-- What is compared of a value: its text in lower case. Null counts as the empty text. -/
def key : Value → String
  | .null => ""
  | value => value.text.lowerCase

/-- The wording for a join column that a side lacks. All names have to be texts to be
    told. -/
def absentColumn (columns : List Value) (column side : String) : Fault :=
  match columns.findIdx? fun name => !name.isText with
  | some index =>
      .wrongType ("sequence item " ++ toString index ++ ": expected str instance, "
        ++ (columns.getD index .null).kindName ++ " found")
  | none =>
      .federatedExecution
        ("Join column '" ++ column ++ "' is not present in the " ++ side
          ++ " result (columns: " ++ ", ".intercalate (columns.map Value.text) ++ ")") side

/-- The first of some columns that has a name up to case. Texts and bytes have small
    letters, but only texts are the same as a name. -/
def findColumn? (column : String) : List Value → Outcome (Option String)
  | [] => .ok none
  | .string candidate :: rest =>
      if candidate.lowerCase == column.lowerCase then .ok (some candidate)
      else findColumn? column rest
  | .bytes _ :: rest | .byteBuffer _ :: rest => findColumn? column rest
  | other :: _ => (other.lacks "lower").raise

/-- The column of a side that a query means: the one of this name or, failing that, the
    first one of this name up to case. A side without columns takes any name. -/
def resolveColumn (columns : List Value) (column side : String) : Outcome String := do
  if columns.isEmpty || columns.any (·.same (.string column)) then return column
  match ← findColumn? column columns with
  | some candidate => return candidate
  | none => (absentColumn columns column side).raise

/-- Rows by the key of their join column. -/
abbrev Index := Std.HashMap String (List BackendRow)

/-- The rows of a side under a key, in order. -/
def Index.rows (index : Index) (key : String) : List BackendRow :=
  index.getD key []

/-- The index of rows by the keys in a column. -/
def Index.ofRows (column : String) (rows : List BackendRow) : Index :=
  rows.foldr (fun row (index : Index) =>
    let key := key (row.value column)
    index.insert key (row :: index.rows key)) ∅

/-- The values of a row under the texts of their columns, with the name of a side before
    each. -/
def named (side : String) (row : BackendRow) : List (String × Value) :=
  row.map fun entry => (side ++ "_" ++ entry.1.text, entry.2)

/-- A row of both sides, whose columns have the names of the sides before them. A column
    of the right side replaces one of the same name. -/
def merge (join : Join) (left right : BackendRow) : Row :=
  OrderedMap.ofList (named join.leftAlias left ++ named join.rightAlias right)

/-- Whether no more rows are joined. -/
def isFull (join : Join) (joined : Array Row) : Bool :=
  join.limit.any (· ≤ joined.size)

/-- One more row, unless the limit is reached. -/
def add (join : Join) (joined : Array Row) (row : Row) : Array Row :=
  if join.isFull joined then joined else joined.push row

/-- The joined rows of one left row. -/
def addLeft (join : Join) (index : Index) (leftKey : String) (absent : BackendRow)
    (joined : Array Row) (left : BackendRow) : Array Row :=
  if join.isFull joined then joined
  else
    match index.rows (key (left.value leftKey)) with
    | [] => if join.joinType.keepsLeft then join.add joined (join.merge left absent) else joined
    | partners =>
        partners.foldl (fun joined right => join.add joined (join.merge left right)) joined

/-- The joined row of a right row without a partner. -/
def addRight (join : Join) (leftKeys : Index) (rightKey : String) (absent : BackendRow)
    (joined : Array Row) (right : BackendRow) : Array Row :=
  if (leftKeys.rows (key (right.value rightKey))).isEmpty then
    join.add joined (join.merge absent right)
  else joined

/-- The joined rows of two results whose join columns are known. -/
def rows (join : Join) (leftKey rightKey : String) (left right : QueryResult) : List Row :=
  let index := Index.ofRows rightKey right.rows
  let joined := left.rows.foldl
    (join.addLeft index leftKey (.ofNulls right.columns)) #[]
  if join.joinType.keepsRight then
    let leftKeys := Index.ofRows leftKey left.rows
    (right.rows.foldl (join.addRight leftKeys rightKey (.ofNulls left.columns)) joined).toList
  else joined.toList

/-- The joined rows of two results. The join column of the left side is looked for
    first. -/
def run (join : Join) (left right : QueryResult) : Outcome (List Row) := do
  let leftKey ← resolveColumn left.columns join.leftColumn (Backend.name .warehouse)
  let rightKey ← resolveColumn right.columns join.rightColumn (Backend.name .transactional)
  return join.rows leftKey rightKey left right

end Join

end SqlGateway
