import SqlGateway.Result
import SqlGateway.Source
import SqlGateway.Validation.Entries

/-!
# Answers

What a caller gets for a query. The columns of an answer have texts for names, and their
number of rows is a whole number; a backend's result that is otherwise gives no answer.
-/

namespace SqlGateway

/-- The answer to a query. -/
structure Answer where
  /-- The columns in order. -/
  columns : List String
  /-- The rows in order. -/
  rows : List Row
  /-- The number of rows, or of rows changed by a statement without rows. -/
  rowCount : Int
  /-- Where the answer comes from. -/
  source : Source
  deriving Repr

namespace Answer

/-- The row of an answer that a backend's row is. -/
def checkedRow (row : BackendRow) : Checked Row :=
  Validation.entries Checked.valid row

/-- The answer that a backend's result is. -/
def ofResult (backend : Backend) (result : QueryResult) : Checked Answer :=
  (fun columns rows rowCount => { columns, rows, rowCount, source := .backend backend })
    <$> (Checked.all Validation.text result.columns).under "columns"
    <*> (Checked.all checkedRow result.rows).under "rows"
    <*> (Validation.int result.rowCount).under "row_count"

/-- The answer of joined rows. The first row has the columns of all of them. -/
def ofJoined (rows : List Row) : Answer :=
  { columns := (rows.head?.map OrderedMap.keys).getD [], rows, rowCount := rows.length
    source := .cross }

/-- A row with texts for names passes the check with all of its entries. -/
theorem checkedRow_strings (entries : List (String × Value)) :
    checkedRow (entries.map fun entry => (.string entry.1, entry.2)) =
      .valid (OrderedMap.ofList entries) := by
  unfold checkedRow Validation.entries
  rw [Validation.go_strings Checked.valid id fun _ => rfl]
  show Checked.valid (OrderedMap.ofList (entries.map fun entry => (entry.1, id entry.2))) = _
  simp

/-- The number of rows of joined rows is the one that is told. -/
theorem rowCount_ofJoined (rows : List Row) : (ofJoined rows).rowCount = rows.length := rfl

end Answer

end SqlGateway
