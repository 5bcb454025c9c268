import SqlGateway.Value.Name
import Std.Data.HashSet

/-!
# Results

What a backend answers to a query, and how the columns of an answer get their names. A
backend may name its columns by any values, but no two of them by the same one.
-/

namespace SqlGateway

/-- A row as a backend gives it: values with the names of their columns, in order. -/
abbrev BackendRow := List (Value × Value)

/-- The answer of a backend to a query. -/
structure QueryResult where
  /-- The names of the columns in order. -/
  columns : List Value
  /-- The rows in order. -/
  rows : List BackendRow
  /-- The number of rows, or of rows changed by a statement without rows. -/
  rowCount : Value
  /-- The query. -/
  sql : String
  deriving Repr

namespace Column

/-- A name with a number behind it. -/
def suffixed (name : Value) (number : Nat) : String :=
  name.text ++ "_" ++ toString number

/-- The names in use, each with the number that was last put behind it, or behind a name
    that is the same. -/
abbrev Used := List (Value × Nat)

/-- The number that was last put behind a name in use. -/
def Used.number? (used : Used) (name : Value) : Option Nat :=
  (used.find? fun entry => entry.1.same name).map Prod.snd

/-- The names in use with another number for one of them. -/
def Used.setNumber (used : Used) (name : Value) (number : Nat) : Used :=
  used.map fun entry => if entry.1.same name then (entry.1, number) else entry

/-- The texts among the names in use, by which a text that is no name yet is told
    quickly. -/
def taken (used : Used) : Std.HashSet String :=
  .ofList (used.filterMap fun entry => entry.1.string?)

/-- The least number behind the last one that makes a name none of those in use. One more
    number is tried than there are names, so one of them does. -/
def freeNumber (used : Used) (name : Value) (last : Nat) : Nat :=
  let taken := taken used
  let numbers := List.range' (last + 1) (used.length + 1)
  (numbers.find? fun number => !taken.contains (suffixed name number)).getD last

/-- Names in which each one that is in use gets a number. -/
def distinctFrom (used : Used) : List Value → List Value
  | [] => []
  | name :: rest =>
      match used.number? name with
      | none => name :: distinctFrom ((name, 0) :: used) rest
      | some last =>
          let number := freeNumber used name last
          let chosen := .string (suffixed name number)
          chosen :: distinctFrom ((chosen, 0) :: used.setNumber name number) rest

/-- Names without repetition: a name that was used before gets the least number that makes
    it new and that the same name has not had yet. -/
def distinct (names : List Value) : List Value :=
  distinctFrom [] names

/-- The columns that a backend names by some values, if they can be names. -/
def ofNames (names : List Value) : Outcome (List Value) :=
  distinct <$> names.mapM Value.asName

/-- A text is taken exactly if it is the same as one of the names. -/
theorem contains_taken (used : Used) (text : String) :
    (taken used).contains text = used.any (·.1.same (.string text)) := by
  rw [taken, Std.HashSet.contains_ofList, Bool.eq_iff_iff]
  simp [Value.same_string]

/-- As many names as there were. -/
theorem length_distinctFrom (used : Used) (names : List Value) :
    (distinctFrom used names).length = names.length := by
  induction names generalizing used with
  | nil => rfl
  | cons name rest ih => cases found : used.number? name <;> simp [distinctFrom, found, ih]

end Column

/-- A row with the values of a record under the names of the columns. What is longer,
    the record or the columns, is cut off. -/
def BackendRow.ofRecord (columns record : List Value) : BackendRow :=
  columns.zip record

/-- The value of a row in the column with a text for its name. -/
def BackendRow.get? (row : BackendRow) (column : String) : Option Value :=
  (row.find? fun entry => entry.1.same (.string column)).map Prod.snd

/-- The value of a row in a column, null if the row lacks it. -/
def BackendRow.value (row : BackendRow) (column : String) : Value :=
  (row.get? column).getD .null

/-- A row with null under every column. -/
def BackendRow.ofNulls (columns : List Value) : BackendRow :=
  (Value.withoutRepeated columns).map fun column => (column, .null)

end SqlGateway
