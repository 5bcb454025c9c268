import SqlGateway.Text.UpperCase
import SqlGateway.Value.Name

/-!
# Statements of the warehouse

The warehouse runs a statement in the background. Its state is asked for until it is
final, and its result is a list of records whose fields have typed slots.
-/

namespace SqlGateway.Warehouse

/-- The state of a statement, as far as it matters. -/
inductive Status where
  | running
  | finished
  | failed
  | aborted
  deriving DecidableEq, Repr

namespace Status

/-- The name of a state. -/
def name : Status → String
  | running => "RUNNING"
  | finished => "FINISHED"
  | failed => "FAILED"
  | aborted => "ABORTED"

/-- The states that do not change any more. -/
def final : List Status := [finished, failed, aborted]

/-- The state that the service names, in any case. Every state that is not final counts
    as running. -/
def ofName (name : String) : Status :=
  let capitals := name.upperCase
  (final.find? fun status => status.name == capitals).getD running

/-- The state that an answer tells. A statement about which nothing is told is running,
    and so is one whose state is told in bytes, unless their owner may change them. -/
def ofValue (value : Value) : Outcome Status :=
  if !value.isPresent then .ok running
  else
    match value with
    | .string name => .ok (ofName name)
    | .bytes _ | .byteBuffer _ => (fun _ => running) <$> value.asName
    | value => (value.lacks "upper").raise

/-- The service's names of final states are understood. -/
theorem ofName_name (status : Status) : ofName status.name = status := by
  cases status <;> decide

end Status

/-- What the service tells about a statement. -/
structure Description where
  /-- The state of the statement. -/
  status : Status
  /-- What went wrong, null if nothing did. -/
  error : Value
  /-- Whether the statement has rows to fetch. -/
  hasResult : Bool
  /-- Number of rows, or of rows changed. -/
  resultRows : Int
  deriving Repr

/-- The slots of a field in the order in which they are looked at. -/
def slots : List String :=
  ["stringValue", "longValue", "doubleValue", "booleanValue", "blobValue"]

/-- The value of a field: the first slot with a value, unless the field is marked as
    null. -/
def fieldValue (field : Value.Entries) : Value :=
  if (field.get "isNull").isPresent then .null
  else ((slots.map field.get).find? (!·.isNull)).getD .null

/-- The values of the fields of a record. -/
def recordValues (record : Value) : Outcome (List Value) := do
  (← record.parts).mapM fun field => fieldValue <$> field.entries

/-- The names of columns from a position on. A column without a name is named for its
    position. -/
def columnNames (position : Nat) : List Value.Entries → List Value
  | [] => []
  | column :: rest =>
      let name := column.get "name"
      (if name.isPresent then name else .string ("column_" ++ toString position))
        :: columnNames (position + 1) rest

end SqlGateway.Warehouse
