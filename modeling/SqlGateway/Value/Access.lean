import SqlGateway.Fault

/-!
# Values of unknown shape

A service may answer with a value of any shape. What a value does not have cannot be
asked of it: entries are looked up in maps alone, and only a value with parts can be gone
through. The fault in place of an answer names the kind of the value.
-/

namespace SqlGateway.Value

/-- The name of a value's kind in messages. -/
def kindName : Value → String
  | null => "NoneType"
  | bool _ => "bool"
  | int _ => "int"
  | float _ => "float"
  | string _ => "str"
  | bytes _ => "bytes"
  | byteBuffer _ => "bytearray"
  | decimal _ => "decimal.Decimal"
  | uuid _ => "UUID"
  | .date _ => "datetime.date"
  | dateTime _ => "datetime.datetime"
  | .time _ => "datetime.time"
  | foreign _ => "object"
  | list _ => "list"
  | map _ => "dict"

/-- The fault of a value that lacks an operation. -/
def lacks (value : Value) (operation : String) : Fault :=
  .unsupported ("'" ++ value.kindName ++ "' object has no attribute '" ++ operation ++ "'")

/-- The entries of a map. -/
abbrev Entries := List (String × Value)

/-- The value under a key, null if there is none. -/
def Entries.get (entries : Entries) (key : String) : Value :=
  (entries.lookup key).getD .null

/-- The entries of a value, which only a map has. -/
def entries : Value → Outcome Entries
  | map entries => .ok entries
  | value => (value.lacks "get").raise

/-- The value under a key that has to be there. -/
def entry (key : String) : Value → Outcome Value
  | map entries =>
      match entries.lookup key with
      | some value => .ok value
      | none => (Fault.missingKey (some key)).raise
  | list _ => (Fault.wrongType "list indices must be integers or slices, not str").raise
  | string _ => (Fault.wrongType "string indices must be integers, not 'str'").raise
  | bytes _ => (Fault.wrongType "byte indices must be integers or slices, not str").raise
  | byteBuffer _ =>
      (Fault.wrongType "bytearray indices must be integers or slices, not str").raise
  | value => (Fault.wrongType ("'" ++ value.kindName ++ "' object is not subscriptable")).raise

/-- The parts of a value one after another: elements of a list, keys of a map, characters
    of a text, numbers of bytes. -/
def parts : Value → Outcome (List Value)
  | list elements => .ok elements
  | map entries => .ok (entries.map fun entry => string entry.1)
  | string text => .ok (text.toList.map fun c => string (String.singleton c))
  | bytes content | byteBuffer content => .ok (content.map fun byte => int byte.toNat)
  | value => (Fault.wrongType ("'" ++ value.kindName ++ "' object is not iterable")).raise

/-- The parts of a value that may be left out. -/
def listed (value : Value) : Outcome (List Value) :=
  if value.isPresent then value.parts else .ok []

/-- A list is gone through whether it is empty or not. -/
theorem listed_list (elements : List Value) : (list elements).listed = .ok elements := by
  cases elements <;> rfl

end SqlGateway.Value
