import SqlGateway.Json.Basic
import SqlGateway.Value.Carried

/-!
# Documents of values

The document that stands for a value. Numbers that are not finite have no place in a
document and are null there.
-/

namespace SqlGateway.Value

/-- The document of a value that can be carried; any other value gives its text. -/
def document : Value → Json
  | null => .null
  | bool value => .bool value
  | int value => .int value
  | float value => if value.isFinite then .float value else .null
  | string text => .string text
  | list elements => .array (documents elements)
  | map entries => .ofMembers (entryDocuments entries)
  | bytes content => .string (bytes content).text
  | byteBuffer content => .string (byteBuffer content).text
  | decimal text => .string text
  | uuid text => .string text
  | .date day => .string day.iso
  | dateTime moment => .string (moment.iso "T")
  | .time clock => .string clock.iso
  | foreign text => .string text
where
  /-- The documents of the elements of a list. -/
  documents : List Value → List Json
    | [] => []
    | element :: rest => document element :: documents rest
  /-- The documents of the entries of a map. -/
  entryDocuments : List (String × Value) → List (String × Json)
    | [] => []
    | (key, value) :: rest => (key, document value) :: entryDocuments rest

end SqlGateway.Value

namespace SqlGateway

/-- The document of a row, in which every value is carried. -/
def Row.document (row : Row) : Json :=
  .ofMembers ((Value.carriedRow row.toList).map fun entry => (entry.1, entry.2.document))

end SqlGateway
