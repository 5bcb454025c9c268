import SqlGateway.Value.Text

/-!
# Values for documents

A document carries null, booleans, numbers, texts, and lists and maps of these. Every
other value gives way to a text: bytes to hexadecimal digits, dates and times to ISO
texts, and a list or map with such a value inside to its own text.
-/

namespace SqlGateway.Value

/-- Whether a document can carry the value as it is. -/
def isCarried : Value → Bool
  | null | bool _ | int _ | float _ | string _ => true
  | bytes _ | byteBuffer _ | decimal _ | uuid _ | date _ | dateTime _ | time _ | foreign _ => false
  | list elements => allCarried elements
  | map entries => allEntriesCarried entries
where
  /-- Whether a document can carry each element. -/
  allCarried : List Value → Bool
    | [] => true
    | element :: rest => isCarried element && allCarried rest
  /-- Whether a document can carry the value of each entry. -/
  allEntriesCarried : List (String × Value) → Bool
    | [] => true
    | (_, value) :: rest => isCarried value && allEntriesCarried rest

/-- The value that stands for this one in a document. -/
def carried : Value → Value
  | bytes content | byteBuffer content => .string (.ofList (Text.hexOfBytes content))
  | .date day => .string day.iso
  | dateTime moment => .string (moment.iso "T")
  | .time clock => .string clock.iso
  | value => if value.isCarried then value else .string value.text

/-- How many values lie in one another, of which the value itself is the first. -/
def depth : Value → Nat
  | list elements => depthOfElements elements + 1
  | map entries => depthOfEntries entries + 1
  | _ => 1
where
  /-- The greatest depth of the elements of a list. -/
  depthOfElements : List Value → Nat
    | [] => 0
    | element :: rest => max (depth element) (depthOfElements rest)
  /-- The greatest depth of the values of a map. -/
  depthOfEntries : List (String × Value) → Nat
    | [] => 0
    | (_, value) :: rest => max (depth value) (depthOfEntries rest)

/-- Whether a whole number with more digits than are written is in the value. -/
def hasLongNumber : Value → Bool
  | int value => Text.isTooLong value
  | list elements => hasLongElement elements
  | map entries => hasLongEntry entries
  | _ => false
where
  /-- Whether such a number is in an element of a list. -/
  hasLongElement : List Value → Bool
    | [] => false
    | element :: rest => hasLongNumber element || hasLongElement rest
  /-- Whether such a number is in the value of an entry. -/
  hasLongEntry : List (String × Value) → Bool
    | [] => false
    | (_, value) :: rest => hasLongNumber value || hasLongEntry rest

/-- A row in which every value can be carried by a document. -/
def carriedRow {κ : Type} (row : List (κ × Value)) : List (κ × Value) :=
  row.map fun entry => (entry.1, entry.2.carried)

/-- Rows in which every value can be carried by a document. -/
def carriedRows {κ : Type} (rows : List (List (κ × Value))) : List (List (κ × Value)) :=
  rows.map carriedRow

end SqlGateway.Value
