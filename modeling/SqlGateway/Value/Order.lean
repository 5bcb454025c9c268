import SqlGateway.Sorting
import SqlGateway.Value.Access
import SqlGateway.Value.Number

/-!
# Equality and order of values

Values are compared by what they are worth, across kinds where that makes sense: numbers
of any kind with one another, bytes whether or not their owner may change them, moments by
universal time. Of a value of which only the text is known nothing tells that it is the
same as another one. Only values of matching kinds have an order, and a moment whose
distance from universal time is known has none with one whose distance is not.
-/

namespace SqlGateway.Value

/-- The bytes of a value that holds bytes. -/
def bytes? : Value → Option (List UInt8)
  | bytes content | byteBuffer content => some content
  | _ => none

/-- Whether two values that are not both lists or both maps are the same. -/
def sameAlone : Value → Value → Bool
  | null, null => true
  | string first, string second => first == second
  | uuid first, uuid second => first == second
  | .date first, .date second => first == second
  | dateTime first, dateTime second => first.meets second
  | .time first, .time second => first.meets second
  | first, second =>
      match first.bytes?, second.bytes?, first.number?, second.number? with
      | some first, some second, _, _ => first == second
      | _, _, some first, some second => first.equals second
      | _, _, _, _ => false

/-- Whether two values are the same. -/
def same : Value → Value → Bool
  | list first, list second => sameElements first second
  | map first, map second => first.length == second.length && sameEntries first second
  | first, second => sameAlone first second
where
  /-- Whether two lists have the same elements in the same order. -/
  sameElements : List Value → List Value → Bool
    | [], [] => true
    | first :: rest, second :: others => same first second && sameElements rest others
    | [], _ :: _ | _ :: _, [] => false
  /-- Whether all entries are among those of a map. -/
  sameEntries : List (String × Value) → List (String × Value) → Bool
    | [], _ => true
    | (key, value) :: rest, entries =>
        ((entries.lookup key).map (same value)).getD false && sameEntries rest entries

/-- The fault of two values that have no order. -/
def unordered (first second : Value) : Fault :=
  .wrongType
    ("'<' not supported between instances of '" ++ first.kindName ++ "' and '" ++ second.kindName
      ++ "'")

/-- The order of two moments, of which either both or none have a known distance from
    universal time. -/
def inTime (name : String) (first second : Option Int) (before : Bool) : Outcome Bool :=
  if first.isSome == second.isSome then .ok before
  else (Fault.wrongType ("can't compare offset-naive and offset-aware " ++ name)).raise

/-- Whether the first value is before the second, if they are not both lists. -/
def isBeforeAlone : Value → Value → Outcome Bool
  | string first, string second => .ok (decide (first < second))
  | uuid first, uuid second => .ok (decide (first < second))
  | .date first, .date second => .ok (decide (first.days < second.days))
  | dateTime first, dateTime second =>
      inTime "datetimes" first.time.offset second.time.offset
        (decide (first.instant < second.instant))
  | .time first, .time second =>
      inTime "times" first.offset second.offset (decide (first.instant < second.instant))
  | .date _, dateTime _ | dateTime _, .date _ =>
      (Fault.wrongType "can't compare datetime.datetime to datetime.date").raise
  | first, second =>
      match first.bytes?, second.bytes?, first.number?, second.number? with
      | some first, some second, _, _ => .ok (decide (first < second))
      | _, _, some one, some other => one.isBefore (first.isDecimal || second.isDecimal) other
      | _, _, _, _ => (unordered first second).raise

/-- Whether the first value is before the second. -/
def isBefore : Value → Value → Outcome Bool
  | list first, list second => isBeforeElements first second
  | first, second => isBeforeAlone first second
where
  /-- Whether the first list is before the second: the first elements that differ
      decide. -/
  isBeforeElements : List Value → List Value → Outcome Bool
    | [], [] | _ :: _, [] => .ok false
    | [], _ :: _ => .ok true
    | first :: rest, second :: others =>
        if same first second then isBeforeElements rest others else isBefore first second

/-- Whether a text is not behind another one. -/
def notBehind (first second : Value) : Bool :=
  match first, second with
  | string first, string second => decide (first ≤ second)
  | _, _ => true

/-- Items in the order of their keys. Texts always have one; for other keys every
    comparison may fail. -/
def sortedOn {α : Type} (key : α → Value) (items : List α) : Outcome (List α) :=
  if items.all fun item => (key item).isText then
    .ok (items.mergeSort fun first second => notBehind (key first) (key second))
  else Sorting.sort (fun first second => isBefore (key first) (key second)) items

/-- Values in order. -/
def sorted (values : List Value) : Outcome (List Value) :=
  sortedOn id values

/-- Only an equal text is the same as a text. -/
theorem same_string (value : Value) (text : String) :
    value.same (.string text) = (value.string? == some text) := by
  cases value <;> rfl

/-- Sorting texts never fails. -/
theorem sorted_strings (texts : List String) :
    sorted (texts.map string) = .ok ((texts.map string).mergeSort notBehind) := by
  simp [sorted, sortedOn, isText]

end SqlGateway.Value
