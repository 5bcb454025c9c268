import SqlGateway.Binary64.Basic
import SqlGateway.Calendar
import SqlGateway.OrderedMap

/-!
# Values

What a backend stores in a field of a row or sends in an answer. Drivers return more
kinds of values than a document can carry.
-/

namespace SqlGateway

/-- A value of a backend. -/
inductive Value where
  | null
  | bool (value : Bool)
  | int (value : Int)
  | float (value : Binary64)
  | string (text : String)
  | bytes (content : List UInt8)
  /-- A string of bytes that its owner may change. -/
  | byteBuffer (content : List UInt8)
  /-- A decimal number, given by its canonical text. -/
  | decimal (text : String)
  /-- An identifier of 128 bits, given by its canonical text. -/
  | uuid (text : String)
  | date (date : Calendar.Date)
  | dateTime (moment : Calendar.DateTime)
  | time (time : Calendar.Time)
  /-- Any other value of a driver, of which only the text is known. -/
  | foreign (text : String)
  | list (elements : List Value)
  | map (entries : List (String × Value))
  deriving Repr, Inhabited

/-- A row: values by column, in the order of the columns. -/
abbrev Row := OrderedMap String Value

namespace Value

/-- The value under a key of a map; anything else has no entries. -/
def field? (key : String) : Value → Option Value
  | map entries => entries.lookup key
  | _ => none

/-- The value under a key of a map, null if there is none. -/
def field (key : String) (value : Value) : Value :=
  (value.field? key).getD .null

/-- Whether the text of a decimal number is one of zero: no other digit stands before its
    exponent. -/
def isZeroText (text : String) : Bool :=
  (text.toList.takeWhile (· != 'E')).all fun c => ['0', '.', '-', '+'].contains c

/-- Whether a value counts as present in an answer: null, false, zero and everything
    empty do not. -/
def isPresent : Value → Bool
  | null => false
  | bool value => value
  | int value => value != 0
  | float value => !value.isZero
  | string text => !text.isEmpty
  | bytes content | byteBuffer content => !content.isEmpty
  | list elements => !elements.isEmpty
  | map entries => !entries.isEmpty
  | decimal text => !isZeroText text
  | uuid _ | date _ | dateTime _ | time _ | foreign _ => true

/-- Whether a value is null. -/
def isNull : Value → Bool
  | null => true
  | _ => false

/-- Whether a value is a text. -/
def isText : Value → Bool
  | string _ => true
  | _ => false

/-- The text that a value is, if it is one. -/
def string? : Value → Option String
  | string text => some text
  | _ => none

/-- A text, or null if there is none. -/
def ofText? : Option String → Value
  | some text => string text
  | none => null

end Value

end SqlGateway
