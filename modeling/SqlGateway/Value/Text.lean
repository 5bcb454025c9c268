import SqlGateway.Binary64.Decimal
import SqlGateway.Text.Quoted
import SqlGateway.Value.Basic

/-!
# Texts of values

Each value has a text, by which join columns are compared and which messages quote. A
value inside a list or a map is written so that its kind can be told: texts are quoted
and the rarer kinds are named.
-/

namespace SqlGateway

/-- Numbers of answers: between 0.0001 and ten to the sixteenth without exponent, and an
    exponent with its sign and two digits at least. -/
def Value.numberFormat : Binary64.Format :=
  { leastPlain := -4, greatestPlain := 15, plusSign := true, exponentDigits := 2
    nan := "nan", infinity := "inf" }

/-- A text in quotes. -/
def Text.quotedString (text : String) : String :=
  .ofList (Text.quoted text.toList)

namespace Value

/-- The text of a value inside another one. -/
def nested : Value → String
  | null => "None"
  | bool value => if value then "True" else "False"
  | int value => toString value
  | float value => value.text numberFormat
  | string text => Text.quotedString text
  | bytes content => .ofList (Text.quotedBytes content)
  | byteBuffer content => "bytearray(" ++ .ofList (Text.quotedBytes content) ++ ")"
  | decimal text => "Decimal('" ++ text ++ "')"
  | uuid text => "UUID('" ++ text ++ "')"
  | .date day => day.nested
  | dateTime moment => moment.nested
  | .time clock => clock.nested
  | foreign text => text
  | list elements => "[" ++ ", ".intercalate (nestedElements elements) ++ "]"
  | map entries => "\x7b" ++ ", ".intercalate (nestedEntries entries) ++ "\x7d"
where
  /-- The texts of the elements of a list. -/
  nestedElements : List Value → List String
    | [] => []
    | element :: rest => nested element :: nestedElements rest
  /-- The texts of the entries of a map. -/
  nestedEntries : List (String × Value) → List String
    | [] => []
    | (key, value) :: rest =>
        (Text.quotedString key ++ ": " ++ nested value) :: nestedEntries rest

/-- The text of a value. -/
def text : Value → String
  | string text | decimal text | uuid text | foreign text => text
  | .date day => day.iso
  | dateTime moment => moment.iso " "
  | .time clock => clock.iso
  | value => value.nested

end Value

end SqlGateway
