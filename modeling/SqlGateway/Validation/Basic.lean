import SqlGateway.Json.Basic

/-!
# Validation

Documents from outside are checked field by field before anything is done with them.
Every faulty field is reported, in the order in which the fields are declared, with its
place in the document.
-/

namespace SqlGateway

/-- What is wrong with a field. -/
inductive Validation.Problem where
  | missing
  | extraForbidden
  | stringType
  | stringTooShort
  | stringUnicode
  | intType
  | intParsing
  | intTooLong
  | intFromFloat
  | finiteNumber
  | floatType
  | floatParsing
  | boolType
  | boolParsing
  | listType
  | mapType
  /-- The document is no object of the named model. -/
  | modelType (model : String)
  /-- The number is less than the least one allowed. -/
  | tooSmall (least : Int)
  /-- The value is none of the members of an enumeration. -/
  | enum (allowed : List String)
  /-- The value is none of some fixed texts. -/
  | literal (allowed : List String)
  /-- A rule about several fields is broken. -/
  | rule (text : String)
  deriving DecidableEq, Repr

/-- A problem and the names that lead to its place. -/
structure Validation.FieldError where
  /-- What is wrong. -/
  problem : Validation.Problem
  /-- Where it is wrong, from the outermost name inwards. -/
  location : List String
  deriving DecidableEq, Repr

namespace Validation

/-- Quoted names in a row, with a word before the last one. -/
def alternatives (names : List String) : String :=
  match names.reverse.map fun name => "'" ++ name ++ "'" with
  | [] => ""
  | [only] => only
  | last :: before => ", ".intercalate before.reverse ++ " or " ++ last

namespace Problem

/-- The short name of a problem. -/
def name : Problem → String
  | missing => "missing"
  | extraForbidden => "extra_forbidden"
  | stringType => "string_type"
  | stringTooShort => "string_too_short"
  | stringUnicode => "string_unicode"
  | intType => "int_type"
  | intParsing => "int_parsing"
  | intTooLong => "int_parsing_size"
  | intFromFloat => "int_from_float"
  | finiteNumber => "finite_number"
  | floatType => "float_type"
  | floatParsing => "float_parsing"
  | boolType => "bool_type"
  | boolParsing => "bool_parsing"
  | listType => "list_type"
  | mapType => "dict_type"
  | modelType _ => "model_type"
  | tooSmall _ => "greater_than_equal"
  | enum _ => "enum"
  | literal _ => "literal_error"
  | rule _ => "value_error"

/-- What the broken rule says, without the mark that it is a rule. -/
def plainMessage : Problem → String
  | missing => "Field required"
  | extraForbidden => "Extra inputs are not permitted"
  | stringType => "Input should be a valid string"
  | stringTooShort => "String should have at least 1 character"
  | stringUnicode =>
      "Input should be a valid string, unable to parse raw data as a unicode string"
  | intType => "Input should be a valid integer"
  | intParsing => "Input should be a valid integer, unable to parse string as an integer"
  | intTooLong => "Unable to parse input string as an integer, exceeded maximum size"
  | intFromFloat => "Input should be a valid integer, got a number with a fractional part"
  | finiteNumber => "Input should be a finite number"
  | floatType => "Input should be a valid number"
  | floatParsing => "Input should be a valid number, unable to parse string as a number"
  | boolType => "Input should be a valid boolean"
  | boolParsing => "Input should be a valid boolean, unable to interpret input"
  | listType => "Input should be a valid list"
  | mapType => "Input should be a valid dictionary"
  | modelType model => "Input should be a valid dictionary or instance of " ++ model
  | tooSmall least => "Input should be greater than or equal to " ++ toString least
  | enum allowed | literal allowed => "Input should be " ++ alternatives allowed
  | rule text => text

/-- The wording of a problem. -/
def message : Problem → String
  | rule text => "Value error, " ++ text
  | problem => problem.plainMessage

end Problem

end Validation

/-- The outcome of a check: a value, or every error that was found. -/
inductive Checked (α : Type) where
  | valid (value : α)
  | invalid (errors : List Validation.FieldError)
  deriving Repr

namespace Checked

/-- One problem at the place of the check. -/
def problem {α : Type} (problem : Validation.Problem) : Checked α :=
  .invalid [{ problem, location := [] }]

/-- The outcome with changed value. -/
def map {α β : Type} (change : α → β) : Checked α → Checked β
  | valid value => valid (change value)
  | invalid errors => invalid errors

/-- Two checks beside each other: the errors of both are reported. -/
def seq {α β : Type} (function : Checked (α → β)) (argument : Unit → Checked α) : Checked β :=
  match function, argument () with
  | valid change, valid value => valid (change value)
  | valid _, invalid errors => invalid errors
  | invalid errors, valid _ => invalid errors
  | invalid errors, invalid more => invalid (errors ++ more)

instance : Applicative Checked where
  pure := valid
  map := map
  seq := seq

/-- A check that goes on with the value of another one. -/
def andThen {α β : Type} (outcome : Checked α) (next : α → Checked β) : Checked β :=
  match outcome with
  | valid value => next value
  | invalid errors => invalid errors

/-- The outcome with its errors placed under a name. -/
def under {α : Type} (name : String) : Checked α → Checked α
  | valid value => valid value
  | invalid errors =>
      invalid (errors.map fun error => { error with location := name :: error.location })

/-- The outcome as a result. -/
def toExcept {α : Type} : Checked α → Except (List Validation.FieldError) α
  | valid value => .ok value
  | invalid errors => .error errors

/-- Checks of all elements of a list, each under its position. -/
def all {α β : Type} (check : α → Checked β) (elements : List α) : Checked (List β) :=
  go 0 elements
where
  /-- Checks of the elements from a position on. -/
  go (position : Nat) : List α → Checked (List β)
    | [] => valid []
    | element :: rest =>
        List.cons <$> (check element).under (toString position) <*> go (position + 1) rest

/-- A list passes with its values if each of its elements does. -/
theorem all_map {α β : Type} (check : α → Checked β) (given : β → α)
    (passes : ∀ value, check (given value) = valid value) (values : List β) :
    all check (values.map given) = valid values := by
  have fromPosition : ∀ position, all.go check position (values.map given) = valid values := by
    induction values with
    | nil => exact fun _ => rfl
    | cons value rest ih =>
      intro position
      rw [List.map_cons, all.go, passes, ih]
      rfl
  exact fromPosition 0

/-- Errors of two checks beside each other are reported in order. -/
theorem seq_invalid_invalid {α β : Type} (errors more : List Validation.FieldError) :
    (invalid errors : Checked (α → β)).seq (fun _ => invalid more) = invalid (errors ++ more) :=
  rfl

end Checked

end SqlGateway
