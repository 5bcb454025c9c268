import SqlGateway.Binary64.Decimal
import SqlGateway.Text.Blank
import SqlGateway.Validation.Basic
import SqlGateway.Validation.Input
import SqlGateway.Value.Decimal

/-!
# Fields

The checks for single fields. They are lenient: a number may come as a text and a truth
value as a number or a word, bytes count as the text that they spell, and a decimal number
is a number. Bytes that their owner may change are a text but no number. Nothing is read
from a value of another kind.
-/

namespace SqlGateway.Validation

variable {ι : Type} [Input ι]

/-- The text without the underscores inside it. There must be one, none at the ends and
    no two together. -/
def withoutUnderscores? (text : List Char) : Option (List Char) :=
  let doubled := (text.zip (text.drop 1)).any fun pair => pair.1 == '_' && pair.2 == '_'
  if text.head? = some '_' ∨ text.getLast? = some '_' ∨ '_' ∉ text ∨ doubled then none
  else some (text.filter (· != '_'))

/-- A text. -/
def text (input : ι) : Checked String :=
  match Input.see input with
  | .text text | .brokenText text | .bytes (some text) _ => .valid text
  | .bytes none _ => .problem .stringUnicode
  | _ => .problem .stringType

/-- A text that is not empty, and whose characters can be counted. -/
def nonemptyText (input : ι) : Checked String :=
  match Input.see input with
  | .brokenText _ => .problem .stringUnicode
  | _ => (text input).andThen fun text =>
      if text.isEmpty then .problem .stringTooShort else .valid text

/-- A number that comes as a text or as something else. What spells no text, or a text
    whose characters cannot be counted, has the same problem as a wrong text. -/
def readNumber {α : Type} (wrongText wrongKind : Problem) (ofText : String → Checked α)
    (ofOther : Seen ι → Option (Checked α)) (input : ι) : Checked α :=
  match Input.see input with
  | .text text | .bytes (some text) false => ofText text
  | .brokenText _ | .bytes none false => .problem wrongText
  | seen => (ofOther seen).getD (.problem wrongKind)

/-- The sign of a number, and the rest of its text. -/
def splitSign : List Char → Bool × List Char
  | '-' :: rest => (true, rest)
  | '+' :: rest => (false, rest)
  | rest => (false, rest)

/-- What is left of a number behind zeros, of which `before` was the last character.
    Underscores may stand between the zeros, and a minus behind them. One zero is kept if
    no digit is left. -/
def behindZeros? (before : Char) : List Char → Option (List Char)
  | [] => some [before]
  | c :: rest =>
      if c == '0' || c == '_' then behindZeros? c rest
      else if c == '.' then some (before :: c :: rest)
      else if c.isDigit || c == '-' then some (c :: rest)
      else none

/-- The text without the zeros at its start, which has to be a digit. -/
def withoutLeadingZeros? : List Char → Option (List Char)
  | '0' :: rest => behindZeros? '0' rest
  | c :: rest => if c.isDigit then some (c :: rest) else none
  | [] => none

/-- The text without a fraction that holds one zero or more and nothing else. -/
def withoutZeroFraction (text : List Char) : List Char :=
  match text.dropWhile (· != '.') with
  | '.' :: '0' :: fraction =>
      if fraction.all (· == '0') then text.takeWhile (· != '.') else text
  | _ => text

/-- The whole number of digits without a zero before them. -/
def intOfDigits (negative : Bool) (text : List Char) : Checked Int :=
  if text.isEmpty ∨ !text.all Char.isDigit ∨ Text.digitLimit < text.length
      ∨ (text.head? = some '0' ∧ 1 < text.length) then .problem .intParsing
  else
    let size := Text.digitsValue text
    .valid (if negative then -(size : Int) else size)

/-- The whole number that a text stands for without the blanks around it. It has one sign,
    before its zeros or behind them. -/
def intOfPadded (text : List Char) : Checked Int :=
  let (negative, unsigned) := splitSign (Text.unpadded text)
  match withoutLeadingZeros? unsigned with
  | none => .problem .intParsing
  | some digits =>
      let digits := withoutZeroFraction digits
      match (withoutUnderscores? digits).getD digits with
      | '-' :: digits => if negative then .problem .intParsing else intOfDigits true digits
      | digits => intOfDigits negative digits

/-- The digits with which a text starts, perhaps behind a minus, if they do not start with
    zero. -/
def leadingDigits : List Char → List Char
  | '0' :: _ | '-' :: '0' :: _ => []
  | '-' :: rest | rest => rest.takeWhile Char.isDigit

/-- The whole number that a text stands for. A text that starts with too many digits is
    refused as too long, whatever stands behind them; one with too many digits behind blanks,
    zeros or a plus is like any other wrong text. -/
def intOfText (text : String) : Checked Int :=
  let text := text.toList
  if Text.digitLimit < (leadingDigits text).length then .problem .intTooLong
  else intOfPadded text

/-- The whole number that a floating-point number equals. Only numbers of 63 bits are
    taken. -/
def intOfFloat (value : Binary64) : Checked Int :=
  match value.toInt? with
  | none => .problem .finiteNumber
  | some whole =>
      if !value.isWhole then .problem .intFromFloat
      else if -0x8000000000000000 < whole ∧ whole < 0x8000000000000000 then .valid whole
      else .problem .intTooLong

/-- The whole number that a decimal number equals. -/
def intOfDecimal (text : String) : Checked Int :=
  match Decimal.ofText? text with
  | some number =>
      if number.isWhole then .valid number.truncate else .problem .intFromFloat
  | none => .problem .finiteNumber

/-- The truth value as a number. -/
def intOfBool (value : Bool) : Int :=
  if value then 1 else 0

/-- A whole number. -/
def int (input : ι) : Checked Int :=
  input |> readNumber .intParsing .intType intOfText fun
    | .int value => some (.valid value)
    | .bool value => some (.valid (intOfBool value))
    | .float value => some (intOfFloat value)
    | .decimal text => some (intOfDecimal text)
    | _ => none

/-- The text in small letters, where only ASCII has them. -/
def asciiLower (text : List Char) : List Char :=
  text.map Char.toLower

/-- The number that a text stands for: decimal, or a word for infinity or nan. -/
def floatOfText? (text : List Char) : Option Binary64 :=
  let (negative, unsigned) := splitSign text
  let word := asciiLower unsigned
  if word = "inf".toList ∨ word = "infinity".toList then some (.infinite negative)
  else if word = "nan".toList then some .nan
  else Binary64.ofUnsigned? negative unsigned

/-- The number that a text stands for. Underscores are passed over only in a text without
    blanks around it. -/
def floatOfText (text : String) : Checked Binary64 :=
  let text := text.toList
  match floatOfText? (Text.unpadded text) <|> (withoutUnderscores? text).bind floatOfText? with
  | some value => .valid value
  | none => .problem .floatParsing

/-- The number nearest to a decimal number. One that warns of itself is not taken. -/
def floatOfDecimal? (text : String) : Option Binary64 :=
  let letters := text.toList.filter Char.isAlpha
  if letters = "NaN".toList then some .nan else floatOfText? text.toList

/-- The number nearest to a whole number, unless that is infinite. -/
def floatOfInt? (value : Int) : Option Binary64 :=
  some (.ofInt value) |>.filter Binary64.isFinite

/-- A number. -/
def float (input : ι) : Checked Binary64 :=
  input |> readNumber .floatParsing .floatType floatOfText fun
    | .float value => some (.valid value)
    | .int value => (floatOfInt? value).map .valid
    | .bool value => some (.valid (.ofInt (intOfBool value)))
    | .decimal text => (floatOfDecimal? text).map .valid
    | _ => none

/-- A number that is not negative. Nan is not taken. -/
def nonnegativeFloat (input : ι) : Checked Binary64 :=
  (float input).andThen fun number =>
    if Binary64.atMost (.zero false) number then .valid number else .problem (.tooSmall 0)

/-- A whole number that is not negative. -/
def nonnegativeInt (input : ι) : Checked Nat :=
  (int input).andThen fun number =>
    if 0 ≤ number then .valid number.toNat else .problem (.tooSmall 0)

/-- The words for false. -/
def falseWords : List String := ["0", "off", "f", "false", "n", "no"]

/-- The words for true. -/
def trueWords : List String := ["1", "on", "t", "true", "y", "yes"]

/-- The truth value that a word stands for. -/
def boolOfText (text : String) : Checked Bool :=
  let word := String.ofList (asciiLower text.toList)
  if falseWords.contains word then .valid false
  else if trueWords.contains word then .valid true
  else .problem .boolParsing

/-- The truth value that a number of 64 bits stands for. -/
def boolOfInt (value : Int) : Checked Bool :=
  if value = 0 then .valid false
  else if value = 1 then .valid true
  else if value < -0x8000000000000000 ∨ 0x8000000000000000 ≤ value then .problem .boolType
  else .problem .boolParsing

/-- The truth value that a floating-point number stands for. -/
def boolOfFloat (value : Binary64) : Checked Bool :=
  match intOfFloat value with
  | .valid whole => boolOfInt whole
  | .invalid _ => .problem .boolType

/-- A truth value. -/
def bool (input : ι) : Checked Bool :=
  input |> readNumber .boolParsing .boolType boolOfText fun
    | .bool value => some (.valid value)
    | .int value => some (boolOfInt value)
    | .float value => some (boolOfFloat value)
    | .decimal text => (floatOfDecimal? text).map boolOfFloat
    | _ => none

/-- A value or null. -/
def nullable {α : Type} (check : ι → Checked α) (input : ι) : Checked (Option α) :=
  match Input.see input with
  | .null => .valid none
  | _ => some <$> check input

/-- A list whose elements all pass a check. -/
def list {α : Type} (check : ι → Checked α) (input : ι) : Checked (List α) :=
  match Input.see input with
  | .list elements => .all check elements
  | _ => .problem .listType

/-- A member of an enumeration, given by its name. -/
def member {α : Type} (allowed : List String) (ofName? : String → Option α) (input : ι) :
    Checked α :=
  let name := match Input.see input with
    | .text text | .bytes (some text) _ => some text
    | _ => none
  match name.bind ofName? with
  | some found => .valid found
  | none => .problem (.enum allowed)

/-- One of some fixed texts. -/
def literal (allowed : List String) (input : ι) : Checked String :=
  match Input.see input with
  | .text text => if allowed.contains text then .valid text else .problem (.literal allowed)
  | _ => .problem (.literal allowed)

/-- A field that has to be there. -/
def required {α : Type} (name : String) (check : ι → Checked α) (document : ι) : Checked α :=
  match member? name document with
  | some input => (check input).under name
  | none => (Checked.problem .missing).under name

/-- A field with a value for its absence. -/
def defaulted {α : Type} (name : String) (absent : α) (check : ι → Checked α)
    (document : ι) : Checked α :=
  match member? name document with
  | some input => (check input).under name
  | none => .valid absent

/-- A field that may be null or absent. -/
def optional {α : Type} (name : String) (check : ι → Checked α) (document : ι) :
    Checked (Option α) :=
  defaulted name none (nullable check) document

/-- A document of a model, whose fields are checked if it is an object. -/
def model {α : Type} (name : String) (fields : ι → Checked α) (document : ι) : Checked α :=
  match Input.see document with
  | .object _ => fields document
  | _ => .problem (.modelType name)

/-- The members of an object that are none of the given fields are errors, in the order
    of the document. -/
def noOthers (fields : List String) (document : ι) : Checked Unit :=
  match Input.see document with
  | .object members =>
      let others := members.filterMap fun member =>
        let name := member.1
        if fields.contains name.text && !name.broken then none else some name.text
      if others.isEmpty then .valid ()
      else .invalid (others.map fun name => { problem := .extraForbidden, location := [name] })
  | _ => .valid ()

/-- A text of a backend passes as it is. -/
theorem text_string (given : String) : text (Value.string given) = .valid given := rfl

end SqlGateway.Validation
