import SqlGateway.Text.Blank
import SqlGateway.Value.Access
import SqlGateway.Value.Decimal

/-!
# Whole numbers of values

A count that a service tells may come as a number of any kind or as a text. A fraction is
cut off, and a text has to hold digits, of any script and perhaps with underscores between
them.
-/

namespace SqlGateway

/-- The whole number towards zero. Infinity and nan have none. -/
def Binary64.whole : Binary64 → Outcome Int
  | infinite _ => (Fault.overflow "cannot convert float infinity to integer").raise
  | nan => (Fault.invalidValue "cannot convert float NaN to integer").raise
  | number => .ok (number.toInt?.getD 0)

namespace Value

/-- Digits with single underscores between them. The flag says that a digit stands just
    before. -/
def isDigits (afterDigit : Bool) : List Char → Bool
  | [] => afterDigit
  | c :: rest =>
      if c = '_' then afterDigit && isDigits false rest else Text.isDigit c && isDigits true rest

/-- As much of a quoted text as a message repeats. -/
def quotedLimit : Nat := 200

/-- The whole number that a text stands for: digits with a sign or without, and with
    blanks around. Too many digits are refused before what stands behind them. `quoted` is
    the text as a message shows it. -/
def wholeOfDigits (quoted text : List Char) : Outcome Int :=
  let (negative, unsigned) := match Text.unpadded text with
    | '-' :: rest => (true, rest)
    | '+' :: rest => (false, rest)
    | rest => (false, rest)
  let digits := unsigned.takeWhile fun c => c = '_' || Text.isDigit c
  let plain := digits.filter (· != '_')
  let invalid : Outcome Int :=
    (Fault.invalidValue
      ("invalid literal for int() with base 10: " ++ String.ofList (quoted.take quotedLimit))).raise
  if !isDigits false digits then invalid
  else if Text.digitLimit < plain.length then
    (Fault.invalidValue (Text.tooManyDigits plain.length)).raise
  else if digits.length < unsigned.length then invalid
  else
    let size := Text.digitsValue plain
    .ok (if negative then -(size : Int) else size)

/-- The characters of bytes, of which only those of ASCII can be part of a number. -/
def asciiOfBytes (content : List UInt8) : List Char :=
  content.map fun byte => if byte < 128 then Char.ofNat byte.toNat else '\ufffd'

/-- The number that the hexadecimal digits of a text make, whatever stands between
    them. -/
def numberOfHex (text : String) : Nat :=
  (text.toList.filterMap fun c =>
    if c.isDigit then some (c.toNat - 48)
    else if 'a' ≤ c ∧ c ≤ 'f' then some (c.toNat - 87)
    else none).foldl (fun value digit => value * 16 + digit) 0

/-- The whole number that a value stands for. -/
def whole : Value → Outcome Int
  | int value => .ok value
  | bool value => .ok (if value then 1 else 0)
  | float value => value.whole
  | decimal text => Decimal.wholeOfText text
  | uuid text => .ok (numberOfHex text)
  | string text => wholeOfDigits (Text.quoted text.toList) text.toList
  | bytes content | byteBuffer content =>
      wholeOfDigits (Text.quotedBytes content) (asciiOfBytes content)
  | value =>
      (Fault.wrongType
        ("int() argument must be a string, a bytes-like object or a real number, not '"
          ++ value.kindName ++ "'")).raise

end Value

end SqlGateway
