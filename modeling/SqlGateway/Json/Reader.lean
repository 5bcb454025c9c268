import SqlGateway.Binary64.Decimal
import SqlGateway.Json.Basic

/-!
# Reading documents

A reader of JSON texts that tells what is wrong with a text, and where. Besides the
standard it takes NaN and the infinities, and it joins escaped surrogate pairs.
-/

namespace SqlGateway.Json

/-- What is wrong with a text. -/
inductive Problem where
  | value
  | propertyName
  | colon
  | comma
  | openString
  | controlCharacter
  | escape
  | unicodeEscape
  | extraData
  /-- A whole number has more digits than a number is read from. -/
  | tooManyDigits (digits : Nat)
  /-- An array lies deeper than a document is read. -/
  | deepArray
  /-- An object lies deeper than a document is read. -/
  | deepObject
  deriving DecidableEq, Repr

/-- Why a text is no document: a problem and the number of characters before it. -/
structure ReadError where
  /-- What is wrong. -/
  problem : Problem
  /-- Number of characters before the problem. -/
  offset : Nat
  /-- Line of the problem, counted from one. -/
  line : Nat
  /-- Column of the problem in its line, counted from one. -/
  column : Nat
  deriving DecidableEq, Repr

/-- The wording of a problem. -/
def Problem.describe : Problem → String
  | value => "Expecting value"
  | propertyName => "Expecting property name enclosed in double quotes"
  | colon => "Expecting ':' delimiter"
  | comma => "Expecting ',' delimiter"
  | openString => "Unterminated string starting at"
  | controlCharacter => "Invalid control character at"
  | escape => "Invalid \\escape"
  | unicodeEscape => "Invalid \\uXXXX escape"
  | extraData => "Extra data"
  | tooManyDigits digits => Text.tooManyDigits digits
  | deepArray =>
      "maximum recursion depth exceeded while decoding a JSON array from a unicode string"
  | deepObject =>
      "maximum recursion depth exceeded while decoding a JSON object from a unicode string"

/-- Whether a document is nested too deep, which is no fault of its grammar. -/
def Problem.isDepth : Problem → Bool
  | deepArray | deepObject => true
  | _ => false

/-- The wording of an error, with its place. The length of a number and the depth of a
    document are no matters of a place. -/
def ReadError.describe (error : ReadError) : String :=
  match error.problem with
  | .tooManyDigits _ | .deepArray | .deepObject => error.problem.describe
  | problem =>
      problem.describe ++ ": line " ++ toString error.line ++ " column "
        ++ toString error.column ++ " (char " ++ toString error.offset ++ ")"

/-- The error for a problem at an offset of a text. -/
def ReadError.at (problem : Problem) (text : List Char) (offset : Nat) : ReadError :=
  let before := text.take offset
  { problem, offset
    line := before.count '\n' + 1
    column := (before.reverse.takeWhile (· != '\n')).length + 1 }

namespace Reader

/-- A problem, with the number of characters from its place to the end of the text. -/
abbrev Result (α : Type) := Except (Problem × Nat) α

/-- Whether a character may stand between the parts of a document. -/
def isSpace (c : Char) : Bool :=
  c == ' ' || c == '\t' || c == '\n' || c == '\r'

/-- The text without the spaces at its start. -/
def skip (text : List Char) : List Char :=
  text.dropWhile isSpace

/-- The value of a hexadecimal digit. -/
def hexValue? (c : Char) : Option Nat :=
  if '0' ≤ c ∧ c ≤ '9' then some (c.toNat - 48)
  else if 'a' ≤ c ∧ c ≤ 'f' then some (c.toNat - 87)
  else if 'A' ≤ c ∧ c ≤ 'F' then some (c.toNat - 55)
  else none

/-- The number that four hexadecimal digits at the start of a text stand for. -/
def hex4? : List Char → Option (Nat × List Char)
  | a :: b :: c :: d :: rest => do
      let a ← hexValue? a
      let b ← hexValue? b
      let c ← hexValue? c
      let d ← hexValue? d
      some (((a * 16 + b) * 16 + c) * 16 + d, rest)
  | _ => none

/-- The character of a simple escape. -/
def simpleEscape? : Char → Option Char
  | '"' => some '"'
  | '\\' => some '\\'
  | '/' => some '/'
  | 'b' => some '\x08'
  | 'f' => some '\x0c'
  | 'n' => some '\n'
  | 'r' => some '\r'
  | 't' => some '\t'
  | _ => none

/-- Whether a number is the first half of a surrogate pair. -/
def isHighHalf (code : Nat) : Bool := 0xd800 ≤ code && code ≤ 0xdbff

/-- Whether a number is the second half of a surrogate pair. -/
def isLowHalf (code : Nat) : Bool := 0xdc00 ≤ code && code ≤ 0xdfff

/-- The code point of a unicode escape behind its letter, and the text after it. A first
    half is joined with an escaped second half that follows. The escape must not end the
    text, and a first half is joined only if the second one does not end it either. -/
def unicodeEscape (text : List Char) : Result (Nat × List Char) :=
  let failed (rest : List Char) : Problem × Nat := (.unicodeEscape, rest.length + 1)
  match hex4? text with
  | none | some (_, []) => .error (failed text)
  | some (code, rest) =>
      match isHighHalf code, rest with
      | true, '\\' :: 'u' :: second =>
          if second.length ≤ 4 then .ok (code, rest)
          else match hex4? second with
            | none => .error (failed second)
            | some (low, after) =>
                if isLowHalf low then
                  .ok (0x10000 + (code - 0xd800) * 0x400 + (low - 0xdc00), after)
                else .ok (code, rest)
      | _, _ => .ok (code, rest)

/-- The code points up to the closing quote, and the text after it. `opened` is the
    number of characters from the opening quote to the end of the text. -/
def stringCodes (opened : Nat) : (fuel : Nat) → List Char → Result (List Nat × List Char)
  | 0, _ => .error (.openString, opened)
  | fuel + 1, text =>
      match text with
      | [] => .error (.openString, opened)
      | '"' :: rest => .ok ([], rest)
      | ['\\'] => .error (.openString, opened)
      | '\\' :: 'u' :: rest => do
          let (code, rest) ← unicodeEscape rest
          let (codes, rest) ← stringCodes opened fuel rest
          .ok (code :: codes, rest)
      | '\\' :: c :: rest => do
          match simpleEscape? c with
          | none => .error (.escape, rest.length + 2)
          | some escaped =>
              let (codes, rest) ← stringCodes opened fuel rest
              .ok (escaped.toNat :: codes, rest)
      | c :: rest =>
          if c.toNat < 32 then .error (.controlCharacter, rest.length + 1)
          else do
            let (codes, rest) ← stringCodes opened fuel rest
            .ok (c.toNat :: codes, rest)

/-- Whether a number is half of a surrogate pair. -/
def isHalf (code : Nat) : Bool := isHighHalf code || isLowHalf code

/-- The characters that show a code point: itself, or the escape of half a pair. -/
def shown (code : Nat) : List Char :=
  if isHalf code then '\\' :: 'u' :: Nat.toDigits 16 code else [Char.ofNat code]

/-- The name that code points make. -/
def nameOfCodes (codes : List Nat) : Name :=
  { text := String.ofList (codes.flatMap shown), broken := codes.any isHalf }

/-- A string behind its opening quote. -/
def readString (text : List Char) : Result (Name × List Char) := do
  let (codes, rest) ← stringCodes (text.length + 1) (text.length + 1) text
  .ok (nameOfCodes codes, rest)

/-- The value that a string is. -/
def stringValue (name : Name) : Json :=
  if name.broken then .brokenString name.text else .string name.text

/-- The characters of the fraction at the start of a text: a point with digits behind
    it. -/
def fractionExtent : List Char → Nat
  | '.' :: rest =>
      let digits := (rest.takeWhile Char.isDigit).length
      if digits = 0 then 0 else digits + 1
  | _ => 0

/-- The characters of the exponent at the start of a text, which needs a digit. -/
def exponentExtent : List Char → Nat
  | c :: rest =>
      if c == 'e' || c == 'E' then
        let sign := match rest with
          | '+' :: _ | '-' :: _ => 1
          | _ => 0
        let digits := ((rest.drop sign).takeWhile Char.isDigit).length
        if digits = 0 then 0 else 1 + sign + digits
      else 0
  | [] => 0

/-- A number. A fraction or an exponent makes it a floating-point number. -/
def readNumber (text : List Char) : Result (Json × List Char) := do
  let negative := text.head? == some '-'
  let unsigned := if negative then text.drop 1 else text
  let digits ← match unsigned with
    | '0' :: _ => .ok ['0']
    | _ =>
        let digits := unsigned.takeWhile Char.isDigit
        if digits.isEmpty then .error (.value, text.length) else .ok digits
  let rest := unsigned.drop digits.length
  let fraction := fractionExtent rest
  let exponent := exponentExtent (rest.drop fraction)
  if fraction + exponent = 0 then
    if Text.digitLimit < digits.length then .error (.tooManyDigits digits.length, text.length)
    let value := Text.digitsValue digits
    .ok (.int (if negative then -(value : Int) else value), rest)
  else
    match Binary64.ofUnsigned? negative (unsigned.take (digits.length + fraction + exponent)) with
    | some value => .ok (.float value, rest.drop (fraction + exponent))
    | none => .error (.value, text.length)

/-- A word that stands for a value. -/
def word? (text : List Char) : Option (Json × List Char) :=
  let words : List (String × Json) :=
    [("null", .null), ("true", .bool true), ("false", .bool false), ("NaN", .float .nan),
      ("Infinity", .float (.infinite false)), ("-Infinity", .float (.infinite true))]
  (words.find? fun word => word.1.toList.isPrefixOf text).map fun word =>
    (word.2, text.drop word.1.length)

/-- A value that is nested in no more than some levels, and the text behind it. -/
def readValue : (fuel levels : Nat) → List Char → Result (Json × List Char)
  | 0, _, text => .error (.value, text.length)
  | fuel + 1, levels, text =>
      match text with
      | '"' :: rest => do
          let (name, rest) ← readString rest
          .ok (stringValue name, rest)
      | '[' :: rest => do
          if levels = 0 then .error (.deepArray, text.length)
          match skip rest with
          | ']' :: rest => .ok (.array [], rest)
          | rest =>
              let (elements, rest) ← readElements fuel (levels - 1) rest
              .ok (.array elements, rest)
      | '\x7b' :: rest => do
          if levels = 0 then .error (.deepObject, text.length)
          match skip rest with
          | '\x7d' :: rest => .ok (.object [], rest)
          | rest =>
              let (members, rest) ← readMembers fuel (levels - 1) rest
              .ok (.object (OrderedMap.ofList members).toList, rest)
      | text =>
          match word? text with
          | some found => .ok found
          | none => readNumber text
where
  /-- The elements of an array through its closing bracket. -/
  readElements : (fuel levels : Nat) → List Char → Result (List Json × List Char)
    | 0, _, text => .error (.value, text.length)
    | fuel + 1, levels, text => do
        let (element, rest) ← readValue fuel levels text
        match skip rest with
        | ']' :: rest => .ok ([element], rest)
        | ',' :: rest => do
            let (elements, rest) ← readElements fuel levels (skip rest)
            .ok (element :: elements, rest)
        | rest => .error (.comma, rest.length)
  /-- The members of an object through its closing brace. -/
  readMembers : (fuel levels : Nat) → List Char → Result (List (Name × Json) × List Char)
    | 0, _, text => .error (.value, text.length)
    | fuel + 1, levels, text => do
        match text with
        | '"' :: rest =>
            let (name, rest) ← readString rest
            match skip rest with
            | ':' :: rest =>
                let (value, rest) ← readValue fuel levels (skip rest)
                match skip rest with
                | '\x7d' :: rest => .ok ([(name, value)], rest)
                | ',' :: rest => do
                    let (members, rest) ← readMembers fuel levels (skip rest)
                    .ok ((name, value) :: members, rest)
                | rest => .error (.comma, rest.length)
            | rest => .error (.colon, rest.length)
        | text => .error (.propertyName, text.length)

end Reader

/-- How many arrays and objects may lie in one another. -/
def deepest : Nat := 970

/-- The document that a text stands for, with nothing but spaces around it. -/
def read (text : List Char) (levels : Nat := deepest) : Except ReadError Json :=
  let failed (error : Problem × Nat) : ReadError :=
    .at error.1 text (text.length - error.2)
  match Reader.readValue (2 * text.length + 2) levels (Reader.skip text) with
  | .error error => .error (failed error)
  | .ok (value, rest) =>
      match Reader.skip rest with
      | [] => .ok value
      | rest => .error (failed (.extraData, rest.length))

end SqlGateway.Json
