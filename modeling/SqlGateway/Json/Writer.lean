import SqlGateway.Binary64.Decimal
import SqlGateway.Json.Basic

/-!
# Writing documents

Documents are written with two spaces of indentation per level. Characters outside
ASCII are kept; only quotes, backslashes and control characters are escaped.
-/

namespace SqlGateway.Json

/-- Numbers of a document: small and large ones are written with an exponent that has a
    sign and as few digits as it needs, and what is no number is null. -/
def numberFormat : Binary64.Format :=
  { leastPlain := -5, greatestPlain := 15, plusSign := true, exponentDigits := 1
    nan := "null", infinity := "null" }

/-- The text of a number in a document. -/
def numberText (number : Binary64) : String :=
  if number.isFinite then number.text numberFormat else "null"

/-- A hexadecimal digit. -/
def hexDigit (value : Nat) : Char :=
  Char.ofNat (if value < 10 then 48 + value else 87 + value)

/-- A character inside quotes. -/
def escapeChar (c : Char) : List Char :=
  match c with
  | '"' => ['\\', '"']
  | '\\' => ['\\', '\\']
  | '\n' => ['\\', 'n']
  | '\r' => ['\\', 'r']
  | '\t' => ['\\', 't']
  | '\x08' => ['\\', 'b']
  | '\x0c' => ['\\', 'f']
  | c =>
      if c.toNat < 32 then
        ['\\', 'u', '0', '0', hexDigit (c.toNat / 16), hexDigit (c.toNat % 16)]
      else [c]

/-- A text in quotes. -/
def quote (text : String) : String :=
  "\"" ++ String.ofList (text.toList.flatMap escapeChar) ++ "\""

/-- How the parts of a document are set apart. -/
structure Layout where
  /-- What stands before each part at a level of nesting. -/
  line : (level : Nat) → String
  /-- What stands between a name and its value. -/
  colon : String

/-- Two spaces of indentation per level. -/
def Layout.indented : Layout :=
  { line := fun level => "\n" ++ String.ofList (List.replicate (2 * level) ' ')
    colon := ": " }

/-- All in one line, without spaces. -/
def Layout.compact : Layout :=
  { line := fun _ => "", colon := ":" }

/-- Parts between brackets, each on its line. -/
def Layout.enclose (layout : Layout) (level : Nat) (first last : String) (parts : List String) :
    String :=
  if parts.isEmpty then first ++ last
  else
    let separator := "," ++ layout.line (level + 1)
    first ++ layout.line (level + 1) ++ separator.intercalate parts ++ layout.line level ++ last

/-- The text of a document at a level of nesting. -/
def write (layout : Layout) (level : Nat) : Json → String
  | null => "null"
  | bool value => if value then "true" else "false"
  | int value => toString value
  | float value => numberText value
  | string text | brokenString text => quote text
  | array elements => layout.enclose level "[" "]" (writeElements layout (level + 1) elements)
  | object members =>
      layout.enclose level "\x7b" "\x7d" (writeMembers layout (level + 1) members)
where
  /-- The texts of the elements of an array. -/
  writeElements (layout : Layout) (level : Nat) : List Json → List String
    | [] => []
    | element :: rest => write layout level element :: writeElements layout level rest
  /-- The texts of the members of an object. -/
  writeMembers (layout : Layout) (level : Nat) : List (Name × Json) → List String
    | [] => []
    | (name, value) :: rest =>
        (quote name.text ++ layout.colon ++ write layout level value)
          :: writeMembers layout level rest

end SqlGateway.Json
