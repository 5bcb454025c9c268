import SqlGateway.Text.Blank
import SqlGateway.Text.Digit

/-!
# Tokens

The lexical units of a query. Reading a text never fails: a character that starts no
other unit is a token of its own, and blanks between tokens are passed over. Each
token keeps its place, so the text of a clause can be cut out verbatim.
-/

namespace SqlGateway

open Text

/-- The kinds of lexical units. -/
inductive Token.Kind where
  /-- Text between single quotes, in which a quote is written twice. -/
  | string
  /-- A name between square brackets. -/
  | bracket
  /-- A name between double quotes. -/
  | quoted
  /-- A keyword or a plain name. -/
  | word
  /-- Digits, with digits after a point if there are any. -/
  | number
  /-- An operator or a mark of punctuation. -/
  | operator
  /-- Any other character. -/
  | other
  deriving DecidableEq, Repr

/-- A lexical unit with its place in the text. -/
structure Token where
  /-- What kind of unit it is. -/
  kind : Token.Kind
  /-- The characters of the unit. -/
  text : List Char
  /-- Number of characters before the unit. -/
  start : Nat
  deriving DecidableEq, Repr

namespace Token

/-- Number of characters up to the end of the unit. -/
def stop (token : Token) : Nat :=
  token.start + token.text.length

/-- Number of characters from behind an opening single quote through the closing one.
    A doubled quote stands for itself, unless nothing after it could close the text. -/
def stringExtent? : List Char → Option Nat
  | '\'' :: '\'' :: rest =>
      match stringExtent? rest with
      | some extent => some (extent + 2)
      | none => some 1
  | '\'' :: _ => some 1
  | _ :: rest => (stringExtent? rest).map (· + 1)
  | [] => none

/-- Number of characters through the first occurrence of a closing mark. -/
def closeExtent? (mark : Char) (text : List Char) : Option Nat :=
  (text.idxOf? mark).map (· + 1)

/-- Whether a character starts a plain name. -/
def isWordStart (c : Char) : Bool :=
  c.isAlpha || c == '_'

/-- Whether a character continues a plain name. -/
def isWordPart (c : Char) : Bool :=
  c.isAlphanum || c == '_' || c == '$' || c == '#' || c == '@'

/-- Number of characters of a plain name at the start of a text. Digits of any script
    may come before its first letter. -/
def wordExtent? (text : List Char) : Option Nat :=
  let digits := text.takeWhile isDigit
  match text.dropWhile isDigit with
  | c :: rest =>
      if isWordStart c then some (digits.length + 1 + (rest.takeWhile isWordPart).length) else none
  | [] => none

/-- Number of characters of a number at the start of a text: digits, and a point with
    further digits if a digit follows the point. -/
def numberExtent? (text : List Char) : Option Nat :=
  let whole := (text.takeWhile isDigit).length
  if whole = 0 then none
  else match text.dropWhile isDigit with
    | '.' :: rest =>
        let fraction := (rest.takeWhile isDigit).length
        some (if fraction = 0 then whole else whole + 1 + fraction)
    | _ => some whole

/-- The operators of two characters. -/
def longOperators : List (List Char) :=
  [['<', '>'], ['!', '='], ['<', '='], ['>', '='], ['|', '|']]

/-- The operators and marks of one character. -/
def shortOperators : List Char :=
  ['=', '<', '>', '*', ',', '(', ')', '.', ';', '+', '-', '/', '%']

/-- Number of characters of an operator at the start of a text. Of two operators the
    longer one is read. -/
def operatorExtent? (text : List Char) : Option Nat :=
  if longOperators.any (·.isPrefixOf text) then some 2
  else if text.head?.any (· ∈ shortOperators) then some 1
  else none

/-- Kind and length of the unit at the start of a text, without kind for a run of
    blanks. The alternatives are tried in a fixed order. -/
def lexeme (c : Char) (rest : List Char) : Option Kind × Nat :=
  if isBlank c then (none, 1 + (rest.takeWhile isBlank).length)
  else match delimited with
    | some (kind, extent) => (some kind, 1 + extent)
    | none => match wordExtent? (c :: rest) with
      | some extent => (some .word, extent)
      | none => match numberExtent? (c :: rest) with
        | some extent => (some .number, extent)
        | none => match operatorExtent? (c :: rest) with
          | some extent => (some .operator, extent)
          | none => (some .other, 1)
where
  /-- A unit between delimiters, with the number of characters behind the opening one. -/
  delimited : Option (Kind × Nat) :=
    match c with
    | '\'' => (stringExtent? rest).map (Kind.string, ·)
    | '[' => (closeExtent? ']' rest).map (Kind.bracket, ·)
    | '"' => (closeExtent? '"' rest).map (Kind.quoted, ·)
    | _ => none

/-- A plain name has at least one character. -/
theorem wordExtent?_pos {text : List Char} {extent : Nat} (read : wordExtent? text = some extent) :
    0 < extent := by
  simp only [wordExtent?] at read
  split at read
  · split at read <;> cases read
    omega
  · cases read

/-- A number has at least one character. -/
theorem numberExtent?_pos {text : List Char} {extent : Nat}
    (read : numberExtent? text = some extent) : 0 < extent := by
  simp only [numberExtent?] at read
  split at read
  · cases read
  · split at read <;> cases read
    · split <;> omega
    · omega

/-- An operator has at least one character. -/
theorem operatorExtent?_pos {text : List Char} {extent : Nat}
    (read : operatorExtent? text = some extent) : 0 < extent := by
  unfold operatorExtent? at read
  split at read
  · cases read; omega
  · split at read <;> cases read
    omega

/-- Every unit has at least one character, so reading goes on. -/
theorem lexeme_pos (c : Char) (rest : List Char) : 0 < (lexeme c rest).2 := by
  unfold lexeme
  split
  · simp only; omega
  · split
    · simp only; omega
    · split
      · next read => exact wordExtent?_pos read
      · split
        · next read => exact numberExtent?_pos read
        · split
          · next read => exact operatorExtent?_pos read
          · exact Nat.one_pos

/-- The tokens of a text that begins `start` characters into the whole. -/
def scanFrom (start : Nat) (text : List Char) : List Token :=
  match text with
  | [] => []
  | c :: rest =>
      let unit := lexeme c rest
      let later := scanFrom (start + unit.2) ((c :: rest).drop unit.2)
      match unit.1 with
      | some kind => { kind, text := (c :: rest).take unit.2, start } :: later
      | none => later
termination_by text.length
decreasing_by
  have := lexeme_pos c rest
  simp only [List.length_drop, List.length_cons]
  omega

/-- The tokens of a text. -/
def scan (text : List Char) : List Token :=
  scanFrom 0 text

/-- The token in capitals, as keywords are compared. Words are written in ASCII, apart
    from digits, which have no case. -/
def capitals (token : Token) : List Char :=
  token.text.map Char.toUpper

/-- Whether the token is a given keyword. -/
def isKeyword (keyword : String) (token : Token) : Bool :=
  token.kind == .word && token.capitals == keyword.toList

/-- Whether the token is a given operator. -/
def isOperator (operator : String) (token : Token) : Bool :=
  token.kind == .operator && token.text == operator.toList

end Token

end SqlGateway
