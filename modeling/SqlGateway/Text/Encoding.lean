/-!
# Characters in bytes

Bytes stand for characters in units of one, two or four bytes. Bytes that are no characters
are refused with their place or, where a reader is to take every text, give way to the
replacement character. Pairs of units that stand for one character are joined, and a half of
such a pair that stands alone is shown by its escape.
-/

namespace SqlGateway.Text

/-- The character in place of what is no character. -/
def replacement : Char := '\ufffd'

/-- A way to store characters in units of one byte, or in wide units with the greater byte
    first or last. -/
inductive Encoding where
  | utf8
  | utf16 (greaterFirst : Bool)
  | utf32 (greaterFirst : Bool)
  deriving DecidableEq, Repr

/-- The name of an encoding. -/
def Encoding.name : Encoding → String
  | utf8 => "utf-8"
  | utf16 true => "utf-16-be"
  | utf16 false => "utf-16-le"
  | utf32 true => "utf-32-be"
  | utf32 false => "utf-32-le"

/-- Why bytes are no text. -/
inductive Encoding.Problem where
  /-- The last unit lacks bytes. -/
  | truncated
  /-- A unit is greater than every code point. -/
  | outOfRange
  /-- No character starts with the byte. -/
  | invalidStart
  /-- A character does not go on as it starts. -/
  | invalidContinuation
  /-- The last character lacks bytes. -/
  | unexpectedEnd
  deriving DecidableEq, Repr

/-- Bytes that are no text: a problem, its place and the bytes there. -/
structure Encoding.Error where
  /-- What is wrong. -/
  problem : Encoding.Problem
  /-- Number of bytes before the problem. -/
  position : Nat
  /-- The bytes that are no character. -/
  bytes : List Nat
  deriving DecidableEq, Repr

/-- The wording of a problem. -/
def Encoding.Problem.describe : Encoding.Problem → String
  | truncated => "truncated data"
  | outOfRange => "code point not in range(0x110000)"
  | invalidStart => "invalid start byte"
  | invalidContinuation => "invalid continuation byte"
  | unexpectedEnd => "unexpected end of data"

/-- Two hexadecimal digits of a byte. -/
def hexByte (byte : Nat) : String :=
  .ofList [Nat.digitChar (byte / 16), Nat.digitChar (byte % 16)]

/-- The wording of an error in bytes of an encoding. -/
def Encoding.Error.describe (encoding : Encoding) (error : Encoding.Error) : String :=
  let position := error.position
  let place := match error.bytes with
    | [byte] => "byte 0x" ++ hexByte byte ++ " in position " ++ toString position
    | bytes =>
        "bytes in position " ++ toString position ++ "-" ++ toString (position + bytes.length - 1)
  "'" ++ encoding.name ++ "' codec can't decode " ++ place ++ ": " ++ error.problem.describe

/-- What may follow the first byte of a character of several bytes: how many bytes, and
    the range of the first of them. -/
def following? (lead : Nat) : Option (Nat × Nat × Nat) :=
  if 0xc2 ≤ lead ∧ lead ≤ 0xdf then some (1, 0x80, 0xbf)
  else if lead = 0xe0 then some (2, 0xa0, 0xbf)
  else if lead = 0xed then some (2, 0x80, 0x9f)
  else if 0xe1 ≤ lead ∧ lead ≤ 0xef then some (2, 0x80, 0xbf)
  else if lead = 0xf0 then some (3, 0x90, 0xbf)
  else if 0xf1 ≤ lead ∧ lead ≤ 0xf3 then some (3, 0x80, 0xbf)
  else if lead = 0xf4 then some (3, 0x80, 0x8f)
  else none

/-- The bytes that continue a character, as far as they do. -/
def continuation (count low high : Nat) : List Nat → List Nat
  | [] => []
  | byte :: rest =>
      match count with
      | 0 => []
      | count + 1 =>
          if low ≤ byte ∧ byte ≤ high then byte :: continuation count 0x80 0xbf rest else []

/-- The code point of a first byte with the bytes that continue it. -/
def joinedCode (lead : Nat) (bytes : List Nat) : Nat :=
  bytes.foldl (fun code byte => code * 64 + byte % 64)
    (lead % match bytes.length with
      | 1 => 32
      | 2 => 16
      | _ => 8)

namespace Encoding

/-- The number that bytes stand for, greatest byte first. -/
def number (bytes : List Nat) : Nat :=
  bytes.foldl (fun value byte => value * 256 + byte) 0

/-- The number of a unit. -/
def unit (greaterFirst : Bool) (bytes : List Nat) : Nat :=
  number (if greaterFirst then bytes else bytes.reverse)

/-- The code point that starts with a byte, and how many of the bytes behind it belong to it.
    Half of a pair is taken. -/
def point8 (position lead : Nat) (rest : List Nat) : Except Error (Nat × Nat) :=
  if lead < 0x80 then .ok (lead, 0)
  else
    match following? lead with
    | none => .error { problem := .invalidStart, position, bytes := [lead] }
    | some (count, low, high) =>
        let bytes := continuation count low high rest
        let half := continuation 2 0xa0 0xbf rest
        if bytes.length = count then .ok (joinedCode lead bytes, count)
        else if lead = 0xed ∧ half.length = 2 then .ok (joinedCode lead half, 2)
        else
          let problem := if bytes.length = rest.length then .unexpectedEnd else .invalidContinuation
          .error { problem, position, bytes := lead :: bytes }

/-- Code points of one byte or more from a position on. The bytes that belong to the character
    before them are passed over. -/
def units8 (passed position : Nat) : List Nat → Except Error (List Nat)
  | [] => .ok []
  | lead :: rest =>
      match passed with
      | passed + 1 => units8 passed (position + 1) rest
      | 0 => do
          let (code, count) ← point8 position lead rest
          .ok (code :: (← units8 count (position + 1) rest))

/-- Units of two bytes from a position on. -/
def units16 (greaterFirst : Bool) (position : Nat) : List Nat → Except Error (List Nat)
  | [] => .ok []
  | [byte] => .error { problem := .truncated, position, bytes := [byte] }
  | a :: b :: rest => do
      .ok (unit greaterFirst [a, b] :: (← units16 greaterFirst (position + 2) rest))

/-- Units of four bytes from a position on. -/
def units32 (greaterFirst : Bool) (position : Nat) : List Nat → Except Error (List Nat)
  | [] => .ok []
  | a :: b :: c :: d :: rest => do
      let code := unit greaterFirst [a, b, c, d]
      if 0x110000 ≤ code then
        .error { problem := .outOfRange, position, bytes := [a, b, c, d] }
      .ok (code :: (← units32 greaterFirst (position + 4) rest))
  | bytes => .error { problem := .truncated, position, bytes }

/-- The character of a code point, or the escape of half a pair. -/
def characters (code : Nat) : List Char :=
  if code.isValidChar then [Char.ofNat code] else '\\' :: 'u' :: Nat.toDigits 16 code

/-- The characters of units of two bytes. A first half joins the second half behind it. -/
def join : List Nat → List Char
  | high :: low :: rest =>
      if 0xd800 ≤ high ∧ high < 0xdc00 ∧ 0xdc00 ≤ low ∧ low < 0xe000 then
        Char.ofNat (0x10000 + (high - 0xd800) * 0x400 + (low - 0xdc00)) :: join rest
      else characters high ++ join (low :: rest)
  | [unit] => characters unit
  | [] => []

/-- The characters that bytes from a position on stand for. -/
def decode (encoding : Encoding) (position : Nat) (bytes : List Nat) :
    Except Error (List Char) :=
  match encoding with
  | utf8 => List.flatMap characters <$> units8 0 position bytes
  | utf16 greaterFirst => join <$> units16 greaterFirst position bytes
  | utf32 greaterFirst => List.flatMap characters <$> units32 greaterFirst position bytes

/-- Units of two bytes are half as many as the bytes. -/
theorem length_units16 (greaterFirst : Bool) (position : Nat) (bytes units : List Nat)
    (read : units16 greaterFirst position bytes = .ok units) :
    bytes.length = 2 * units.length := by
  fun_induction units16 greaterFirst position bytes generalizing units with
  | case1 => cases read; rfl
  | case2 => cases read
  | case3 position a b rest ih =>
    cases found : units16 greaterFirst (position + 2) rest with
    | error _ => simp [found, bind, Except.bind] at read
    | ok others =>
      simp only [found, bind, Except.bind, Except.ok.injEq] at read
      subst read
      simp [ih others found]
      omega

end Encoding

/-- The characters that bytes stand for one after another. What breaks off gives way to
    one replacement character. -/
def decodeLoosely : List Nat → List Char
  | [] => []
  | lead :: rest =>
      if lead < 0x80 then Char.ofNat lead :: decodeLoosely rest
      else
        match following? lead with
        | none => replacement :: decodeLoosely rest
        | some (count, low, high) =>
            let bytes := continuation count low high rest
            (if bytes.length = count then Char.ofNat (joinedCode lead bytes) else replacement)
              :: decodeLoosely (rest.drop bytes.length)
  termination_by bytes => bytes.length

/-- The bytes of a text. -/
def utf8 (text : String) : List UInt8 :=
  text.toUTF8.data.toList

/-- The numbers of the bytes of a text. -/
def bytesOf (text : String) : List Nat :=
  (utf8 text).map UInt8.toNat

end SqlGateway.Text
