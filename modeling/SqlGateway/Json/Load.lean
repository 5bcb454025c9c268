import SqlGateway.Fault
import SqlGateway.Json.Reader
import SqlGateway.Text.Encoding

/-!
# Loading documents

A document comes as a text or as the bytes of one. A mark at the start of the bytes tells how
wide its characters are. Without one the first bytes tell it, since every document starts with
a character of ASCII. A document that cannot be read is a fault; one that is nested too deep is
a fault of another kind.
-/

namespace SqlGateway.Json

/-- The fault for a text that is no document. -/
def ReadError.fault (error : ReadError) : Fault :=
  if error.problem.isDepth then .tooDeep error.describe else .invalidValue error.describe

/-- The document that a text stands for. -/
def load (text : List Char) : Outcome Json :=
  (read text).mapError fun error => { fault := error.fault }

/-- The encoding in wide units that zeros among the first bytes tell. A text of characters
    of one byte has none. -/
def wideEncoding? : List Nat → Option Text.Encoding
  | 0 :: second :: _ :: _ :: _ =>
      some (if second = 0 then .utf32 true else .utf16 true)
  | _ :: 0 :: third :: fourth :: _ =>
      some (if third = 0 ∧ fourth = 0 then .utf32 false else .utf16 false)
  | [0, _] => some (.utf16 true)
  | [_, 0] => some (.utf16 false)
  | _ => none

/-- The encoding that a mark at the start of bytes tells, and the bytes behind the mark. -/
def marked? : List Nat → Option (Text.Encoding × List Nat)
  | 0 :: 0 :: 0xfe :: 0xff :: rest => some (.utf32 true, rest)
  | 0xff :: 0xfe :: 0 :: 0 :: rest => some (.utf32 false, rest)
  | 0xfe :: 0xff :: rest => some (.utf16 true, rest)
  | 0xff :: 0xfe :: rest => some (.utf16 false, rest)
  | 0xef :: 0xbb :: 0xbf :: rest => some (.utf8, rest)
  | _ => none

/-- The characters of bytes. Places of wide characters are counted with the mark before
    them. -/
def characters (bytes : List Nat) : Outcome (List Char) :=
  let (encoding, rest) := (marked? bytes).getD ((wideEncoding? bytes).getD .utf8, bytes)
  let position := if encoding = .utf8 then 0 else bytes.length - rest.length
  (encoding.decode position rest).mapError fun error =>
    { fault := .invalidValue (error.describe encoding) }

/-- The document that bytes stand for. -/
def loadBytes (bytes : List UInt8) : Outcome Json := do
  load (← characters (bytes.map UInt8.toNat))

/-- A text that starts with two characters of ASCII other than null is no wide one. -/
theorem wideEncoding?_ascii (first second : Nat) (rest : List Nat) (one : first ≠ 0)
    (two : second ≠ 0) : wideEncoding? (first :: second :: rest) = none := by
  unfold wideEncoding?
  split <;> simp_all

end SqlGateway.Json
