import SqlGateway.Text.Encoding
import SqlGateway.Text.Quoted

/-!
# Targets of requests

What a request asks for: a path and parameters. A client is given a target as a text. It
puts the path in order and refuses a text that is no target; bytes that are given by their
numbers stand for themselves.
-/

namespace SqlGateway.Http

/-- The path and the parameters of a request. -/
structure Target where
  /-- The path, decoded. -/
  path : String
  /-- The parameters in order, decoded. -/
  parameters : List (String × String)
  deriving DecidableEq, Repr

/-- The number of a hexadecimal digit, given by its byte. -/
def hexDigit? (byte : Nat) : Option Nat :=
  if 48 ≤ byte ∧ byte ≤ 57 then some (byte - 48)
  else if 65 ≤ byte ∧ byte ≤ 70 then some (byte - 55)
  else if 97 ≤ byte ∧ byte ≤ 102 then some (byte - 87)
  else none

/-- Bytes in which those given by a percent sign and two hexadecimal digits stand for
    themselves. A percent sign without digits stays. -/
def decodeBytes : List Nat → List Nat
  | 37 :: high :: low :: rest =>
      match hexDigit? high, hexDigit? low with
      | some high, some low => (high * 16 + low) :: decodeBytes rest
      | _, _ => 37 :: decodeBytes (high :: low :: rest)
  | byte :: rest => byte :: decodeBytes rest
  | [] => []

/-- A text whose percent signs are decoded. -/
def decoded (text : String) : String :=
  .ofList (Text.decodeLoosely (decodeBytes (Text.bytesOf text)))

/-- A text cut at every mark. -/
def cutAt (mark : Char) : List Char → List (List Char)
  | [] => [[]]
  | c :: rest =>
      match cutAt mark rest with
      | [] => [[]]
      | piece :: pieces => if c = mark then [] :: piece :: pieces else (c :: piece) :: pieces

/-- The segments of a path without those that are one point, and without each one that
    two points behind it take back. The empty segment at the start is not taken back. -/
def withoutPoints (segments : List (List Char)) : List (List Char) :=
  segments.foldl (fun kept segment =>
    if segment = ['.'] then kept
    else if segment = ['.', '.'] then if kept = [[]] then kept else kept.dropLast
    else kept ++ [segment]) []

/-- The path as its client sends it: without points as segments. -/
def tidyPath (path : List Char) : String :=
  let text := "/".intercalate ((withoutPoints (cutAt '/' path)).map String.ofList)
  if text.isEmpty then "/" else text

/-- Whether a character may stand in the name of a scheme. -/
def isSchemeCharacter (c : Char) : Bool :=
  c.isAlphanum || c == '+' || c == '.' || c == '-'

/-- The name of a scheme, which ends with a colon and may be empty, and what stands behind
    it. -/
def splitScheme (text : List Char) : List Char × List Char :=
  let scheme := text.takeWhile isSchemeCharacter
  match text.drop scheme.length with
  | ':' :: rest =>
      if (scheme.head?.map Char.isAlpha).getD true then (scheme, rest) else ([], text)
  | _ => ([], text)

/-- The name of a host, which stands behind two slashes, and what stands behind it. -/
def splitHost : List Char → List Char × List Char
  | '/' :: '/' :: rest => (rest.takeWhile (· != '/'), rest.dropWhile (· != '/'))
  | path => ([], path)

/-- Why a text is no target. -/
inductive Target.Problem where
  | tooLong
  /-- A control character, and the number of characters before it. -/
  | control (character : Char) (position : Nat)
  /-- A path without a host starts with two slashes. -/
  | doubleSlash
  /-- A path without a host starts with a colon. -/
  | colon
  deriving DecidableEq, Repr

/-- The wording of a problem. -/
def Target.Problem.describe : Target.Problem → String
  | tooLong => "URL too long"
  | control c position =>
      "Invalid non-printable ASCII character in URL, " ++ String.ofList (Text.quoted [c])
        ++ " at position " ++ toString position ++ "."
  | doubleSlash => "Relative URLs cannot have a path starting with '//'"
  | colon => "Relative URLs cannot have a path starting with ':'"

/-- Whether a character is a control character of ASCII. -/
def isControl (c : Char) : Bool :=
  c.toNat < 32 || c.toNat == 127

/-- The greatest number of characters of a target. -/
def Target.longest : Nat := 65536

/-- The path of a target. One with scheme and host is whole; any other is put behind the
    one slash that is the path of the service. -/
def pathOf (text : List Char) : Except Target.Problem String :=
  let (scheme, rest) := splitScheme text
  let (host, path) := splitHost rest
  if scheme.isEmpty && host.isEmpty && ['/', '/'].isPrefixOf path then .error .doubleSlash
  else if scheme.isEmpty && host.isEmpty && [':'].isPrefixOf path then .error .colon
  else if scheme.isEmpty || host.isEmpty then .ok (tidyPath ('/' :: path.dropWhile (· == '/')))
  else .ok (tidyPath path)

/-- A parameter: its name up to the first equals sign, and its value. A plus sign is a
    space. -/
def parameterOf (piece : List Char) : String × String :=
  let text := piece.map fun c => if c = '+' then ' ' else c
  let name := text.takeWhile (· != '=')
  (decoded (.ofList name), decoded (.ofList (text.drop (name.length + 1))))

/-- The parameters of a query. -/
def parametersOf (query : List Char) : List (String × String) :=
  ((cutAt '&' query).filter (!·.isEmpty)).map parameterOf

/-- The target that a client was given as a text, with other parameters in place of those
    of the text if there are any. -/
def Target.ofText (text : String) (parameters : Option (List (String × String))) :
    Except Target.Problem Target := do
  let text := text.toList
  if Target.longest < text.length then .error .tooLong
  let printable := text.takeWhile (!isControl ·)
  if let some c := (text.drop printable.length).head? then
    .error (.control c printable.length)
  let whole := text.takeWhile (· != '#')
  let before := whole.takeWhile (· != '?')
  let path ← pathOf before
  return {
    path := decoded path
    parameters := parameters.getD (parametersOf (whole.drop (before.length + 1))) }

/-- Cutting a text loses only the marks. -/
theorem intercalate_cutAt (mark : Char) (text : List Char) :
    [mark].intercalate (cutAt mark text) = text := by
  have nonempty : ∀ text, cutAt mark text ≠ [] := by
    intro text
    cases text with
    | nil => simp [cutAt]
    | cons c rest => unfold cutAt; split <;> (try split) <;> simp
  induction text with
  | nil => rfl
  | cons c rest ih =>
    cases pieces : cutAt mark rest with
    | nil => exact absurd pieces (nonempty rest)
    | cons piece others =>
      rw [pieces] at ih
      by_cases same : c = mark <;> cases others <;>
        simp_all [cutAt, List.intercalate, List.intersperse]

end SqlGateway.Http
