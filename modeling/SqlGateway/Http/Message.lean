import SqlGateway.Http.Target
import SqlGateway.Json.Basic
import SqlGateway.Text.Ascii
import SqlGateway.Text.LowerCase
import SqlGateway.Text.UpperCase

/-!
# Requests and responses

What comes in from the web and what goes out.
-/

namespace SqlGateway.Http

/-- A request. -/
structure Request where
  /-- The method. -/
  method : String
  /-- What is asked for. -/
  target : Target
  /-- The headers in order. -/
  headers : List (String × String) := []
  /-- The bytes of the body. -/
  body : List UInt8 := []
  deriving Repr

/-- Why a client does not send a request. -/
inductive Unsent where
  /-- The target is none. -/
  | target (problem : Target.Problem)
  /-- The name or the value of a header holds characters that are not sent. -/
  | header (outside : Text.OutsideAscii)
  deriving DecidableEq, Repr

/-- The wording of a refusal. -/
def Unsent.describe : Unsent → String
  | target problem => problem.describe
  | header outside => outside.describe

/-- The first characters outside ASCII in the names and values of headers. -/
def headerProblem? (headers : List (String × String)) : Option Text.OutsideAscii :=
  headers.findSome? fun header =>
    Text.outsideAscii? header.1.toList <|> Text.outsideAscii? header.2.toList

/-- The request that a client sends. It writes the method in capitals, and parameters that
    it is given replace those of the target. -/
def Request.ofClient (method target : String) (parameters : Option (List (String × String)))
    (headers : List (String × String)) (body : String) : Except Unsent Request := do
  let target ← (Target.ofText target parameters).mapError .target
  match headerProblem? headers with
  | some outside => .error (.header outside)
  | none => return { method := method.upperCase, target, headers, body := Text.utf8 body }

/-- The value of a parameter. Of repeated ones the last counts. -/
def Request.parameter? (request : Request) (name : String) : Option String :=
  request.target.parameters.reverse.lookup name

/-- The value of a header, whose name is compared without regard to case. -/
def Request.header? (request : Request) (name : String) : Option String :=
  (request.headers.find? fun header => header.1.lowerCase == name.lowerCase).map Prod.snd

/-- What a response says. -/
inductive Body where
  | document (document : Json)
  | text (text : String)
  deriving Repr

/-- The name by which a caller finds its request in the logs. -/
inductive Correlation where
  /-- The caller gave the name. -/
  | given (name : String)
  /-- The name was made up. -/
  | minted
  deriving DecidableEq, Repr

/-- A response. -/
structure Response where
  /-- The status. -/
  status : Nat
  /-- What it says. -/
  body : Body
  /-- The name of the request, if the response carries it. -/
  correlation : Option Correlation := none
  deriving Repr

/-- A response with a document. -/
def Response.json (status : Nat) (members : List (String × Json)) : Response :=
  { status, body := .document (.ofMembers members) }

end SqlGateway.Http
