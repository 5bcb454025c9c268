import SqlGateway.Gateway
import SqlGateway.Http.Document
import SqlGateway.Http.Layers
import SqlGateway.Http.Preflight
import SqlGateway.Http.Route
import SqlGateway.Json.Load
import SqlGateway.QueryRequest

/-!
# The service on the web

Every route hands its request to the gateway and puts the answer into a response.
-/

namespace SqlGateway.Http

open Validation

variable {α β : Type}

/-- A parameter behind the path. -/
def Request.parameter {γ : Type} (request : Request) (name : String) (absent : γ)
    (check : Json → Checked γ) : Checked γ :=
  match request.parameter? name with
  | some text => ((check (.string text)).under name).under "query"
  | none => .valid absent

/-- What is wrong with a parameter. -/
def parameterDocument (request : Request) (error : FieldError) : Json :=
  let input := (error.location.getLast?.bind request.parameter?).getD ""
  let allowed := match error.problem with
    | .literal allowed => [("ctx", Json.ofMembers [("expected", .string (alternatives allowed))])]
    | _ => []
  .ofMembers ([("type", .string error.problem.name),
    ("loc", .array (error.location.map .string)),
    ("msg", .string error.problem.message),
    ("input", .string input)] ++ allowed)

/-- Answers with the value of a parameter, or tells what is wrong with it. -/
def withParameter {σ γ : Type} (request : Request) (checked : Checked γ)
    (answer : γ → Run σ Response) : Run σ Response :=
  match checked with
  | .valid value => answer value
  | .invalid errors =>
      return .json 422 [("detail", .array (errors.map (parameterDocument request)))]

/-- The parameter that names a backend. -/
def sourceParameter (request : Request) : Checked (Option Source) :=
  let name := request.parameter "source" none fun value =>
    some <$> literal (Backend.all.map Backend.name) value
  (fun name : Option String => name.bind Source.ofName?) <$> name

/-- How many values of a response may lie in one another. -/
def deepestValue : Nat := 255

/-- Whether a value of a row is nested too deep for a response. -/
def isTooDeep (row : Row) : Bool :=
  row.values.any fun value => deepestValue < value.carried.depth

/-- Whether a value of a row holds a number that is too long for a response. -/
def isTooLong (row : Row) : Bool :=
  row.values.any fun value => value.carried.hasLongNumber

/-- The response with an answer. It cannot be written if the number of rows or a number in a
    row is too long, or if a value is nested too deep. -/
def answerResponse (answer : Answer) : Outcome Response :=
  if Text.isTooLong answer.rowCount || answer.rows.any isTooLong then
    (Fault.invalidValue Text.tooLongToWrite).raise
  else if answer.rows.any isTooDeep then
    (Fault.invalidValue "Circular reference detected (depth exceeded)").raise
  else .ok (.json 200 (answerDocument answer))

/-- Answers the query of a request. Whatever goes wrong with the request or the query is
    told in the same form. -/
def execute (gateway : Gateway α β) (request : Request) : Run (Gateway.State α β) Response := do
  let outcome ← Run.attempt do
    let document ← Run.ofOutcome (Json.loadBytes request.body)
    let query ← Run.ofOutcome (QueryRequest.ofDocument document).outcome
    gateway.execute query.statement
  match outcome with
  | .ok answer => Run.ofOutcome (answerResponse answer)
  | .error failure =>
      if failure.isA .ordinary then return .json 400 (noAnswerDocument (reasonOf failure))
      else throw failure

/-- The response of a route. -/
def respond (gateway : Gateway α β) (request : Request) :
    Route → Run (Gateway.State α β) Response
  | .execute => execute gateway request
  | .schema =>
      withParameter request (request.parameter "refresh" false bool) fun refresh => do
        return .json 200 (schemaDocument (← gateway.unifiedSchema refresh))
  | .snapshots =>
      withParameter request (sourceParameter request) fun source => do
        return .json 200 [("status", .string "success"),
          ("cache", perSource infoDocument (← Gateway.snapshotInfo source))]
  | .clearSnapshots =>
      withParameter request (sourceParameter request) fun source => do
        return .json 200 [("status", .string "success"),
          ("cleared", perSource Json.bool (← Gateway.clearSnapshots source))]
  | .health => do
      return .json 200 (healthDocument (← gateway.health))
  | .help => return .json 200 helpDocument
  | .liveness => return .json 200 [("status", .string "ok")]
  | .metrics => return .json 200 metricsDocument

/-- The response at the end of a request's way. -/
def arrive (gateway : Gateway α β) (request : Request) :
    Destination → Run (Gateway.State α β) Response
  | .route route => respond gateway request route
  | .wrongMethod _ => return .json 405 [("detail", .string "Method Not Allowed")]
  | .slashed => return { status := 307, body := .text "" }
  | .unknown => return .json 404 [("detail", .string "Not Found")]

/-- The gateway's state and the count of requests. -/
abbrev State (α β : Type) := Gateway.State α β × Counter RequestLabels

/-- The response as its caller gets it. A request for the head alone gets no body. -/
def Response.sent (method : String) (response : Response) : Response :=
  if method == "HEAD" then { response with body := .text "" } else response

/-- Answers a request. Questions before a request do not reach the layers. -/
def answer (gateway : Gateway α β) (request : Request) : Run (State α β) Response :=
  let path := request.target.path
  let destination := Destination.find request.method path
  match request.preflight? with
  | some response => return response
  | none =>
      Response.sent request.method <$>
        contained (correlated request
          (counted request.method (destination.label path)
            (arrive gateway request destination)))

end SqlGateway.Http
