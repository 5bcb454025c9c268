import SqlGateway.Counter
import SqlGateway.Http.Message
import SqlGateway.Run

/-!
# Layers around a handler

A request passes three layers: the outer one turns failures into responses, the middle
one gives a response the name of its request, and the inner one counts requests by what
becomes of them. A failure passes the two inner layers before it is turned into a
response.
-/

namespace SqlGateway.Http

/-- Method, path and status of a request. -/
abbrev RequestLabels := String × String × Nat

variable {σ : Type}

/-- The status for a failure that belongs to one of the families with a status of their
    own. -/
def statusOf? (failure : Failure) : Option Nat :=
  if failure.isA .invalidRequest || failure.isA .federation then some 400
  else if failure.isA .backendUnavailable then some 503
  else if failure.isA .connector then some 502
  else none

/-- The response for a failure. What went wrong inside is not told. -/
def Response.ofFailure (failure : Failure) : Response :=
  match statusOf? failure with
  | some status =>
      .json status
        [("error", .string failure.fault.kind.name), ("message", .string failure.message)]
  | none =>
      .json 500
        [("error", .string "InternalServerError"),
          ("message", .string "An unexpected error occurred.")]

/-- The outer layer. Only a run that is stopped from outside still fails. -/
def contained (handler : Run σ Response) : Run σ Response := do
  match ← handler.attempt with
  | .ok response => return response
  | .error failure =>
      if failure.isA .ordinary then return .ofFailure failure else throw failure

/-- The header that names a request. -/
def correlationHeader : String := "X-Correlation-ID"

/-- The name of a request: the one its caller gave it or, if that is absent or empty, a
    new one. -/
def Request.correlation (request : Request) : Correlation :=
  match (request.header? correlationHeader).filter (!·.isEmpty) with
  | some name => .given name
  | none => .minted

/-- The middle layer. -/
def correlated (request : Request) (handler : Run σ Response) : Run σ Response := do
  let response ← handler
  return { response with correlation := some request.correlation }

/-- A failure of a handler as the layers around it see it. A handler that is stopped from
    outside leaves no response, and that is a failure of another kind. -/
def Failure.ofHandler (failure : Failure) : Failure :=
  if failure.isA .ordinary then failure else { fault := .runtime "No response returned." }

/-- The inner layer. A handler that fails counts as an error of the server. -/
def counted (method path : String) (handler : Run σ Response) :
    Run (σ × Counter RequestLabels) Response := do
  let outcome ← (handler.mapFailure Failure.ofHandler).onFirst.attempt
  let status := match outcome with
    | .ok response => response.status
    | .error _ => 500
  modify fun state => (state.1, state.2.increment (method, path, status))
  Run.ofOutcome outcome

end SqlGateway.Http
