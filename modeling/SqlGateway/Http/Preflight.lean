import SqlGateway.Http.Message
import SqlGateway.Text.Blank

/-!
# Questions before a request

A browser may ask whether a page of another origin is allowed to send a request. Every
origin is, with common methods and some headers; the answer comes from outside all layers
and names what is not allowed.
-/

namespace SqlGateway.Http

/-- The methods that pages of other origins may use. -/
def allowedMethods : List String :=
  ["DELETE", "GET", "HEAD", "OPTIONS", "PATCH", "POST", "PUT"]

/-- The headers that pages of other origins may send. -/
def allowedHeaders : List String :=
  ["accept", "accept-language", "authorization", "content-language", "content-type",
    "x-correlation-id"]

/-- Whether a header is allowed, whatever the case of its name. -/
def isAllowedHeader (name : List Char) : Bool :=
  allowedHeaders.contains (.ofList (Text.trim (Text.lower name)))

/-- What a page wants that is not allowed: a method, and headers that are named in a
    row. -/
def disallowed (method : String) (headers : Option String) : List String :=
  let names := ((headers.map fun headers => cutAt ',' headers.toList)).getD []
  (if allowedMethods.contains method then [] else ["method"])
    ++ (if names.all isAllowedHeader then [] else ["headers"])

/-- The answer to such a question. -/
def preflight (method : String) (headers : Option String) : Response :=
  match disallowed method headers with
  | [] => { status := 200, body := .text "OK" }
  | wants => { status := 400, body := .text ("Disallowed CORS " ++ ", ".intercalate wants) }

/-- The answer to a request that only asks whether another one is allowed. -/
def Request.preflight? (request : Request) : Option Response :=
  if request.method == "OPTIONS" && (request.header? "Origin").isSome then
    (request.header? "Access-Control-Request-Method").map fun method =>
      preflight method (request.header? "Access-Control-Request-Headers")
  else none

/-- A method alone is allowed exactly if it is listed. -/
theorem preflight_status (method : String) :
    (preflight method none).status = if allowedMethods.contains method then 200 else 400 := by
  unfold preflight disallowed
  by_cases listed : allowedMethods.contains method <;> simp only [listed] <;> rfl

end SqlGateway.Http
