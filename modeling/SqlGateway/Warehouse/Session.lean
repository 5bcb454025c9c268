import SqlGateway.Run
import SqlGateway.Value.Access

/-!
# Sessions with the warehouse

The warehouse is asked through a service: every request is answered with a value or a
fault, and time passes meanwhile. Nothing is assumed about the service but that it is
some machine with a clock; a session remembers what it was asked.
-/

namespace SqlGateway.Warehouse

/-- What the service can be asked to do. -/
inductive Operation where
  | executeStatement
  | describeStatement
  | getStatementResult
  | cancelStatement
  | listTables
  deriving DecidableEq, Repr

/-- The name of an operation. -/
def Operation.name : Operation → String
  | executeStatement => "execute_statement"
  | describeStatement => "describe_statement"
  | getStatementResult => "get_statement_result"
  | cancelStatement => "cancel_statement"
  | listTables => "list_tables"

/-- A request: an operation with named arguments. -/
structure Request where
  /-- What is to be done. -/
  operation : Operation
  /-- The arguments by name. -/
  arguments : List (String × Value)
  deriving Repr

/-- The fault that the answer to an operation reports. An answer in which no error can be
    looked up is a fault of its own. -/
def reported (answer : Value) (operation : String) : Fault :=
  match answer.entries with
  | .error failure => failure.fault
  | .ok entries =>
      let parts := [entries.lookup "ResponseMetadata", entries.lookup "Error"].filterMap id
      match parts.mapM Value.entries with
      | .error failure => failure.fault
      | .ok _ => .service answer operation

/-- A service on states of any kind. -/
structure Service (σ : Type) where
  /-- The answer to a request, and the state after it. -/
  answer : Request → σ → Except Fault Value × σ
  /-- Seconds on the clock. -/
  clock : σ → Binary64
  /-- The state after a look at the clock. -/
  tick : σ → σ := id
  /-- The state after some seconds of rest. -/
  rest : Binary64 → σ → σ

/-- A session: the state of the service and all requests so far. -/
structure Session (σ : Type) where
  /-- The state of the service. -/
  state : σ
  /-- The requests so far. -/
  requests : Array Request := #[]

namespace Service

variable {σ : Type}

/-- Puts a request to the service and remembers it. -/
def ask (service : Service σ) (request : Request) : Run (Session σ) Value :=
  ExceptT.mk fun session =>
    let (answer, state) := service.answer request session.state
    (answer.mapError fun fault => { fault }, { state, requests := session.requests.push request })

/-- Reads the clock. -/
def now (service : Service σ) : Run (Session σ) Binary64 := do
  let session ← get
  set { session with state := service.tick session.state }
  return service.clock session.state

/-- Rests for some seconds. -/
def pause (service : Service σ) (seconds : Binary64) : Run (Session σ) Unit :=
  modify fun session => { session with state := service.rest seconds session.state }

/-- A request is remembered whatever the answer is. -/
theorem requests_ask (service : Service σ) (request : Request) (session : Session σ) :
    ((service.ask request).run session).2.requests = session.requests.push request :=
  rfl

end Service

end SqlGateway.Warehouse
