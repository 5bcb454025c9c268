/-!
# Routes

Which path and method lead to which answer. A path that is known under another method
is told apart from an unknown one.
-/

namespace SqlGateway.Http

/-- What can be asked for. -/
inductive Route where
  /-- The answer to a query. -/
  | execute
  /-- The schema maps of both backends. -/
  | schema
  /-- What is told about the snapshots. -/
  | snapshots
  /-- The removal of snapshots. -/
  | clearSnapshots
  /-- The health of both backends. -/
  | health
  /-- How queries are written. -/
  | help
  /-- Whether the gateway itself is there. -/
  | liveness
  /-- The counters. -/
  | metrics
  deriving DecidableEq, Repr

namespace Route

/-- All routes in the order in which they are tried. -/
def all : List Route :=
  [execute, schema, snapshots, clearSnapshots, health, help, liveness, metrics]

/-- The method of a route. -/
def method : Route → String
  | execute => "POST"
  | clearSnapshots => "DELETE"
  | schema | snapshots | health | help | liveness | metrics => "GET"

/-- What comes before the paths of the service. -/
def base : String := "/api/v1"

/-- The path of a route below the base, as the counters name it. -/
def label : Route → String
  | execute => "/sqlv2/execute"
  | schema => "/sqlv2/schema"
  | snapshots | clearSnapshots => "/sqlv2/schema/cache"
  | health => "/sqlv2/health"
  | help => "/sqlv2/help"
  | liveness => "/health"
  | metrics => "/metrics"

/-- Whether a route belongs to the service and not to its surroundings. -/
def isService : Route → Bool
  | liveness | metrics => false
  | execute | schema | snapshots | clearSnapshots | health | help => true

/-- The path of a route. -/
def path (route : Route) : String :=
  if route.isService then base ++ route.label else route.label

/-- Whether a path is the one of a route. The end of a line may follow it. -/
def isAt (path : String) (route : Route) : Bool :=
  path == route.path || path == route.path ++ "\n"

/-- The name of a route in a description of the service: its first tag goes before its
    own name. -/
def identifier (name : String) (tags : List String) : String :=
  match tags with
  | [] => name
  | tag :: _ => tag ++ "-" ++ name

end Route

/-- Where a request leads. -/
inductive Destination where
  /-- To a route. -/
  | route (route : Route)
  /-- To a path that is known under other methods, first of a given route. -/
  | wrongMethod (route : Route)
  /-- To a known path with slashes behind it. -/
  | slashed
  /-- Nowhere. -/
  | unknown
  deriving DecidableEq, Repr

namespace Destination

/-- The path without slashes at its end. -/
def withoutSlashes (path : String) : String :=
  String.ofList (path.toList.reverse.dropWhile (· == '/')).reverse

/-- Where a method and a path lead. -/
def find (method path : String) : Destination :=
  match Route.all.filter (Route.isAt path) with
  | first :: rest =>
      match (first :: rest).find? (·.method == method) with
      | some found => .route found
      | none => .wrongMethod first
  | [] => if Route.all.any (Route.isAt (withoutSlashes path)) then .slashed else .unknown

/-- A path as it is read back from an address: without tabs and ends of lines, and up to
    where parameters or a fragment seem to start. -/
def readBack (path : String) : String :=
  let kept := path.toList.filter fun c => !(c == '\t' || c == '\n' || c == '\r')
  .ofList (kept.takeWhile fun c => !(c == '?' || c == '#'))

/-- The path under which a request is counted. -/
def label (destination : Destination) (path : String) : String :=
  match destination with
  | .route found | .wrongMethod found => found.label
  | .slashed | .unknown => readBack path

/-- Every route is reached by its own method and path. -/
theorem find_route (route : Route) : find route.method route.path = .route route := by
  cases route <;> decide

end Destination

end SqlGateway.Http
