/-!
# Sources

The gateway serves two databases: a warehouse and a transactional server. A query
is answered by one of them or, when it names tables of both, by a join of the two.
-/

namespace SqlGateway

/-- One of the two databases behind the gateway. -/
inductive Backend where
  | warehouse
  | transactional
  deriving DecidableEq, Repr

namespace Backend

/-- The name under which answers and snapshot files mention the backend. -/
def name : Backend → String
  | warehouse => "redshift"
  | transactional => "sqlserver"

/-- The name by which messages mention the backend. -/
def label : Backend → String
  | warehouse => "Redshift"
  | transactional => "SQL Server"

/-- The prefix that marks tables of the backend in a query. -/
def marker : Backend → String
  | warehouse => "rs"
  | transactional => "ss"

/-- What the backend is in a join. -/
def role : Backend → String
  | warehouse => "warehouse"
  | transactional => "transactional"

/-- Both backends, the warehouse first, as every operation on both visits them. -/
def all : List Backend := [warehouse, transactional]

/-- There is no other backend. -/
theorem mem_all (backend : Backend) : backend ∈ all := by
  cases backend <;> decide

/-- Of two different backends each one is either. -/
theorem mem_pair {first second : Backend} (different : first ≠ second) (backend : Backend) :
    backend ∈ [first, second] := by
  revert different
  cases first <;> cases second <;> cases backend <;> decide

end Backend

/-- Where the answer to a query comes from. -/
inductive Source where
  | backend (backend : Backend)
  | cross
  deriving DecidableEq, Repr

namespace Source

/-- The name under which answers mention the source. -/
def name : Source → String
  | backend b => b.name
  | cross => "cross"

/-- The backend of a source that is served by one alone. -/
def backend? : Source → Option Backend
  | backend b => some b
  | cross => none

/-- All sources in the order in which messages list them. -/
def all : List Source := [backend .warehouse, backend .transactional, cross]

/-- The source of a given name. -/
def ofName? (name : String) : Option Source :=
  all.find? (·.name == name)

/-- Reading the name of a source gives the source back. -/
theorem ofName?_name (source : Source) : ofName? source.name = some source := by
  cases source with
  | backend b => cases b <;> decide
  | cross => decide

end Source

end SqlGateway
