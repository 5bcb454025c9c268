import SqlGateway.Result
import SqlGateway.Run
import SqlGateway.SchemaMap
import SqlGateway.Source

/-!
# Connectors

What the gateway asks of a backend: to run a query, to tell whether it can be reached,
and to list its tables. Whatever an execution fails with, unless it is stopped from
outside, reaches the caller as a fault of the connectors' family.
-/

namespace SqlGateway

/-- A backend that works on a state. -/
structure Connector (σ : Type) where
  /-- Runs a query. -/
  execute : String → Run σ QueryResult
  /-- Tests the connection, and tells whether the test came to an end. -/
  test : Run σ Bool
  /-- Lists the tables. -/
  schemaMap : Run σ SchemaListing

/-- A failure of an execution as its caller sees it. -/
def Failure.ofExecution (failure : Failure) : Failure :=
  if failure.isA .connector || !failure.isA .ordinary then failure
  else failure.leadingTo (.connector ("Execution failed: " ++ failure.message))

/-- A failure of a connection test as its caller sees it. -/
def Failure.ofTest (backend : Backend) (failure : Failure) : Failure :=
  if failure.isA .connector then
    failure.leadingTo
      (.connector ("Unable to connect to " ++ backend.label ++ ": " ++ failure.message))
  else failure

namespace Connector

variable {σ : Type}

/-- The query that tests a connection. -/
def testQuery : String := "SELECT 1"

/-- An execution whose failures the caller can rely on. -/
def guarded (execute : String → Run σ QueryResult) (query : String) : Run σ QueryResult :=
  (execute query).mapFailure Failure.ofExecution

/-- A test of the connection by a query. -/
def tested (backend : Backend) (execute : String → Run σ QueryResult) : Run σ Bool :=
  Run.mapFailure (Failure.ofTest backend) do
    let _ ← execute testQuery
    return true

/-- A failure that is not stopped from outside belongs to the connectors' family once an
    execution has passed it on. -/
theorem isA_connector_ofExecution (failure : Failure) (ordinary : failure.isA .ordinary = true) :
    failure.ofExecution.isA .connector = true := by
  unfold Failure.ofExecution
  split
  · next kept => simpa [ordinary] using kept
  · rfl

end Connector

end SqlGateway
