import SqlGateway.Connector

/-!
# The client of the transactional server

Every query is run in a transaction of its own on a connection of the pool. The
transaction is committed when the whole result has been read, and rolled back when the
query fails.
-/

namespace SqlGateway

namespace Transactional

/-- What becomes of a transaction. -/
inductive Reply where
  /-- The query answers with records under these names. -/
  | selected (names : List Value) (records : List (List Value))
  /-- The query answers with the number of rows that it changed. -/
  | changed (rowCount : Value)
  /-- The query fails. -/
  | failed (fault : Fault)
  /-- The transaction cannot begin. -/
  | refused (fault : Fault)
  deriving Repr

/-- What happens on a connection. -/
inductive Event where
  /-- A query is sent, with no parameters looked for in it. -/
  | execute (sql : String)
  /-- The transaction is committed. -/
  | commit
  /-- The transaction is rolled back. -/
  | rollback
  /-- The transaction did not begin. -/
  | refused
  deriving DecidableEq, Repr

/-- An engine on states of any kind: it gives every query a transaction. -/
structure Engine (σ : Type) where
  /-- What becomes of a query's transaction, and the state after it. -/
  transact : String → σ → Reply × σ

/-- A session: the state of the engine and all events so far. -/
structure Session (σ : Type) where
  /-- The state of the engine. -/
  state : σ
  /-- The events so far. -/
  events : Array Event := #[]

/-- A number of changed rows that is not below zero. -/
def countOfRows (rowCount : Value) : Outcome Value := do
  match rowCount.number? with
  | some number =>
      if ← number.isBefore rowCount.isDecimal (.whole 0) then return .int 0 else return rowCount
  | none =>
      (Fault.wrongType ("'>' not supported between instances of 'int' and '" ++ rowCount.kindName
        ++ "'")).raise

/-- The result of a transaction. -/
def Reply.result (sql : String) : Reply → Outcome QueryResult
  | selected names records => do
      let columns ← Column.ofNames names
      let rows := records.map (BackendRow.ofRecord columns)
      return { columns, rows, rowCount := .int rows.length, sql }
  | changed rowCount => do
      return { columns := [], rows := [], rowCount := ← countOfRows rowCount, sql }
  | failed fault | refused fault => fault.raise

/-- The events of a transaction. It is committed if it has a result. -/
def Reply.events (sql : String) (reply : Reply) : List Event :=
  match reply, reply.result sql with
  | refused _, _ => [.refused]
  | _, .ok _ => [.execute sql, .commit]
  | _, .error _ => [.execute sql, .rollback]

/-- A failure of a transaction as its caller sees it. Faults of the machine pass. -/
def ofTransaction (failure : Failure) : Failure :=
  match failure.fault with
  | .poolTimeout message =>
      failure.leadingTo
        (.backendUnavailable ("SQL Server connection pool exhausted: " ++ message))
  | .engineDriver message true =>
      failure.leadingTo (.backendUnavailable ("SQL Server is unavailable: " ++ message))
  | .engineDriver message false | .engine message =>
      failure.leadingTo (.connector ("SQL Server query error: " ++ message))
  | _ => failure

/-- The query that lists the tables. -/
def schemaQuery : String :=
  "\n        SELECT s.name AS schema_name, t.name AS table_name\n"
    ++ "        FROM sys.schemas s\n"
    ++ "        JOIN sys.tables t ON s.schema_id = t.schema_id\n"
    ++ "        ORDER BY s.name, t.name\n    "

/-- The value in a column that a row has to have. -/
def entryIn (column : String) (row : BackendRow) : Outcome Value :=
  match row.get? column with
  | some name => .ok name
  | none => (Fault.missingKey (some column)).raise

/-- The tables that rows list, with their schemas. -/
def readTables (rows : List BackendRow) : Outcome (List (Value × Value)) :=
  rows.mapM fun row => do
    let schema ← (← entryIn "schema_name" row).asName
    return (schema, ← entryIn "table_name" row)

namespace Engine

variable {σ : Type}

/-- Runs a query in a transaction of its own. -/
def run (engine : Engine σ) (sql : String) : Run (Session σ) QueryResult :=
  ExceptT.mk fun session =>
    let (reply, state) := engine.transact sql session.state
    (reply.result sql, { state, events := session.events ++ reply.events sql })

/-- Runs a query, with failures that the caller can rely on. -/
def execute (engine : Engine σ) : String → Run (Session σ) QueryResult :=
  Connector.guarded fun sql => (engine.run sql).mapFailure ofTransaction

/-- Lists the tables. -/
def schemaMap (engine : Engine σ) : Run (Session σ) SchemaListing := do
  let result ← engine.execute schemaQuery
  Run.ofOutcome do SchemaListing.ofTables (← readTables result.rows)

/-- The connector of the transactional server. -/
def connector (engine : Engine σ) : Connector (Session σ) :=
  { execute := engine.execute
    test := Connector.tested .transactional engine.execute
    schemaMap := engine.schemaMap }

/-- A transaction is ended once it has begun. -/
theorem events_run (engine : Engine σ) (sql : String) (session : Session σ) :
    ((engine.run sql).run session).2.events =
      session.events ++ (engine.transact sql session.state).1.events sql :=
  rfl

end Engine

end Transactional

end SqlGateway
