import SqlGateway.Connector
import SqlGateway.Value.Whole
import SqlGateway.Warehouse.Config
import SqlGateway.Warehouse.Session
import SqlGateway.Warehouse.Statement

/-!
# The client of the warehouse

A query is submitted as a statement, which the warehouse runs in the background. Its
state is asked for until it is final or the longest wait is over, and its result is
fetched page by page, once. Waiting and paging go on for as long as the service makes
them; the client follows them for a given number of rounds.
-/

namespace SqlGateway

namespace Warehouse

/-- A submitted statement. -/
structure Handle where
  /-- The name that the service gave to the statement. -/
  id : Value
  /-- The query. -/
  sql : String := ""
  /-- Whether its result was taken. -/
  consumed : Bool := false
  deriving Repr

/-- Takes the result of a statement, which can be done once. -/
def consume : Run Handle Unit := do
  let handle ← get
  if handle.consumed then
    Run.fail (.connector
      ("Result for statement " ++ handle.id.text ++ " has already been fetched."))
  set { handle with consumed := true }

/-- What a client needs. -/
structure Client (σ : Type) where
  /-- Where the warehouse is, and how long it is waited for. -/
  config : Config
  /-- The service through which it is asked. -/
  service : Service σ
  /-- For how many rounds a wait or a list of pages is followed. -/
  patience : Nat := 1000000

/-- The codes with which the service refuses a caller. -/
def refusals : List String :=
  ["AccessDeniedException", "UnrecognizedClientException", "ExpiredTokenException"]

/-- Whether a service refuses a caller with a code. -/
def isRefusal : Value → Bool
  | .string code => refusals.contains code
  | _ => false

/-- What a service tells about an error: its message or, failing that, its text. -/
def reason (fault : Fault) (error : Value) : String :=
  let message := error.field "Message"
  if message.isPresent then message.text else fault.message

/-- A failure of a request as its caller sees it. Faults of the machine pass. -/
def ofRequest (failure : Failure) : Failure :=
  match failure.fault with
  | .endpoint _ | .credentials =>
      failure.leadingTo (.backendUnavailable ("Redshift is unavailable: " ++ failure.message))
  | .service response operation =>
      let error := Fault.serviceError response
      let reason := reason (.service response operation) error
      match (error.field "Code").asName with
      | .error nameless => nameless
      | .ok code =>
          if isRefusal code then
            failure.leadingTo (.auth ("Redshift authentication failed: " ++ reason))
          else failure.leadingTo (.connector ("Redshift query error: " ++ reason))
  | .serviceClient =>
      failure.leadingTo (.connector ("Redshift query error: " ++ failure.message))
  | _ => failure

/-- The description in an answer of the service. Rows are counted from zero. -/
def Description.ofAnswer (answer : Value) : Outcome Description := do
  let answer ← answer.entries
  let status ← Status.ofValue (answer.get "Status")
  let rows := answer.get "ResultRows"
  let count ← if rows.isPresent then rows.whole else .ok 0
  return {
    status
    error := answer.get "Error"
    hasResult := ((answer.lookup "HasResultSet").map Value.isPresent).getD true
    resultRows := max count 0 }

/-- A page of a result. -/
structure Page where
  /-- The columns, none if no page has told them yet. -/
  columns : List Value
  /-- The rows of the page. -/
  rows : List BackendRow
  /-- What asks for the page after it, if there is one. -/
  next : Value
  deriving Repr

/-- The columns that an answer describes. -/
def readColumns (answer : Value.Entries) : Outcome (List Value) := do
  let described ← (← (answer.get "ColumnMetadata").listed).mapM Value.entries
  Column.ofNames (columnNames 0 described)

/-- The page in an answer of the service. Its rows are under the columns of the first page
    that has any. -/
def Page.ofAnswer (columns : List Value) (answer : Value) : Outcome Page := do
  let answer ← answer.entries
  let columns ← if columns.isEmpty then readColumns answer else pure columns
  let records ← (← (answer.get "Records").listed).mapM recordValues
  return {
    columns, rows := records.map (BackendRow.ofRecord columns), next := answer.get "NextToken" }

/-- The argument that asks for the page after another one. -/
def pageArgument (token : Value) : List (String × Value) :=
  if token.isPresent then [("NextToken", token)] else []

/-- The schemas of the system. -/
def systemSchemas : List String := ["pg_catalog", "information_schema", "pg_internal"]

/-- Whether the tables of a schema belong to the system. -/
def isSystem : Value → Bool
  | .string schema => systemSchemas.contains schema
  | _ => false

/-- Whether an entry tells that it belongs to the system. -/
def isSystemTable (table : Value.Entries) : Bool :=
  match table.get "type" with
  | .string type => type == "SYSTEM TABLE"
  | _ => false

/-- A listed table with its schema. Tables without a schema, or of the system, are left
    out. -/
def readTable? (table : Value) : Outcome (Option (Value × Value)) := do
  let entries ← table.entries
  let schema := entries.get "schema"
  if !schema.isPresent then return none
  let schema ← schema.asName
  if isSystem schema || isSystemTable entries then return none
  return some (schema, ← table.entry "name")

/-- A page of a list of tables. -/
structure TablePage where
  /-- The tables with their schemas. -/
  tables : List (Value × Value)
  /-- What asks for the page after it, if there is one. -/
  next : Value
  deriving Repr

/-- The tables in an answer of the service. -/
def TablePage.ofAnswer (answer : Value) : Outcome TablePage := do
  let answer ← answer.entries
  let tables ← (← (answer.get "Tables").listed).mapM readTable?
  return { tables := tables.filterMap id, next := answer.get "NextToken" }

namespace Client

variable {σ : Type}

/-- Puts a request to the service. -/
def request (client : Client σ) (operation : Operation) (arguments : List (String × Value)) :
    Run (Session σ) Value :=
  (client.service.ask { operation, arguments }).mapFailure ofRequest

/-- Submits a query as a statement. -/
def submit (client : Client σ) (sql : String) : Run (Session σ) Handle := do
  let target ← Run.ofOutcome client.config.target
  let answer ← client.request .executeStatement (("Sql", .string sql) :: target)
  return { id := ← Run.ofOutcome (answer.entry "Id"), sql }

/-- Asks for the state of a statement. -/
def poll (client : Client σ) (handle : Handle) : Run (Session σ) Description := do
  Run.ofOutcome (Description.ofAnswer (← client.request .describeStatement [("Id", handle.id)]))

/-- Cancels a statement. -/
def cancel (client : Client σ) (handle : Handle) : Run (Session σ) Unit := do
  let _ ← client.request .cancelStatement [("Id", handle.id)]

/-- Ends a wait that took too long. The statement is cancelled if that is wanted, and a
    fault of the backend on the way does not matter. -/
def giveUp {α : Type} (client : Client σ) (handle : Handle) : Run (Session σ) α := do
  if client.config.cancelOnTimeout then
    match ← (client.cancel handle).attempt with
    | .ok _ => pure ()
    | .error failure => if !failure.isA .connector then throw failure
  Run.fail (.statementTimedOut "Query timeout")

/-- Waits for the final state of a statement from a moment on, for the given number of
    seconds at most. -/
def waitFrom (client : Client σ) (handle : Handle) (start longest : Binary64) :
    (patience : Nat) → Run (Session σ) Description
  | 0 => Run.fail .unfinished
  | patience + 1 => do
      let now ← client.service.now
      if !(now - start).less longest then client.giveUp handle
      else
        let description ← client.poll handle
        match description.status with
        | .finished => return description
        | .failed =>
            Run.fail (.statementFailed ("Query failed: " ++ description.error.text) handle.id
              description.error)
        | .aborted => Run.fail (.statementAborted "Query was aborted")
        | .running =>
            client.service.pause client.config.pollInterval
            client.waitFrom handle start longest patience

/-- Waits for the final state of a statement, for the given number of seconds or for as
    long as the configuration says. -/
def wait (client : Client σ) (handle : Handle) (longest : Option Binary64 := none) :
    Run (Session σ) Description := do
  let start ← client.service.now
  client.waitFrom handle start (longest.getD client.config.maxWait) client.patience

/-- The pages of a result from one on, behind the columns and rows so far. -/
def pagesFrom (client : Client σ) (handle : Handle) (token : Value) (columns : List Value)
    (rows : Array BackendRow) : (patience : Nat) → Run (Session σ) (List Value × List BackendRow)
  | 0 => Run.fail .unfinished
  | patience + 1 => do
      let answer ← client.request .getStatementResult (("Id", handle.id) :: pageArgument token)
      let page ← Run.ofOutcome (Page.ofAnswer columns answer)
      let rows := rows ++ page.rows
      if page.next.isPresent then client.pagesFrom handle page.next page.columns rows patience
      else return (page.columns, rows.toList)

/-- Fetches the result of a statement, which can be done once. -/
def fetch (client : Client σ) : Run (Session σ × Handle) QueryResult := do
  consume.onSecond
  let handle := (← get).2
  let (columns, rows) ← (client.pagesFrom handle .null [] #[] client.patience).onFirst
  return { columns, rows, rowCount := .int rows.length, sql := handle.sql }

/-- Runs a query to its end. -/
def run (client : Client σ) (sql : String) : Run (Session σ) QueryResult := do
  let handle ← client.submit sql
  let description ← client.wait handle
  if description.hasResult then Run.alongside handle client.fetch
  else
    Run.alongside handle consume.onSecond
    return { columns := [], rows := [], rowCount := .int description.resultRows, sql }

/-- Runs a query, with failures that the caller can rely on. -/
def execute (client : Client σ) : String → Run (Session σ) QueryResult :=
  Connector.guarded client.run

/-- The listed tables from a page on, behind those so far. -/
def tablesFrom (client : Client σ) (token : Value) (tables : List (Value × Value)) :
    (patience : Nat) → Run (Session σ) (List (Value × Value))
  | 0 => Run.fail .unfinished
  | patience + 1 => do
      let target ← Run.ofOutcome client.config.target
      let answer ← client.request .listTables (target ++ pageArgument token)
      let page ← Run.ofOutcome (TablePage.ofAnswer answer)
      let tables := tables ++ page.tables
      if page.next.isPresent then client.tablesFrom page.next tables patience
      else return tables

/-- Lists the tables of the users. -/
def schemaMap (client : Client σ) : Run (Session σ) SchemaListing := do
  Run.ofOutcome (SchemaListing.ofTables (← client.tablesFrom .null [] client.patience))

/-- The connector of the warehouse. -/
def connector (client : Client σ) : Connector (Session σ) :=
  { execute := client.execute
    test := Connector.tested .warehouse client.execute
    schemaMap := client.schemaMap }

end Client

end Warehouse

end SqlGateway
