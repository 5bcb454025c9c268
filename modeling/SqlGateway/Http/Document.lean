import SqlGateway.Gateway
import SqlGateway.Http.Message
import SqlGateway.Value.Document

/-!
# Documents of answers

What responses say about answers, schema maps, snapshots and health.
-/

namespace SqlGateway.Http

/-- A number that counts something. -/
def countDocument (count : Nat) : Json :=
  .int count

/-- An answer. -/
def answerDocument (answer : Answer) : List (String × Json) :=
  [("status", .string "success"),
    ("columns", .array (answer.columns.map .string)),
    ("rows", .array (answer.rows.map Row.document)),
    ("row_count", .int answer.rowCount),
    ("execution_time", countDocument 0),
    ("source", .string answer.source.name),
    ("message", .string ("Query executed successfully (" ++ toString answer.rowCount
      ++ " rows from " ++ answer.source.name ++ ")"))]

/-- Why there is no answer. -/
def noAnswerDocument (reason : String) : List (String × Json) :=
  [("status", .string "error"),
    ("columns", .array []),
    ("rows", .array []),
    ("row_count", countDocument 0),
    ("execution_time", countDocument 0),
    ("error", .string reason)]

/-- Why there is no answer, in words. What a check finds wrong is told as it is; any other
    failure that has no wording is only said to have happened. -/
def reasonOf (failure : Failure) : String :=
  match failure.fault with
  | .validation _ => failure.message
  | _ => if failure.message.isEmpty then "Query execution failed" else failure.message

/-- One document for each backend, under its name. -/
def perBackend (warehouse transactional : Json) : Json :=
  .ofMembers [(Backend.warehouse.name, warehouse), (Backend.transactional.name, transactional)]

/-- The numbers of schemas and tables. -/
def summaryDocument (tables : SchemaMap) : Json :=
  let summary := tables.summary
  .ofMembers [("schemas", countDocument summary.schemas), ("tables", countDocument summary.tables)]

/-- The schema maps of both backends. -/
def schemaDocument (schema : UnifiedSchema) : List (String × Json) :=
  let warehouse := schema.warehouse
  let transactional := schema.transactional
  [("status", .string "success"),
    ("schemas", perBackend (Snapshot.documentOfTables warehouse.tables)
      (Snapshot.documentOfTables transactional.tables)),
    ("summary", perBackend (summaryDocument warehouse.tables)
      (summaryDocument transactional.tables)),
    ("cached", perBackend (.bool warehouse.cached) (.bool transactional.cached))]

/-- What is told about a snapshot, or that there is none. -/
def infoDocument (info : Option SnapshotInfo) : Json :=
  let text (part : SnapshotInfo → String) : Json := .ofText? (info.map part)
  .ofMembers [
    ("exists", .bool info.isSome),
    ("expired", .bool ((info.map SnapshotInfo.expired).getD false)),
    ("cached_at", text SnapshotInfo.takenAt),
    ("expires_at", text SnapshotInfo.expiresAt),
    ("age", text SnapshotInfo.age),
    ("table_count", ((info.map fun info => countDocument info.tableCount).getD .null))]

/-- One document for each source, under its name. -/
def perSource {α : Type} (document : α → Json) (entries : List (Source × α)) : Json :=
  .ofMembers (entries.map fun entry => (entry.1.name, document entry.2))

/-- The health of one backend. -/
def sourceHealthDocument (health : SourceHealth) : Json :=
  .ofMembers [("connected", .bool health.connected), ("error", .ofText? health.error)]

/-- The health of both backends. -/
def healthDocument (health : Health) : List (String × Json) :=
  [("status", .string health.status),
    (Backend.warehouse.name, sourceHealthDocument health.warehouse),
    (Backend.transactional.name, sourceHealthDocument health.transactional)]

/-- How the tables of a backend are written. -/
def spelling (marker format sample : String) : Json :=
  .ofMembers [("prefix", .string marker), ("format", .string format), ("example", .string sample)]

/-- How queries are written. -/
def helpDocument : List (String × Json) :=
  [("status", .string "success"),
    ("prefixes", perBackend
      (spelling "rs." "rs.schema.table" "SELECT * FROM rs.public.customers LIMIT 10")
      (spelling "ss." "ss.schema.table or ss.[schema].table"
        "SELECT TOP 10 * FROM ss.dbo.orders")),
    ("cross_source", .ofMembers [
      ("format", .string supportedJoin),
      ("example", .string ("SELECT * FROM rs.public.customers c "
        ++ "LEFT JOIN ss.[dbo].orders o ON c.id = o.customer_id "
        ++ "WHERE c.region = 'EU' AND o.status = 'open' LIMIT 100"))]),
    ("notes", .array ([
      "Use rs. prefix for Redshift tables",
      "Use ss. prefix for SQL Server tables",
      "Queries without prefix default to SQL Server unless they use LIMIT without TOP",
      "Cross-source JOINs are executed client-side with INNER, LEFT, RIGHT or FULL semantics",
      "WHERE conditions are pushed to the backend whose alias they reference",
      "ORDER BY is not applied to cross-source results"].map .string))]

/-- The families of numbers that the gateway keeps about requests, with their kinds. -/
def metricFamilies : List (String × String) :=
  [("crossql_api_http_request_latency_seconds", "histogram"),
    ("crossql_api_http_requests_total", "counter")]

/-- The families of numbers. -/
def metricsDocument : List (String × Json) :=
  [("families", .array (metricFamilies.map fun family =>
    .array [.string family.1, .string family.2]))]

end SqlGateway.Http
