import SqlGateway.Text.Blank
import SqlGateway.Text.LowerCase
import SqlGateway.Transactional.Config
import SqlGateway.Warehouse.Config

/-!
# Settings

What the gateway reads from its environment. Names of variables are compared without
regard to case, and an empty variable counts as absent. From the settings follow the
configurations of the two backends.
-/

namespace SqlGateway

open Validation

/-- The variables of an environment, in order. -/
abbrev Environment := List (String × String)

namespace Environment

/-- Why a variable cannot be set: a null character would end its name or its value, an
    equals sign would end its name, and it has to have a name. -/
def problem? (pair : String × String) : Option Fault :=
  let name := pair.1.toList
  if '\x00' ∈ name ∨ '\x00' ∈ pair.2.toList then some (.invalidValue "embedded null byte")
  else if '=' ∈ name then some (.invalidValue "illegal environment variable name")
  else if name.isEmpty then some (.system "[Errno 22] Invalid argument")
  else none

/-- The environment with these variables, if all of them can be set. -/
def ofVariables (pairs : List (String × String)) : Outcome Environment :=
  match pairs.findSome? problem? with
  | some fault => fault.raise
  | none => .ok pairs

/-- The value of the last variable of this name, in any case, that is not empty. -/
def get? (environment : Environment) (name : String) : Option String :=
  (environment.reverse.find? fun entry =>
    entry.1.lowerCase == name.lowerCase && !entry.2.isEmpty).map Prod.snd

/-- A variable that is checked like a field of a document. -/
def read {α : Type} (environment : Environment) (name : String) (absent : α)
    (check : Json → Checked α) : Checked α :=
  match environment.get? name with
  | some value => (check (.string value)).under name
  | none => .valid absent

end Environment

/-- Settings of the server that answers requests. -/
structure Settings.Server where
  /-- What comes before the paths of the service. -/
  apiPath : String
  /-- The name of the project. -/
  projectName : String
  /-- The environment in which the server runs. -/
  environment : String
  /-- Whether the server starts anew when its files change. -/
  reload : Bool
  /-- The host on which the server listens. -/
  host : String
  /-- The port on which the server listens. -/
  port : Int
  /-- Whether pages of other hosts may ask. -/
  crossOrigin : Bool
  deriving DecidableEq, Repr

/-- Settings of the warehouse. -/
structure Settings.Warehouse where
  /-- The region of the service. -/
  region : String
  /-- The name of an explicit key. -/
  accessKey : String
  /-- The secret of an explicit key. -/
  secretKey : String
  /-- The database. -/
  database : String
  /-- The serverless workgroup. -/
  workgroup : String
  /-- The provisioned cluster. -/
  cluster : String
  /-- The user of a provisioned cluster. -/
  user : String
  /-- The stored secret with which the service logs in. -/
  secret : String
  /-- Seconds between two questions for the state of a statement. -/
  pollInterval : Binary64
  /-- Seconds after which a statement is not waited for any more. -/
  maxWait : Binary64
  /-- Whether a statement that took too long is cancelled. -/
  cancelOnTimeout : Bool
  deriving DecidableEq, Repr

/-- Settings of the federation. -/
structure Settings.Federation where
  /-- Where snapshots are kept. -/
  cacheDirectory : String
  /-- Seconds for which a snapshot is good. -/
  cacheSeconds : Int
  /-- Whether every condition of a join has to mention one of its tables. -/
  strict : Bool
  /-- Whether both backends are asked once at the start. -/
  warmUp : Bool
  deriving DecidableEq, Repr

/-- The settings of the gateway. -/
structure Settings where
  /-- The server that answers requests. -/
  server : Settings.Server
  /-- The warehouse. -/
  warehouse : Settings.Warehouse
  /-- The transactional server. -/
  transactional : Transactional.Config
  /-- The federation. -/
  federation : Settings.Federation
  deriving DecidableEq, Repr

namespace Settings

/-- The settings of the server in an environment. -/
def Server.ofEnvironment (environment : Environment) : Checked Server :=
  (fun apiPath projectName environment reload host port crossOrigin =>
    { apiPath, projectName, environment, reload, host, port, crossOrigin })
    <$> environment.read "API_V1_STR" "/api/v1" text
    <*> environment.read "PROJECT_NAME" "crossql" text
    <*> environment.read "ENVIRONMENT" "local"
      (literal ["local", "staging", "development", "production"])
    <*> environment.read "UVICORN_RELOAD" false bool
    <*> environment.read "HOST" "0.0.0.0" text
    <*> environment.read "PORT" 8000 int
    <*> environment.read "CORS_ENABLED" true bool

/-- The settings of the warehouse in an environment. -/
def Warehouse.ofEnvironment (environment : Environment) : Checked Warehouse :=
  (fun region accessKey secretKey database workgroup cluster user secret pollInterval maxWait
      cancelOnTimeout =>
    { region, accessKey, secretKey, database, workgroup, cluster, user, secret, pollInterval
      maxWait, cancelOnTimeout })
    <$> environment.read "AWS_REGION" "us-east-1" text
    <*> environment.read "AWS_ACCESS_KEY_ID" "" text
    <*> environment.read "AWS_SECRET_ACCESS_KEY" "" text
    <*> environment.read "REDSHIFT_DATABASE" "dev" text
    <*> environment.read "REDSHIFT_WORKGROUP_NAME" "" text
    <*> environment.read "REDSHIFT_CLUSTER_IDENTIFIER" "" text
    <*> environment.read "REDSHIFT_DB_USER" "" text
    <*> environment.read "REDSHIFT_SECRET_ARN" "" text
    <*> environment.read "REDSHIFT_POLL_INTERVAL_S" (.ofInt 1) float
    <*> environment.read "REDSHIFT_MAX_WAIT_S" (.ofInt 60) float
    <*> environment.read "REDSHIFT_CANCEL_ON_TIMEOUT" false bool

/-- The settings of the transactional server in an environment. -/
def transactionalOfEnvironment (environment : Environment) : Checked Transactional.Config :=
  (fun host port database user password encrypt trustCertificate driver poolSize maxOverflow
      poolTimeout poolRecycle loginTimeout queryTimeout =>
    { host, port, database, user, password, encrypt, trustCertificate, driver, poolSize
      maxOverflow, poolTimeout, poolRecycle, loginTimeout, queryTimeout
      systemDriver := "ODBC Driver 18 for SQL Server" })
    <$> environment.read "SQLSERVER_HOST" "localhost" text
    <*> environment.read "SQLSERVER_PORT" 1433 int
    <*> environment.read "SQLSERVER_DATABASE" "master" text
    <*> environment.read "SQLSERVER_USER" "" text
    <*> environment.read "SQLSERVER_PASSWORD" "" text
    <*> environment.read "SQLSERVER_ENCRYPT" true bool
    <*> environment.read "SQLSERVER_TRUST_CERT" false bool
    <*> environment.read "SQLSERVER_DRIVER" Transactional.Config.nativeDriver
      (literal [Transactional.Config.nativeDriver, Transactional.Config.genericDriver])
    <*> environment.read "SQLSERVER_POOL_SIZE" 10 int
    <*> environment.read "SQLSERVER_MAX_OVERFLOW" 20 int
    <*> environment.read "SQLSERVER_POOL_TIMEOUT" 600 int
    <*> environment.read "SQLSERVER_POOL_RECYCLE" 3600 int
    <*> environment.read "SQLSERVER_LOGIN_TIMEOUT" 60 int
    <*> environment.read "SQLSERVER_QUERY_TIMEOUT" 3600 int

/-- The settings of the federation in an environment. -/
def Federation.ofEnvironment (environment : Environment) : Checked Federation :=
  (fun cacheDirectory cacheSeconds strict warmUp =>
    { cacheDirectory, cacheSeconds, strict, warmUp })
    <$> environment.read "SCHEMA_CACHE_DIR" ".cache/schemas" text
    <*> environment.read "SCHEMA_CACHE_TTL_SECONDS" (60 * 60 * 24 * 30) int
    <*> environment.read "FEDERATION_STRICT_PREDICATES" false bool
    <*> environment.read "FEDERATION_WARMUP_ON_STARTUP" true bool

/-- The settings in an environment. -/
def ofEnvironment (environment : Environment) : Checked Settings :=
  (fun server warehouse transactional federation =>
    { server, warehouse, transactional, federation })
    <$> Server.ofEnvironment environment
    <*> Warehouse.ofEnvironment environment
    <*> transactionalOfEnvironment environment
    <*> Federation.ofEnvironment environment

/-- Whether the gateway runs on a developer's machine. -/
def isLocal (settings : Settings) : Bool :=
  settings.server.environment == "local"

/-- The configuration of the warehouse. An empty setting counts as absent, and waiting
    times are checked here. -/
def warehouseConfig (settings : Settings) : Checked SqlGateway.Warehouse.Config :=
  let given := settings.warehouse
  let some? (text : String) : Option String := if text.isEmpty then none else some text
  (fun pollInterval maxWait =>
    { pollInterval, maxWait
      cancelOnTimeout := given.cancelOnTimeout
      database := given.database
      workgroup := some? given.workgroup
      cluster := some? given.cluster
      user := some? given.user
      secret := some? given.secret
      region := some? given.region
      accessKey := some? given.accessKey
      secretKey := some? given.secretKey })
    <$> (nonnegativeFloat (Json.float given.pollInterval)).under "poll_interval_s"
    <*> (nonnegativeFloat (Json.float given.maxWait)).under "max_wait_s"

/-- The configuration of the transactional server. -/
def transactionalConfig (settings : Settings) : Transactional.Config :=
  settings.transactional

end Settings

/-- What is told to a telemetry service, and how. -/
structure Telemetry where
  /-- Whether nothing is told. -/
  disabled : Bool
  /-- Whether logs are sent. -/
  logs : Bool
  /-- Whether traces are sent. -/
  traces : Bool
  /-- Whether logs are sent as web requests. -/
  logsByHttp : Bool
  /-- Whether traces are sent as web requests. -/
  tracesByHttp : Bool
  deriving DecidableEq, Repr

namespace Telemetry

/-- The word of a variable: without blanks at its ends and in small letters. -/
def word (value : String) : String :=
  String.ofList (Text.lower (Text.trim value.toList))

/-- Whether a variable says yes. -/
def saysYes (environment : Environment) (name : String) : Bool :=
  ["1", "true", "yes", "on"].contains (word ((environment.lookup name).getD ""))

/-- Whether a variable leaves an exporter on. -/
def exports (environment : Environment) (name : String) : Bool :=
  !(["none", "disabled"].contains (word ((environment.lookup name).getD "otlp")))

/-- Whether a variable, or the common one if it is empty or absent, asks for web
    requests. -/
def byHttp (environment : Environment) (name : String) : Bool :=
  let own := (environment.lookup name).filter (!·.isEmpty)
  let common := (environment.lookup "OTEL_EXPORTER_OTLP_PROTOCOL").getD "grpc"
  ["http/protobuf", "http"].contains (word (own.getD common))

/-- What an environment says about telemetry. Names of variables are compared exactly. -/
def ofEnvironment (environment : Environment) : Telemetry :=
  { disabled := saysYes environment "OTEL_SDK_DISABLED"
    logs := exports environment "OTEL_LOGS_EXPORTER"
    traces := exports environment "OTEL_TRACES_EXPORTER"
    logsByHttp := byHttp environment "OTEL_EXPORTER_OTLP_LOGS_PROTOCOL"
    tracesByHttp := byHttp environment "OTEL_EXPORTER_OTLP_TRACES_PROTOCOL" }

end Telemetry

end SqlGateway
