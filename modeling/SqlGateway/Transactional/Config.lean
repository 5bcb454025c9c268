import SqlGateway.Validation.Fields

/-!
# Configuration of the transactional server

Where the server is, who logs in, and how its connections are pooled.
-/

namespace SqlGateway.Transactional

open Validation

/-- The configuration of the transactional server. -/
structure Config where
  /-- The host of the server. -/
  host : String
  /-- The port of the server. -/
  port : Int
  /-- The database. -/
  database : String
  /-- The user. -/
  user : String
  /-- The password of the user. -/
  password : String
  /-- Whether connections are encrypted. -/
  encrypt : Bool
  /-- Whether the certificate of the server is trusted without a check. -/
  trustCertificate : Bool
  /-- The name of the driver. -/
  driver : String
  /-- The name of the system driver under the generic one. -/
  systemDriver : String
  /-- Number of connections that are kept. -/
  poolSize : Int
  /-- Number of connections above those that are kept. -/
  maxOverflow : Int
  /-- Seconds to wait for a connection. -/
  poolTimeout : Int
  /-- Seconds after which a connection is renewed. -/
  poolRecycle : Int
  /-- Seconds to wait for the login. -/
  loginTimeout : Int
  /-- Seconds to wait for a query. -/
  queryTimeout : Int
  deriving DecidableEq, Repr

namespace Config

variable {ι : Type} [Input ι]

/-- The driver of the server's own protocol. -/
def nativeDriver : String := "pymssql"

/-- The generic driver, which goes through a system driver. -/
def genericDriver : String := "pyodbc"

/-- The names of the fields in a document, in the order in which they are checked. -/
def fieldNames : List String :=
  ["host", "port", "database", "username", "password", "encrypt", "trust_server_certificate",
    "driver", "odbc_driver", "pool_size", "max_overflow", "pool_timeout", "pool_recycle",
    "login_timeout", "query_timeout"]

/-- The fields of a configuration. -/
def fields (document : ι) : Checked Config :=
  (fun host port database user password encrypt trustCertificate driver systemDriver poolSize
      maxOverflow poolTimeout poolRecycle loginTimeout queryTimeout (_ : Unit) =>
    { host, port, database, user, password, encrypt, trustCertificate, driver, systemDriver
      poolSize, maxOverflow, poolTimeout, poolRecycle, loginTimeout, queryTimeout })
    <$> required "host" text document
    <*> defaulted "port" 1433 int document
    <*> required "database" text document
    <*> required "username" text document
    <*> required "password" text document
    <*> defaulted "encrypt" true bool document
    <*> defaulted "trust_server_certificate" false bool document
    <*> defaulted "driver" nativeDriver (literal [nativeDriver, genericDriver]) document
    <*> defaulted "odbc_driver" "ODBC Driver 18 for SQL Server" text document
    <*> defaulted "pool_size" 10 int document
    <*> defaulted "max_overflow" 20 int document
    <*> defaulted "pool_timeout" 600 int document
    <*> defaulted "pool_recycle" 3600 int document
    <*> defaulted "login_timeout" 60 int document
    <*> defaulted "query_timeout" 3600 int document
    <*> noOthers fieldNames document

/-- The configuration that a document stands for. -/
def ofDocument (document : ι) : Checked Config :=
  model "SQLServerConnectorConfig" fields document

/-- Yes or no, as a connection text says it. -/
def yesNo (answer : Bool) : String :=
  if answer then "yes" else "no"

/-- The name under which an engine asks for its driver. -/
def engineDriver (config : Config) : String :=
  "mssql+" ++ config.driver

/-- What a connection text adds for the generic driver. The native one takes its
    encryption from a file of its own. -/
def connectionOptions (config : Config) : List (String × String) :=
  if config.driver = genericDriver then
    [("driver", config.systemDriver), ("Encrypt", yesNo config.encrypt),
      ("TrustServerCertificate", yesNo config.trustCertificate)]
  else []

/-- How long a connection waits: the generic driver knows the login alone. -/
def waits (config : Config) : List (String × Int) :=
  if config.driver = genericDriver then [("timeout", config.loginTimeout)]
  else [("login_timeout", config.loginTimeout), ("timeout", config.queryTimeout)]

end Config

end SqlGateway.Transactional
