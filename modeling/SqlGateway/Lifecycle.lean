import SqlGateway.Settings

/-!
# Shared resources

The client of the warehouse and the engine of the transactional server are opened once,
shared by all requests, and released at the end, also when their use fails. A connector
that is given none opens its own when it first needs it.
-/

namespace SqlGateway.Lifecycle

/-- What happens to a resource. -/
inductive Event where
  /-- A session with the region and keys of a configuration. -/
  | session (region accessKey secretKey : Option String)
  /-- A client of a service. -/
  | client (service : String)
  /-- An engine with a pool of connections. -/
  | engine (config : Transactional.Config)
  /-- The resource is handed out. -/
  | inUse
  /-- The client is closed. -/
  | closed
  /-- The engine gives up its connections. -/
  | disposed
  /-- The use came to its end. -/
  | done
  /-- The use failed. -/
  | raised
  /-- A second reading of a connector's resource, and whether it is the first one. -/
  | readAgain (same : Bool)
  deriving DecidableEq, Repr

/-- How the client of the warehouse is opened. Empty keys are left to the surroundings. -/
def openClient (config : Warehouse.Config) : List Event :=
  [.session config.region (Warehouse.Config.given config.accessKey)
      (Warehouse.Config.given config.secretKey),
    .client "redshift-data"]

/-- How the engine of the transactional server is opened. -/
def openEngine (config : Transactional.Config) : List Event :=
  [.engine config]

/-- A resource that is opened, used and released, whether its use fails or not. -/
def scope (opening : List Event) (release : Event) (fails : Bool) : List Event :=
  opening ++ [.inUse, release, if fails then .raised else .done]

/-- A connector's own resource, read twice. -/
def owned (opening : List Event) : List Event :=
  opening ++ [.readAgain true]

/-- What the gateway opens when it starts. -/
def startUp (warehouse : Warehouse.Config) (transactional : Transactional.Config) : List Event :=
  openClient warehouse ++ openEngine transactional

/-- What the gateway releases when it stops. -/
def shutDown : List Event :=
  [.closed, .disposed]

end SqlGateway.Lifecycle
