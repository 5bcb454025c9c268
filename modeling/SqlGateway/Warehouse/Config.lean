import SqlGateway.Fault
import SqlGateway.Validation.Fields

/-!
# Configuration of the warehouse

Where the warehouse is, who asks it, and how long a statement is waited for.
-/

namespace SqlGateway.Warehouse

open Validation

/-- The configuration of the warehouse. -/
structure Config where
  /-- Seconds between two questions for the state of a statement. -/
  pollInterval : Binary64
  /-- Seconds after which a statement is not waited for any more. -/
  maxWait : Binary64
  /-- Whether a statement that took too long is cancelled. -/
  cancelOnTimeout : Bool
  /-- The database. -/
  database : String
  /-- The serverless workgroup. -/
  workgroup : Option String
  /-- The provisioned cluster. -/
  cluster : Option String
  /-- The user of a provisioned cluster. -/
  user : Option String
  /-- The stored secret with which the service logs in. -/
  secret : Option String
  /-- The region of the service. -/
  region : Option String
  /-- The name of an explicit key. -/
  accessKey : Option String
  /-- The secret of an explicit key. -/
  secretKey : Option String
  deriving Repr

namespace Config

variable {ι : Type} [Input ι]

/-- The names of the fields in a document, in the order in which they are checked. -/
def fieldNames : List String :=
  ["poll_interval_s", "max_wait_s", "cancel_on_timeout", "database", "workgroup_name",
    "cluster_identifier", "db_user", "secret_arn", "region", "aws_access_key_id",
    "aws_secret_access_key"]

/-- The fields of a configuration. -/
def fields (document : ι) : Checked Config :=
  (fun pollInterval maxWait cancelOnTimeout database workgroup cluster user secret region
      accessKey secretKey (_ : Unit) =>
    { pollInterval, maxWait, cancelOnTimeout, database, workgroup, cluster, user, secret, region
      accessKey, secretKey })
    <$> defaulted "poll_interval_s" (.ofInt 1) nonnegativeFloat document
    <*> defaulted "max_wait_s" (.ofInt 60) nonnegativeFloat document
    <*> defaulted "cancel_on_timeout" false bool document
    <*> required "database" text document
    <*> optional "workgroup_name" text document
    <*> optional "cluster_identifier" text document
    <*> optional "db_user" text document
    <*> optional "secret_arn" text document
    <*> optional "region" text document
    <*> optional "aws_access_key_id" text document
    <*> optional "aws_secret_access_key" text document
    <*> noOthers fieldNames document

/-- The configuration that a document stands for. -/
def ofDocument (document : ι) : Checked Config :=
  model "RedshiftDataConnectorConfig" fields document

/-- A text that is there and not empty. -/
def given (text : Option String) : Option String :=
  text.filter (!·.isEmpty)

/-- What every request for a new statement or for tables says about its target. A
    workgroup goes before a cluster, and one of them is needed. -/
def target (config : Config) : Outcome (List (String × Value)) :=
  let pair (name : String) (text : Option String) : List (String × Value) :=
    ((given text).map fun text => (name, Value.string text)).toList
  let database := [("Database", Value.string config.database)]
  if (given config.workgroup).isSome then
    .ok (database ++ pair "WorkgroupName" config.workgroup ++ pair "SecretArn" config.secret)
  else if (given config.cluster).isSome then
    .ok (database ++ pair "ClusterIdentifier" config.cluster ++ pair "DbUser" config.user
      ++ pair "SecretArn" config.secret)
  else
    (Fault.connector
      "Redshift target is not configured: set a workgroup name or a cluster identifier.").raise

end Config

end SqlGateway.Warehouse
