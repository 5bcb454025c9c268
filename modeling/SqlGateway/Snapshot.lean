import SqlGateway.Json.Load
import SqlGateway.Json.Writer
import SqlGateway.SchemaMap
import SqlGateway.Seconds
import SqlGateway.Timestamp

/-!
# Snapshots of schema maps

A snapshot is a schema map with the moment at which it was taken and the moment after
which it is not used any more. It is kept as a text, and a text from elsewhere is a
snapshot only if it passes every check.
-/

namespace SqlGateway

open Validation

/-- A schema map of a moment. -/
structure Snapshot where
  /-- The tables by schema. -/
  tables : SchemaMap
  /-- The moment at which the map was taken. -/
  takenAt : Binary64
  /-- The last moment at which it is used. -/
  expiresAt : Binary64
  deriving DecidableEq, Repr

/-- What is told about a kept snapshot. -/
structure SnapshotInfo where
  /-- Whether it is not used any more. -/
  expired : Bool
  /-- When it was taken. -/
  takenAt : String
  /-- Until when it is used. -/
  expiresAt : String
  /-- How old it is. -/
  age : String
  /-- Number of its tables. -/
  tableCount : Nat
  deriving DecidableEq, Repr

namespace Snapshot

/-- A moment as a snapshot keeps it. -/
def checkedMoment : Seconds → Checked Binary64
  | .real seconds => .valid seconds
  | .whole seconds => float (Json.int seconds)

/-- The snapshot of a listing that is good for some seconds from now on. -/
def take (listing : SchemaListing) (now lifetime : Seconds) : Outcome Snapshot := do
  let expiry ← now.add lifetime
  Checked.outcome
    ((fun tables takenAt expiresAt => { tables, takenAt, expiresAt })
      <$> listing.checked.under "data"
      <*> (checkedMoment now).under "cached_at"
      <*> (checkedMoment expiry).under "expires_at")

/-- Whether a snapshot is not used any more. It still is at the very moment at which it
    expires. -/
def isExpired (snapshot : Snapshot) (now : Seconds) : Bool :=
  now.isAfter snapshot.expiresAt

/-- The document of a schema map. -/
def documentOfTables (tables : SchemaMap) : Json :=
  .ofMembers (tables.toList.map fun entry => (entry.1, .array (entry.2.map .string)))

/-- The document of a snapshot. -/
def document (snapshot : Snapshot) : Json :=
  .ofMembers [
    ("data", documentOfTables snapshot.tables),
    ("cached_at", .float snapshot.takenAt),
    ("expires_at", .float snapshot.expiresAt)]

/-- The text of a snapshot. -/
def text (snapshot : Snapshot) : String :=
  snapshot.document.write .indented 0

/-- A map from texts to lists of texts. -/
def tablesOfDocument (document : Json) : Checked SchemaMap :=
  match document with
  | .object members => OrderedMap.ofList <$> entries members
  | _ => .problem .mapType
where
  /-- The entries of the map, each checked under its key. -/
  entries : List (Json.Name × Json) → Checked (List (String × List String))
    | [] => .valid []
    | (name, value) :: rest =>
        (fun tables others => (name.text, tables) :: others)
          <$> (list Validation.text value).under name.text <*> entries rest

/-- The snapshot that a document stands for. -/
def ofDocument (document : Json) : Checked Snapshot :=
  model "SchemaCacheEntry" (fun document =>
    (fun tables takenAt expiresAt => { tables, takenAt, expiresAt })
      <$> required "data" tablesOfDocument document
      <*> required "cached_at" float document
      <*> required "expires_at" float document) document

/-- The snapshot that a text stands for, if it does. A text that is nested too deep is not
    read at all. -/
def ofText? (text : String) : Outcome (Option Snapshot) :=
  match Json.read text.toList with
  | .error error => if error.problem.isDepth then error.fault.raise else .ok none
  | .ok document =>
      match ofDocument document with
      | .valid snapshot => .ok (some snapshot)
      | .invalid _ => .ok none

/-- The age of a snapshot. -/
def age (snapshot : Snapshot) (now : Seconds) : Outcome String := do
  Age.ofSeconds (← now.since snapshot.takenAt)

/-- The map of a snapshot, unless it has expired. An age, or the moment at which an
    expired snapshot was taken, is noted, so it has to have a text. -/
def current (snapshot : Snapshot) (now : Seconds) : Outcome (Option SchemaMap) := do
  if snapshot.isExpired now then
    let _ ← Timestamp.text snapshot.takenAt
    return none
  else
    let _ ← snapshot.age now
    return some snapshot.tables

/-- What is told about a snapshot. -/
def info (snapshot : Snapshot) (now : Seconds) : Outcome SnapshotInfo := do
  let takenAt ← Timestamp.text snapshot.takenAt
  let expiresAt ← Timestamp.text snapshot.expiresAt
  let age ← snapshot.age now
  return {
    expired := snapshot.isExpired now, takenAt, expiresAt, age
    tableCount := snapshot.tables.tableCount }

end Snapshot

end SqlGateway
