import SqlGateway.Classification
import SqlGateway.Counter
import SqlGateway.Federation
import SqlGateway.Health
import SqlGateway.JoinQuery.Parser
import SqlGateway.Dialect
import SqlGateway.Snapshot.Store

/-!
# The gateway

The gateway sends every query where its tables are, keeps snapshots of the schema maps,
and tells whether the backends can be reached.
-/

namespace SqlGateway

/-- How a query is answered. -/
inductive Plan where
  /-- One backend runs a query. -/
  | single (backend : Backend) (sql : String)
  /-- Both backends run one side of a join. -/
  | cross (query : JoinQuery)
  deriving DecidableEq, Repr

namespace Plan

/-- The plan of a query. When `strict`, every condition of a join has to mention one of
    its tables. -/
def ofText (strict : Bool) (sql : String) : Outcome Plan :=
  let text := sql.toList
  match Classification.ofText text with
  | .cross =>
      match JoinQuery.parse strict text with
      | .ok query => .ok (.cross query)
      | .error rejection => (Fault.ofRejection rejection).raise
  | .warehouse => .ok (.single .warehouse (.ofList (Backend.warehouse.adapt text)))
  | .transactional => .ok (.single .transactional (.ofList (Backend.transactional.adapt text)))
  | .unprefixed => .ok (.single (defaultBackend text) sql)

end Plan

/-- How a query came to its end. -/
inductive Verdict where
  | success
  | error
  deriving DecidableEq, Repr

/-- The name of a verdict in the counts. -/
def Verdict.name : Verdict → String
  | success => "success"
  | error => "error"

/-- The gateway: its backends and its settings. -/
structure Gateway (α β : Type) where
  /-- The backends. -/
  federation : Federation α β
  /-- Whether every condition of a join has to mention one of its tables. -/
  strict : Bool := false
  /-- Seconds for which a snapshot is good. -/
  snapshotSeconds : Seconds
  /-- Seconds for which a connection test is waited for. -/
  testSeconds : Binary64 := .ofInt 10

/-- What changes while the gateway works. -/
structure Gateway.State (α β : Type) where
  /-- The backends. -/
  backends : α × β
  /-- The kept schema maps. -/
  snapshots : SnapshotStore := .empty
  /-- Seconds since the first of January 1970. -/
  clock : Seconds
  /-- How many queries came to which end, by source. -/
  queries : Counter (Source × Verdict) := ∅

/-- The tables of a backend, and whether they come from a snapshot. -/
structure SchemaAnswer where
  /-- The tables by schema. -/
  tables : SchemaListing
  /-- Whether they come from a snapshot. -/
  cached : Bool
  deriving Repr

/-- The schema map of a backend, and whether it comes from a snapshot. -/
structure SourceSchema where
  /-- The tables by schema. -/
  tables : SchemaMap
  /-- Whether they come from a snapshot. -/
  cached : Bool
  deriving DecidableEq, Repr

/-- The schema maps of both backends. -/
structure UnifiedSchema where
  /-- The map of the warehouse. -/
  warehouse : SourceSchema
  /-- The map of the transactional server. -/
  transactional : SourceSchema
  deriving DecidableEq, Repr

/-- The answer of a backend with texts for names. -/
def SchemaAnswer.checked (answer : SchemaAnswer) : Checked SourceSchema :=
  (fun tables => { tables, cached := answer.cached }) <$> answer.tables.checked

namespace Gateway

variable {α β γ : Type}

/-- What the backends do. -/
def onBackends (run : Run (α × β) γ) : Run (State α β) γ :=
  run.within State.backends fun backends state => { state with backends }

/-- What happens to the snapshots. -/
def onSnapshots (run : Run SnapshotStore γ) : Run (State α β) γ :=
  run.within State.snapshots fun snapshots state => { state with snapshots }

/-- The one backend of a source. -/
def backendOf (source : Source) : Outcome Backend :=
  match source with
  | .backend backend => .ok backend
  | .cross =>
      (Fault.invalidRequest ("No single backend serves source '" ++ source.name ++ "'.")).raise

/-- The backend of a source for which snapshots are kept. -/
def snapshotOf (source : Source) : Outcome Backend :=
  match source with
  | .backend backend => .ok backend
  | .cross =>
      (Fault.invalidRequest
        "Schema snapshots are kept per backend, not for cross-source queries.").raise

/-- Runs a planned query. -/
def follow (gateway : Gateway α β) : Plan → Run (α × β) Answer
  | .single backend sql => do
      let result ← gateway.federation.execute backend sql
      Run.ofOutcome (Answer.ofResult backend result).outcome
  | .cross query => gateway.federation.join query

/-- Counts the end of a query. One that was stopped from outside is not counted. -/
def countQuery (source : Source) (outcome : Outcome Answer) : Run (State α β) Unit :=
  let add (verdict : Verdict) : Run (State α β) Unit :=
    modify fun state => { state with queries := state.queries.increment (source, verdict) }
  match outcome with
  | .ok _ => add .success
  | .error failure => if failure.isA .ordinary then add .error else pure ()

/-- Answers a query. -/
def execute (gateway : Gateway α β) (sql : String) : Run (State α β) Answer := do
  let outcome ← Run.attempt do
    let plan ← Run.ofOutcome (Plan.ofText gateway.strict sql)
    onBackends (gateway.follow plan)
  countQuery (Source.ofText sql.toList) outcome
  Run.ofOutcome outcome

/-- Asks a backend for its tables and keeps them. A backend that fails has no tables, and
    that is not kept. -/
def fetchSchema (gateway : Gateway α β) (backend : Backend) : Run (State α β) SchemaAnswer := do
  let fetch := gateway.federation.onBackend (fun connector => connector.schemaMap) backend
  match ← (onBackends fetch).attempt with
  | .ok tables =>
      let state ← get
      onSnapshots (SnapshotStore.keep backend tables state.clock gateway.snapshotSeconds)
      return { tables, cached := false }
  | .error failure =>
      if failure.isA .connector then return { tables := [], cached := false } else throw failure

/-- The tables of a source, from its snapshot unless fresh ones are wanted. -/
def schema (gateway : Gateway α β) (source : Source) (refresh : Bool := false) :
    Run (State α β) SchemaAnswer := do
  let kept ← if refresh then pure none else do
    let backend ← Run.ofOutcome (snapshotOf source)
    let state ← get
    Run.ofOutcome (state.snapshots.current backend state.clock)
  match kept with
  | some tables => return { tables := .ofMap tables, cached := true }
  | none => gateway.fetchSchema (← Run.ofOutcome (backendOf source))

/-- The schema maps of both backends. Both are asked before a failure is reported. -/
def unifiedSchema (gateway : Gateway α β) (refresh : Bool := false) :
    Run (State α β) UnifiedSchema := do
  let warehouse ← (gateway.schema (.backend .warehouse) refresh).attempt
  let transactional ← (gateway.schema (.backend .transactional) refresh).attempt
  let warehouse ← Run.ofOutcome warehouse
  let transactional ← Run.ofOutcome transactional
  Run.ofOutcome (Checked.outcome
    (UnifiedSchema.mk <$> warehouse.checked.under Backend.warehouse.name
      <*> transactional.checked.under Backend.transactional.name))

/-- The sources that are meant: the given one, or both backends. -/
def meant (source : Option Source) : List Source :=
  match source with
  | some source => [source]
  | none => Backend.all.map .backend

/-- What is told about the snapshots of the sources that are meant. -/
def snapshotInfo (source : Option Source) :
    Run (State α β) (List (Source × Option SnapshotInfo)) :=
  (meant source).mapM fun source => do
    let backend ← Run.ofOutcome (snapshotOf source)
    let state ← get
    return (source, ← Run.ofOutcome (state.snapshots.info backend state.clock))

/-- Removes the snapshots of the sources that are meant, and tells which ones there
    were. -/
def clearSnapshots (source : Option Source) : Run (State α β) (List (Source × Bool)) :=
  (meant source).mapM fun source => do
    let backend ← Run.ofOutcome (snapshotOf source)
    return (source, ← onSnapshots (SnapshotStore.clear backend))

/-- The health that the outcome of a connection test shows. A test that came to no end, or
    ran out of time, is a failed one. -/
def healthOfTest : Outcome Bool → Outcome SourceHealth
  | .ok true => .ok { connected := true }
  | .ok false => .ok { error := some "Health check timed out" }
  | .error failure =>
      if failure.isA .timeout then .ok { error := some "Health check timed out" }
      else if failure.isA .connector then .ok { error := some failure.message }
      else .error failure

/-- Tests the connection to a backend. Without time there is no test. -/
def probe (gateway : Gateway α β) (backend : Backend) : Run (State α β) SourceHealth := do
  let test : Run (α × β) Bool :=
    if gateway.testSeconds.atMost (.zero false) then pure false
    else gateway.federation.onBackend (fun connector => connector.test) backend
  Run.ofOutcome (healthOfTest (← (onBackends test).attempt))

/-- Tests the connections to both backends. Both are tested before a failure is
    reported. -/
def health (gateway : Gateway α β) : Run (State α β) Health := do
  let warehouse ← (gateway.probe .warehouse).attempt
  let transactional ← (gateway.probe .transactional).attempt
  return {
    warehouse := ← Run.ofOutcome warehouse
    transactional := ← Run.ofOutcome transactional }

end Gateway

end SqlGateway
