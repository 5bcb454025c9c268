import SqlGateway.Validation.Fields

/-!
# Health

Whether the backends can be reached, each on its own and both together.
-/

namespace SqlGateway

open Validation

/-- The health of one backend. -/
structure SourceHealth where
  /-- Whether the backend can be reached. -/
  connected : Bool := false
  /-- Why it cannot. -/
  error : Option String := none
  deriving DecidableEq, Repr

/-- The health of both backends. -/
structure Health where
  /-- The warehouse. -/
  warehouse : SourceHealth
  /-- The transactional server. -/
  transactional : SourceHealth
  deriving DecidableEq, Repr

namespace Health

/-- Both backends in one word. -/
def status (health : Health) : String :=
  match health.warehouse.connected, health.transactional.connected with
  | true, true => "connected"
  | false, false => "disconnected"
  | true, false | false, true => "partial"

end Health

/-- The health that a document stands for. -/
def SourceHealth.ofDocument {ι : Type} [Input ι] (document : ι) : Checked SourceHealth :=
  model "SourceHealth" (fun document =>
    (fun connected error => { connected, error })
      <$> defaulted "connected" false bool document
      <*> optional "error" text document) document

end SqlGateway
