import SqlGateway.Answer
import SqlGateway.Connector
import SqlGateway.Join
import SqlGateway.JoinQuery.Basic

/-!
# Answers from both backends

A cross-source join sends a query to each backend and joins the two results. Both sides
are run to their ends before anything is decided, and a failure of the warehouse is
reported before one of the transactional server.
-/

namespace SqlGateway

/-- A failure of one side of a join as its caller sees it. A side that was stopped from
    outside only tells that it was. -/
def Failure.ofSide (backend : Backend) (failure : Failure) : Failure :=
  if failure.isA .ordinary then
    failure.leadingTo
      (.federatedExecution (backend.label ++ " sub-query failed: " ++ failure.message)
        backend.name)
  else
    match failure.fault with
    | .cancelled _ => { fault := .cancelled "" }
    | _ => failure

/-- The connectors of both backends. -/
structure Federation (α β : Type) where
  /-- The connector of the warehouse. -/
  warehouse : Connector α
  /-- The connector of the transactional server. -/
  transactional : Connector β

namespace Federation

variable {α β γ : Type}

/-- What one backend does. -/
def onBackend (federation : Federation α β)
    (task : {σ : Type} → Connector σ → Run σ γ) : Backend → Run (α × β) γ
  | .warehouse => (task federation.warehouse).onFirst
  | .transactional => (task federation.transactional).onSecond

/-- Runs a query on one backend. -/
def execute (federation : Federation α β) (backend : Backend) (sql : String) :
    Run (α × β) QueryResult :=
  federation.onBackend (fun connector => connector.execute sql) backend

/-- The joined rows of both sides' outcomes. -/
def joinOutcomes (query : JoinQuery) (left right : Outcome QueryResult) : Outcome Answer := do
  let left ← left.mapError (Failure.ofSide .warehouse)
  let right ← right.mapError (Failure.ofSide .transactional)
  let join : Join := {
    joinType := query.joinType
    leftAlias := query.left.label, rightAlias := query.right.label
    leftColumn := query.leftColumn, rightColumn := query.rightColumn
    limit := query.limit }
  return .ofJoined (← join.run left right)

/-- Answers a cross-source join. -/
def join (federation : Federation α β) (query : JoinQuery) : Run (α × β) Answer := do
  let left ← (federation.execute .warehouse query.leftQuery).attempt
  let right ← (federation.execute .transactional query.rightQuery).attempt
  Run.ofOutcome (joinOutcomes query left right)

/-- Both sides are run on their own states, whatever becomes of the other one. -/
theorem startIn_join (federation : Federation α β) (query : JoinQuery) (before : α × β) :
    (federation.join query).startIn before =
      let left := (federation.warehouse.execute query.leftQuery).startIn before.1
      let right := (federation.transactional.execute query.rightQuery).startIn before.2
      (joinOutcomes query left.1 right.1, (left.2, right.2)) :=
  rfl

end Federation

end SqlGateway
