import SqlGateway.Validation.Fields

/-!
# Requests to answer a query

A request carries its query under one of two names; the newer one goes first.
-/

namespace SqlGateway

open Validation

/-- A request to answer a query. -/
structure QueryRequest where
  /-- The query. -/
  query : Option String
  /-- The query under its older name. -/
  sql : Option String
  deriving DecidableEq, Repr

namespace QueryRequest

/-- The request that a document stands for. One of the two names has to be given, and a
    given query is not empty. -/
def ofDocument {ι : Type} [Input ι] (document : ι) : Checked QueryRequest :=
  (model "ExecuteQueryRequest" (fun document =>
    (fun query sql => { query, sql })
      <$> optional "query" nonemptyText document
      <*> optional "sql" nonemptyText document) document).andThen fun request =>
    if request.query.isSome || request.sql.isSome then .valid request
    else .problem (.rule "Either 'query' or 'sql' must be provided")

/-- The query of a request. -/
def statement (request : QueryRequest) : String :=
  (request.query <|> request.sql).getD ""

end QueryRequest

end SqlGateway
