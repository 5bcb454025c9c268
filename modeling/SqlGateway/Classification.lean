import SqlGateway.Reference
import SqlGateway.Source
import SqlGateway.Text.LowerCase

/-!
# Classification

A query is routed by the table references in its text. A query without a reference
is routed by its dialect.
-/

namespace SqlGateway

/-- What the table references of a query say about its source. -/
inductive Classification where
  | warehouse
  | transactional
  | cross
  | unprefixed
  deriving DecidableEq, Repr

namespace Classification

/-- The name of a classification in answers. -/
def name : Classification → String
  | warehouse => "warehouse"
  | transactional => "transactional"
  | cross => "cross"
  | unprefixed => "unprefixed"

/-- References to both backends make a query cross-source. -/
def ofText (text : List Char) : Classification :=
  match Reference.namesWarehouse text, Reference.namesTransactional text with
  | true, true => cross
  | true, false => warehouse
  | false, true => transactional
  | false, false => unprefixed

end Classification

/-- Whether `part` occurs in a text. -/
def Text.contains (part : List Char) : List Char → Bool
  | [] => part.isEmpty
  | c :: rest => part.isPrefixOf (c :: rest) || contains part rest

/-- A query without references goes to the warehouse when it limits its rows by a
    LIMIT clause and not by TOP; every other one goes to the transactional server. -/
def defaultBackend (text : List Char) : Backend :=
  let lowered := Text.lower text
  if Text.contains "limit ".toList lowered && !Text.contains "top ".toList lowered then .warehouse
  else .transactional

/-- The source that answers a query. -/
def Source.ofText (text : List Char) : Source :=
  match Classification.ofText text with
  | .cross => .cross
  | .warehouse => .backend .warehouse
  | .transactional => .backend .transactional
  | .unprefixed => .backend (defaultBackend text)

end SqlGateway
