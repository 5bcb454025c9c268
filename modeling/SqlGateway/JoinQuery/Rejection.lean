/-!
# Rejected joins

Why a text is not taken as a cross-source join. A rejection is a cause; its wording is
given in one place.
-/

namespace SqlGateway.JoinQuery

/-- What the grammar asks for at a place of a query. -/
inductive Expected where
  /-- A keyword. -/
  | keyword (word : String)
  /-- An operator. -/
  | operator (mark : String)
  /-- A table with the prefix of its side. -/
  | table (side : String) (marker : String)
  /-- The schema of a table of a side. -/
  | schemaName (side : String)
  /-- The name of a table of a side. -/
  | tableName (side : String)
  /-- A name behind AS. -/
  | tableAlias
  /-- A column with the alias of its table. -/
  | qualifiedColumn
  /-- A column behind an alias and a point. -/
  | columnName
  deriving DecidableEq, Repr

/-- The wording of what is asked for. -/
def Expected.describe : Expected → String
  | keyword word => word
  | operator mark => "'" ++ mark ++ "'"
  | table side marker => side ++ " table " ++ marker ++ ".<schema>.<table>"
  | schemaName side => side ++ " schema name"
  | tableName side => side ++ " table name"
  | tableAlias => "table alias"
  | qualifiedColumn => "alias-qualified column"
  | columnName => "column name"

/-- How a text departs from the grammar. -/
inductive Departure where
  /-- Something else stands, or nothing is left, where the grammar asks for a thing. -/
  | expected (wanted : Expected) (found : Option String)
  /-- Nothing is left where some token is needed. -/
  | unexpectedEnd
  /-- A token is left behind the end of the query. -/
  | unexpected (found : String)
  /-- Nothing is selected. -/
  | emptySelectList
  /-- Nothing follows WHERE. -/
  | emptyWhere
  /-- Both tables have one alias. -/
  | sharedAlias (name : String)
  /-- The join condition does not compare the two tables. -/
  | unrelatedColumns (left right : String)
  /-- The limit is no whole number. -/
  | limitNotWhole (found : String)
  deriving DecidableEq, Repr

/-- The wording of a departure from the grammar. -/
def Departure.describe : Departure → String
  | expected wanted none => "expected " ++ wanted.describe ++ " at end of query"
  | expected wanted (some found) =>
      "expected " ++ wanted.describe ++ " but found '" ++ found ++ "'"
  | unexpectedEnd => "unexpected end of query"
  | unexpected found => "unexpected '" ++ found ++ "'"
  | emptySelectList => "empty select list"
  | emptyWhere => "empty WHERE clause"
  | sharedAlias name => "both tables use the alias '" ++ name ++ "'"
  | unrelatedColumns left right =>
      "ON must compare a column of '" ++ left ++ "' with a column of '" ++ right ++ "'"
  | limitNotWhole found => "LIMIT expects a whole number but found '" ++ found ++ "'"

/-- Why a text is not taken as a cross-source join. -/
inductive Rejection where
  /-- The text is outside the grammar. -/
  | outsideGrammar (departure : Departure)
  /-- The limit has more digits than a number is read from. -/
  | limitTooLong (digits : Nat)
  /-- A condition concerns neither side although each has to. -/
  | unroutable (conjunct : String)
  deriving DecidableEq, Repr

end SqlGateway.JoinQuery
