import SqlGateway.Source

/-!
# Cross-source joins

The one shape of query that spans both backends: a table of the warehouse joined with
a table of the transactional server on one pair of columns. Each side is fetched by a
query of its own, which carries the conditions that concern this side alone.
-/

namespace SqlGateway

/-- The kinds of join. -/
inductive JoinType where
  | inner
  | left
  | right
  | full
  deriving DecidableEq, Repr

namespace JoinType

/-- The keyword of a join. -/
def name : JoinType → String
  | inner => "INNER"
  | left => "LEFT"
  | right => "RIGHT"
  | full => "FULL"

/-- All kinds of join in the order in which messages list them. -/
def all : List JoinType := [inner, left, right, full]

/-- The join of a given keyword. -/
def ofName? (name : String) : Option JoinType :=
  all.find? (·.name == name)

/-- Whether rows of the left side without a partner are kept. -/
def keepsLeft : JoinType → Bool
  | left | full => true
  | inner | right => false

/-- Whether rows of the right side without a partner are kept. -/
def keepsRight : JoinType → Bool
  | right | full => true
  | inner | left => false

/-- Reading the keyword of a join gives the join back. -/
theorem ofName?_name (type : JoinType) : ofName? type.name = some type := by
  cases type <;> decide

end JoinType

/-- A table as a query names it. -/
structure Table where
  /-- The schema of the table. -/
  schema : String
  /-- The name of the table in its schema. -/
  name : String
  /-- The name by which the query refers to the table. -/
  label : String
  deriving DecidableEq, Repr

/-- The full name of a table in the dialect of its source. Only the transactional
    server takes brackets. -/
def Table.qualifiedName (table : Table) (source : Source) : String :=
  if source = .backend .transactional then "[" ++ table.schema ++ "].[" ++ table.name ++ "]"
  else table.schema ++ "." ++ table.name

/-- The query that fetches a table, restricted by conditions that all must hold. -/
def Table.subquery (table : Table) (source : Source) (conditions : List String) : String :=
  let all := "SELECT * FROM " ++ table.qualifiedName source
  if conditions.isEmpty then all
  else all ++ " WHERE " ++ " AND ".intercalate conditions

/-- A cross-source join: the left table belongs to the warehouse and the right table to
    the transactional server. -/
structure JoinQuery where
  /-- The table of the warehouse. -/
  left : Table
  /-- The table of the transactional server. -/
  right : Table
  /-- Which rows without a partner are kept. -/
  joinType : JoinType := .inner
  /-- The join column of the left table. -/
  leftColumn : String
  /-- The join column of the right table. -/
  rightColumn : String
  /-- The written select list. -/
  selectColumns : String := "*"
  /-- The written conditions. -/
  whereClause : Option String := none
  /-- The written order, which is not applied. -/
  orderBy : Option String := none
  /-- The conditions sent to the warehouse, without their qualifiers. -/
  leftConditions : List String := []
  /-- The conditions sent to the transactional server, without their qualifiers. -/
  rightConditions : List String := []
  /-- Greatest number of joined rows. -/
  limit : Option Nat := none
  deriving DecidableEq, Repr

namespace JoinQuery

/-- The query that fetches the left side. -/
def leftQuery (join : JoinQuery) : String :=
  join.left.subquery (.backend .warehouse) join.leftConditions

/-- The query that fetches the right side. -/
def rightQuery (join : JoinQuery) : String :=
  join.right.subquery (.backend .transactional) join.rightConditions

/-- The conditions of each side under its alias. When both sides have one alias, the
    conditions of the right side stand for both. -/
def conditionsByAlias (join : JoinQuery) : List (String × List String) :=
  if join.left.label = join.right.label then [(join.left.label, join.rightConditions)]
  else [(join.left.label, join.leftConditions), (join.right.label, join.rightConditions)]

end JoinQuery

end SqlGateway
