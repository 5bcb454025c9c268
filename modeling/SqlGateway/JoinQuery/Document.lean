import SqlGateway.JoinQuery.Basic
import SqlGateway.Validation.Fields

/-!
# Joins as documents

A cross-source join can also come as a document. Its fields are checked one by one, and
then that its tables belong to the right sides.
-/

namespace SqlGateway

open Validation

variable {ι : Type} [Input ι]

/-- A table together with its source. -/
structure SourcedTable extends Table where
  /-- Where the table is. -/
  source : Source
  deriving DecidableEq, Repr

namespace SourcedTable

/-- The full name of a table. -/
def fullName (table : SourcedTable) : String :=
  table.qualifiedName table.source

/-- The fields of a table. Its schema may stand under either of two names, of which
    `schema` is preferred. -/
def fields (document : ι) : Checked SourcedTable :=
  let schema :=
    if (member? "schema" document).isNone && (member? "schema_name" document).isSome then
      required "schema_name" text document
    else required "schema" text document
  (fun source schema name label => { source, schema, name, label })
    <$> required "source" (member (Source.all.map Source.name) Source.ofName?) document
    <*> schema
    <*> required "table" text document
    <*> required "alias" text document

/-- A table with its source. -/
def ofDocument (document : ι) : Checked SourcedTable :=
  model "TableRef" fields document

end SourcedTable

namespace JoinQuery

/-- A join with the sources that a document gives to its tables. -/
structure Draft where
  /-- The source of the table on the left side. -/
  leftSource : Source
  /-- The source of the table on the right side. -/
  rightSource : Source
  /-- The join. -/
  join : JoinQuery
  deriving DecidableEq, Repr

/-- The join columns. -/
def columnsOfDocument (document : ι) : Checked (String × String) :=
  model "JoinPredicate" (fun document =>
    Prod.mk <$> required "left_column" text document <*> required "right_column" text document)
    document

/-- The fields of a join. -/
def Draft.fields (document : ι) : Checked Draft :=
  (fun left right joinType columns selectColumns whereClause orderBy leftConditions
      rightConditions limit =>
    { leftSource := left.source
      rightSource := right.source
      join :=
        { left := left.toTable, right := right.toTable, joinType
          leftColumn := columns.1, rightColumn := columns.2
          selectColumns, whereClause, orderBy, leftConditions, rightConditions, limit } })
    <$> required "left" SourcedTable.ofDocument document
    <*> required "right" SourcedTable.ofDocument document
    <*> defaulted "join_type" .inner (member (JoinType.all.map JoinType.name) JoinType.ofName?)
      document
    <*> required "predicate" columnsOfDocument document
    <*> defaulted "select_columns" "*" text document
    <*> optional "where_clause" text document
    <*> optional "order_by" text document
    <*> defaulted "left_conjuncts" [] (list text) document
    <*> defaulted "right_conjuncts" [] (list text) document
    <*> optional "limit" nonnegativeInt document

/-- The join of a draft whose left table belongs to the warehouse and whose right table
    to the transactional server. -/
def Draft.toJoin (draft : Draft) : Checked JoinQuery :=
  if draft.leftSource ≠ .backend .warehouse then
    .problem (.rule "The left side of a cross-source join must be the warehouse table.")
  else if draft.rightSource ≠ .backend .transactional then
    .problem (.rule "The right side of a cross-source join must be the transactional table.")
  else .valid draft.join

/-- The join that a document stands for. -/
def ofDocument (document : ι) : Checked JoinQuery :=
  (model "JoinSpec" Draft.fields document).andThen Draft.toJoin

end JoinQuery

end SqlGateway
