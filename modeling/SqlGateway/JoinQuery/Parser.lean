import SqlGateway.Condition
import SqlGateway.JoinQuery.Basic
import SqlGateway.JoinQuery.Rejection
import SqlGateway.Text.LowerCase
import SqlGateway.Text.UpperCase
import SqlGateway.Token

/-!
# Reading cross-source joins

The grammar of the one query shape that spans both backends:

    SELECT columns FROM rs.schema.table [[AS] alias]
      [INNER | LEFT [OUTER] | RIGHT [OUTER] | FULL [OUTER]] JOIN
      ss.(schema | [schema]).table [[AS] alias]
      ON alias.column = alias.column
      [WHERE conditions] [ORDER BY items] [LIMIT number] [;]

A reader takes the tokens that are left and returns those behind what it has read.
Select list, conditions and order are cut out of the text verbatim.
-/

namespace SqlGateway.JoinQuery

open Text

/-- A step of reading: what is read from the tokens that are left. -/
abbrev Reader := StateT (List Token) (Except Rejection)

namespace Reader

/-- The text departs from the grammar. -/
def fail {α : Type} (departure : Departure) : Reader α :=
  throw (.outsideGrammar departure)

/-- Something is asked for that the next token is not. -/
def failExpected {α : Type} (wanted : Expected) : Reader α := do
  fail (.expected wanted ((← get).head?.map fun token => String.ofList token.text))

/-- The next token if it satisfies a condition. -/
def accept? (accepted : Token → Bool) : Reader (Option Token) := do
  match ← get with
  | token :: rest =>
      if accepted token then
        set rest
        return some token
      else return none
  | [] => return none

/-- The next token, which has to satisfy a condition. -/
def require (wanted : Expected) (accepted : Token → Bool) : Reader Token := do
  match ← accept? accepted with
  | some token => return token
  | none => failExpected wanted

/-- A keyword that has to come next. -/
def keyword (word : String) : Reader Token :=
  require (.keyword word) (Token.isKeyword word)

/-- An operator that has to come next. -/
def operator (mark : String) : Reader Unit := do
  let _ ← require (.operator mark) (Token.isOperator mark)

/-- A plain name that has to come next. -/
def name (wanted : Expected) : Reader (List Char) :=
  return (← require wanted (·.kind == .word)).text

/-- The tokens from the first one on, outside parentheses, at which the reader stops. A
    closing parenthesis without an opening one is passed over. -/
def skipTo (stops : Token → List Token → Bool) : (depth : Nat) → List Token → List Token
  | _, [] => []
  | depth, token :: rest =>
      if depth == 0 && stops token rest then token :: rest
      else if token.isOperator "(" then skipTo stops (depth + 1) rest
      else if token.isOperator ")" then skipTo stops (depth - 1) rest
      else skipTo stops depth rest

/-- The characters of a text from one place to another. -/
def slice (text : List Char) (start stop : Nat) : List Char :=
  (text.drop start).take (stop - start)

/-- The text from a place to the next stop outside parentheses, without blanks at its
    ends. -/
def clause (text : List Char) (start : Nat) (stops : Token → List Token → Bool) :
    Reader (List Char) := do
  let rest := skipTo stops 0 (← get)
  set rest
  let stop := (rest.head?.map (·.start)).getD text.length
  return trim (slice text start stop)

end Reader

open Reader

/-- The keywords that end a table reference, so none of them is taken as its alias. -/
def clauseWords : List String :=
  ["JOIN", "INNER", "LEFT", "RIGHT", "FULL", "OUTER", "CROSS", "ON", "WHERE", "ORDER", "LIMIT",
    "GROUP"]

/-- The optional alias behind the name of a table, which stands in for it. -/
def readAlias (table : List Char) : Reader (List Char) := do
  match ← accept? (Token.isKeyword "AS") with
  | some _ => name .tableAlias
  | none =>
      match ← accept? fun token =>
          token.kind == .word && !clauseWords.any (token.isKeyword ·) with
      | some token => return token.text
      | none => return table

/-- The schema of a table. Only the transactional server has bracketed schemas. -/
def readSchema (backend : Backend) : Reader (List Char) := do
  match ← accept? fun token => backend == .transactional && token.kind == .bracket with
  | some token => return (token.text.drop 1).dropLast
  | none => name (.schemaName backend.role)

/-- A table reference with the prefix of its backend. -/
def readTable (backend : Backend) : Reader Table := do
  let _ ← require (.table backend.role backend.marker)
    (Token.isKeyword backend.marker.upperCase)
  operator "."
  let schema ← readSchema backend
  operator "."
  let table ← name (.tableName backend.role)
  let label ← readAlias table
  return { schema := .ofList schema, name := .ofList table, label := .ofList label }

/-- The join keywords. Without a kind the join is an inner one, and OUTER may follow
    every kind but this one. -/
def readJoinType : Reader JoinType := do
  let written ← accept? fun token => JoinType.all.any fun type => token.isKeyword type.name
  let named := written.bind fun token => JoinType.ofName? (.ofList token.capitals)
  let type := named.getD .inner
  if written.isSome && type != .inner then
    let _ ← accept? (Token.isKeyword "OUTER")
  let _ ← keyword "JOIN"
  return type

/-- A column with the alias of its table. -/
def readColumn : Reader (List Char × List Char) := do
  let qualifier ← name .qualifiedColumn
  operator "."
  let column ← name .columnName
  return (qualifier, column)

/-- Whether two names are equal up to case. -/
def sameName (a b : List Char) : Bool :=
  lower a == lower b

/-- The join columns of the left and the right table, which may be compared in either
    order. -/
def readColumns (left right : Table) : Reader (String × String) := do
  let first ← readColumn
  operator "="
  let second ← readColumn
  if sameName first.1 left.label.toList && sameName second.1 right.label.toList then
    return (.ofList first.2, .ofList second.2)
  else if sameName first.1 right.label.toList && sameName second.1 left.label.toList then
    return (.ofList second.2, .ofList first.2)
  else fail (.unrelatedColumns left.label right.label)

/-- A semicolon behind which nothing is left ends a query. -/
def endsQuery (token : Token) (rest : List Token) : Bool :=
  token.isOperator ";" && rest.isEmpty

/-- The conditions end before LIMIT, ORDER BY or a closing semicolon. -/
def endsConditions (token : Token) (rest : List Token) : Bool :=
  token.isKeyword "LIMIT" || (token.isKeyword "ORDER" && rest.head?.any (Token.isKeyword "BY"))
    || endsQuery token rest

/-- The order ends before LIMIT or a closing semicolon. -/
def endsOrder (token : Token) (rest : List Token) : Bool :=
  token.isKeyword "LIMIT" || endsQuery token rest

/-- The select list, up to and with FROM. -/
def readSelectList (text : List Char) : Reader (List Char) := do
  let select ← keyword "SELECT"
  let columns ← clause text select.stop fun token _ => token.isKeyword "FROM"
  if columns.isEmpty then fail .emptySelectList
  let _ ← keyword "FROM"
  return columns

/-- The optional conditions. -/
def readConditions (text : List Char) : Reader (Option (List Char)) := do
  match ← accept? (Token.isKeyword "WHERE") with
  | none => return none
  | some token =>
      let conditions ← clause text token.stop endsConditions
      if conditions.isEmpty then fail .emptyWhere
      return some conditions

/-- The optional order. An order without items counts as none. -/
def readOrder (text : List Char) : Reader (Option (List Char)) := do
  match ← accept? (Token.isKeyword "ORDER") with
  | none => return none
  | some _ =>
      let token ← keyword "BY"
      let items ← clause text token.stop endsOrder
      return if items.isEmpty then none else some items

/-- The optional limit: a whole number, in digits of any script. -/
def readLimit : Reader (Option Nat) := do
  match ← accept? (Token.isKeyword "LIMIT") with
  | none => return none
  | some _ =>
      match ← accept? fun _ => true with
      | none => fail .unexpectedEnd
      | some token =>
          if token.kind == .number && token.text.all isDigit then
            if digitLimit < token.text.length then throw (.limitTooLong token.text.length)
            return some (digitsValue token.text)
          else fail (.limitNotWhole (.ofList token.text))

/-- Nothing but one semicolon is left. -/
def readEnd : Reader Unit := do
  let _ ← accept? (Token.isOperator ";")
  match ← get with
  | [] => return
  | token :: _ => fail (.unexpected (.ofList token.text))

/-- A whole join whose text has its blanks unified. Its conditions are not split yet. -/
def readJoin (text : List Char) : Reader JoinQuery := do
  let selectColumns ← readSelectList text
  let left ← readTable .warehouse
  let joinType ← readJoinType
  let right ← readTable .transactional
  if sameName left.label.toList right.label.toList then fail (.sharedAlias left.label)
  let _ ← keyword "ON"
  let columns ← readColumns left right
  let conditions ← readConditions text
  let order ← readOrder text
  let limit ← readLimit
  readEnd
  return {
    left, right, joinType, limit
    leftColumn := columns.1
    rightColumn := columns.2
    selectColumns := .ofList selectColumns
    whereClause := conditions.map .ofList
    orderBy := order.map .ofList }

/-- The split of a WHERE text. When `strict`, every condition has to mention a side. -/
def splitConditions (strict : Bool) (leftAlias rightAlias text : List Char) :
    Except Rejection Condition.Split :=
  if strict then
    (Condition.splitStrict leftAlias rightAlias text).mapError
      fun conjunct => .unroutable (.ofList conjunct)
  else .ok (Condition.split leftAlias rightAlias text)

/-- The cross-source join that a query text stands for, with the conditions of each
    side. -/
def parse (strict : Bool) (sql : List Char) : Except Rejection JoinQuery := do
  let text := squeeze sql
  let (join, _) ← readJoin text (Token.scan text)
  let split ← splitConditions strict join.left.label.toList join.right.label.toList
    (join.whereClause.getD "").toList
  return { join with
    leftConditions := split.left.map .ofList
    rightConditions := split.right.map .ofList }

end SqlGateway.JoinQuery
