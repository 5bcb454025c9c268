import SqlGateway.JoinQuery.Parser

/-!
# The grammar of cross-source joins

Which rows of tokens are a cross-source join, and what they stand for. Every phrase of
the grammar is a relation between its tokens and what is read from them; the relations
know nothing of how a text is read, in which order alternatives are tried or where a
reader stops.

Select list, conditions and order are bodies: tokens of any kind whose parentheses are
closed at their end. A closing parenthesis without an opening one is passed over. The
words that end a body may occur in it only between parentheses. What stands for a body
is the text from its first to its last token, as it was written.
-/

namespace SqlGateway.JoinQuery

open Text Reader

/-- The depth of parentheses behind one more token. -/
def deepen (depth : Nat) (token : Token) : Nat :=
  if token.isOperator "(" then depth + 1
  else if token.isOperator ")" then depth - 1
  else depth

/-- The depth of parentheses behind some tokens. -/
def depthBehind (depth : Nat) (tokens : List Token) : Nat :=
  tokens.foldl deepen depth

/-- The text from the first to the last of some tokens. -/
def written (text : List Char) (tokens : List Token) : List Char :=
  match tokens.head?, tokens.getLast? with
  | some first, some last => slice text first.start last.stop
  | _, _ => []

/-- The body of a clause, and what follows it. A semicolon at the end of the whole query
    closes the query and is no part of a body. -/
structure Body (body following : List Token) : Prop where
  /-- There is something in it. -/
  nonempty : body ≠ []
  /-- Its parentheses are closed at its end. -/
  closed : depthBehind 0 body = 0
  /-- It does not end with the semicolon that closes the query. -/
  unfinished : following = [] → ∀ last, body.getLast? = some last → last.isOperator ";" = false

/-- A keyword does not occur outside parentheses. -/
def Avoids (keyword : String) (body : List Token) : Prop :=
  ∀ before token after, body = before ++ token :: after → depthBehind 0 before = 0 →
    token.isKeyword keyword = false

/-- ORDER BY does not occur outside parentheses. -/
def AvoidsOrderBy (body : List Token) : Prop :=
  ∀ before first second after, body = before ++ first :: second :: after →
    depthBehind 0 before = 0 → first.isKeyword "ORDER" = true → second.isKeyword "BY" = false

/-- A run without a keyword avoids it. -/
theorem Avoids.of_all {keyword : String} {body : List Token}
    (none : ∀ token ∈ body, token.isKeyword keyword = false) : Avoids keyword body := by
  intro before token after inside _
  exact none token (by simp [inside])

/-- A run without the word ORDER avoids ORDER BY. -/
theorem AvoidsOrderBy.of_all {body : List Token}
    (none : ∀ token ∈ body, token.isKeyword "ORDER" = false) : AvoidsOrderBy body := by
  intro before first second after inside _ orders
  have absent := none first (by simp [inside])
  rw [orders] at absent
  cases absent

/-- The select list between SELECT and FROM. -/
inductive SelectPhrase (text : List Char) : List Token → List Char → Prop where
  | mk {select source : Token} {body : List Token} (selects : select.isKeyword "SELECT" = true)
      (shape : Body body [source]) (free : Avoids "FROM" body)
      (sources : source.isKeyword "FROM" = true) :
      SelectPhrase text (select :: (body ++ [source])) (written text body)

/-- The alias of a table. Without one the name of the table stands in for it, and without
    AS it is none of the words that may follow a table. -/
inductive LabelPhrase (name : List Char) : List Token → List Char → Prop where
  | omitted : LabelPhrase name [] name
  | bare {label : Token} (word : label.kind = .word) (noIntroduction : label.isKeyword "AS" = false)
      (noClause : ∀ clause ∈ clauseWords, label.isKeyword clause = false) :
      LabelPhrase name [label] label.text
  | introduced {introduction label : Token} (introduces : introduction.isKeyword "AS" = true)
      (word : label.kind = .word) : LabelPhrase name [introduction, label] label.text

/-- The schema of a table. Tables of the transactional server may have it in brackets. -/
inductive SchemaPhrase : Backend → Token → List Char → Prop where
  | plain {backend : Backend} {token : Token} (word : token.kind = .word) :
      SchemaPhrase backend token token.text
  | bracketed {token : Token} (bracket : token.kind = .bracket) :
      SchemaPhrase .transactional token (token.text.drop 1).dropLast

/-- The five tokens by which a query names a table. -/
structure Naming where
  /-- The prefix of the backend. -/
  marker : Token
  /-- The point behind the prefix. -/
  firstPoint : Token
  /-- The schema. -/
  schema : Token
  /-- The point behind the schema. -/
  secondPoint : Token
  /-- The name of the table in its schema. -/
  name : Token

/-- The tokens of a table name in order. -/
def Naming.tokens (naming : Naming) : List Token :=
  [naming.marker, naming.firstPoint, naming.schema, naming.secondPoint, naming.name]

/-- Five tokens name a table of a backend in some schema. -/
structure Naming.Names (naming : Naming) (backend : Backend) (schema : List Char) : Prop where
  /-- The prefix belongs to the backend. -/
  marks : naming.marker.isKeyword backend.marker.upperCase = true
  /-- A point follows the prefix. -/
  first : naming.firstPoint.isOperator "." = true
  /-- The schema is a word or, if the backend takes them, a name in brackets. -/
  schema : SchemaPhrase backend naming.schema schema
  /-- A point follows the schema. -/
  second : naming.secondPoint.isOperator "." = true
  /-- The table has a plain name. -/
  word : naming.name.kind = .word

/-- A table of a backend with its alias. -/
inductive TablePhrase (backend : Backend) : List Token → Table → Prop where
  | mk {naming : Naming} {schema label : List Char} {labelTokens : List Token}
      (names : naming.Names backend schema)
      (labels : LabelPhrase naming.name.text labelTokens label) :
      TablePhrase backend (naming.tokens ++ labelTokens)
        { schema := .ofList schema, name := .ofList naming.name.text, label := .ofList label }

/-- The keywords of a join. The kind of join may be left out for an inner one, and OUTER
    may follow every other kind. -/
inductive JoinTypePhrase : List Token → JoinType → Prop where
  | plain {join : Token} (joins : join.isKeyword "JOIN" = true) : JoinTypePhrase [join] .inner
  | named {kind join : Token} {type : JoinType} (named : kind.isKeyword type.name = true)
      (joins : join.isKeyword "JOIN" = true) : JoinTypePhrase [kind, join] type
  | outer {kind outer join : Token} {type : JoinType} (sided : type ≠ .inner)
      (named : kind.isKeyword type.name = true) (outward : outer.isKeyword "OUTER" = true)
      (joins : join.isKeyword "JOIN" = true) : JoinTypePhrase [kind, outer, join] type

/-- A column with the alias of its table. -/
inductive ColumnPhrase : List Token → List Char × List Char → Prop where
  | mk {qualifier point column : Token} (qualifies : qualifier.kind = .word)
      (separates : point.isOperator "." = true) (word : column.kind = .word) :
      ColumnPhrase [qualifier, point, column] (qualifier.text, column.text)

/-- The columns of two tables that a join compares, in either order. -/
inductive ColumnsPhrase (left right : Table) : List Token → String × String → Prop where
  | inOrder {firstTokens secondTokens : List Token} {equals : Token}
      {first second : List Char × List Char} (one : ColumnPhrase firstTokens first)
      (compares : equals.isOperator "=" = true) (other : ColumnPhrase secondTokens second)
      (ofLeft : sameName first.1 left.label.toList = true)
      (ofRight : sameName second.1 right.label.toList = true) :
      ColumnsPhrase left right (firstTokens ++ equals :: secondTokens)
        (.ofList first.2, .ofList second.2)
  | swapped {firstTokens secondTokens : List Token} {equals : Token}
      {first second : List Char × List Char} (one : ColumnPhrase firstTokens first)
      (compares : equals.isOperator "=" = true) (other : ColumnPhrase secondTokens second)
      (ofRight : sameName first.1 right.label.toList = true)
      (ofLeft : sameName second.1 left.label.toList = true) :
      ColumnsPhrase left right (firstTokens ++ equals :: secondTokens)
        (.ofList second.2, .ofList first.2)

/-- The optional conditions, given what follows them. -/
inductive WherePhrase (text : List Char) (following : List Token) :
    List Token → Option (List Char) → Prop where
  | omitted : WherePhrase text following [] none
  | written {keyword : Token} {body : List Token} (restricts : keyword.isKeyword "WHERE" = true)
      (shape : Body body following) (noLimit : Avoids "LIMIT" body)
      (noOrder : AvoidsOrderBy body) :
      WherePhrase text following (keyword :: body) (some (written text body))

/-- The optional order, given what follows it. -/
inductive OrderPhrase (text : List Char) (following : List Token) :
    List Token → Option (List Char) → Prop where
  | omitted : OrderPhrase text following [] none
  | written {first second : Token} {body : List Token} (orders : first.isKeyword "ORDER" = true)
      (sorts : second.isKeyword "BY" = true) (shape : Body body following)
      (noLimit : Avoids "LIMIT" body) :
      OrderPhrase text following (first :: second :: body) (some (written text body))

/-- The optional limit: a whole number with as many digits as are read. -/
inductive LimitPhrase : List Token → Option Nat → Prop where
  | omitted : LimitPhrase [] none
  | written {keyword number : Token} (limits : keyword.isKeyword "LIMIT" = true)
      (counts : number.kind = .number) (whole : ∀ c ∈ number.text, isDigit c = true)
      (short : number.text.length ≤ digitLimit) :
      LimitPhrase [keyword, number] (some (digitsValue number.text))

/-- The optional semicolon at the end. -/
inductive EndPhrase : List Token → Prop where
  | omitted : EndPhrase []
  | written {semicolon : Token} (ends : semicolon.isOperator ";" = true) : EndPhrase [semicolon]

/-- A whole join and what it stands for. Its conditions are split between the two sides
    without being asked to mention one of them. -/
inductive Sentence (text : List Char) : List Token → JoinQuery → Prop where
  | mk {selectTokens leftTokens typeTokens rightTokens columnTokens whereTokens orderTokens
        limitTokens endTokens : List Token} {compare : Token}
      {selectColumns : List Char} {left right : Table} {joinType : JoinType}
      {columns : String × String} {conditions order : Option (List Char)} {limit : Option Nat}
      (selects : SelectPhrase text selectTokens selectColumns)
      (leftTable : TablePhrase .warehouse leftTokens left)
      (joins : JoinTypePhrase typeTokens joinType)
      (rightTable : TablePhrase .transactional rightTokens right)
      (apart : sameName left.label.toList right.label.toList = false)
      (compares : compare.isKeyword "ON" = true)
      (compared : ColumnsPhrase left right columnTokens columns)
      (restricts : WherePhrase text (orderTokens ++ (limitTokens ++ endTokens)) whereTokens
        conditions)
      (orders : OrderPhrase text (limitTokens ++ endTokens) orderTokens order)
      (limits : LimitPhrase limitTokens limit)
      (ending : EndPhrase endTokens) :
      Sentence text
        (selectTokens ++ (leftTokens ++ (typeTokens ++ (rightTokens ++ (compare ::
          (columnTokens ++ (whereTokens ++ (orderTokens ++ (limitTokens ++ endTokens)))))))))
        { left, right, joinType, limit
          leftColumn := columns.1
          rightColumn := columns.2
          selectColumns := .ofList selectColumns
          whereClause := conditions.map .ofList
          orderBy := order.map .ofList
          leftConditions :=
            (Condition.split left.label.toList right.label.toList
              (conditions.getD [])).left.map .ofList
          rightConditions :=
            (Condition.split left.label.toList right.label.toList
              (conditions.getD [])).right.map .ofList }

end SqlGateway.JoinQuery
