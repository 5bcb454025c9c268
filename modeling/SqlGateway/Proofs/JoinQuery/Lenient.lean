import SqlGateway.Proofs.JoinQuery.Grammar

/-!
# What is accepted beyond the grammar

The readers of cross-source joins look less closely at conditions and order than the
grammar does. Their parentheses need to be closed only if something follows them, and an
order may have no items. Everything else is as the grammar has it, so the phrases here
differ from those of the grammar in the bodies of these two clauses alone.

The select list is no such body: FROM always follows it.
-/

namespace SqlGateway.JoinQuery

open Text

/-- A stretch of tokens that is taken for a body, and what follows it. Behind a parenthesis that
    is never closed even the semicolon at the end of the query belongs to it. -/
structure Stretch (body following : List Token) : Prop where
  /-- The parentheses are closed at its end if something follows. -/
  closed : following ≠ [] → depthBehind 0 body = 0
  /-- Outside parentheses it does not end with the semicolon that closes the query. -/
  unfinished : following = [] → ∀ before last, body = before ++ [last] →
    depthBehind 0 before = 0 → last.isOperator ";" = false

/-- The optional conditions as they are accepted, with their tokens. -/
inductive LenientWhere (following : List Token) : List Token → Option (List Token) → Prop where
  | omitted : LenientWhere following [] none
  | written {keyword : Token} {body : List Token} (restricts : keyword.isKeyword "WHERE" = true)
      (nonempty : body ≠ []) (shape : Stretch body following) (noLimit : Avoids "LIMIT" body)
      (noOrder : AvoidsOrderBy body) : LenientWhere following (keyword :: body) (some body)

/-- The optional order as it is accepted, with its tokens, of which there may be none. -/
inductive LenientOrder (following : List Token) : List Token → Option (List Token) → Prop where
  | omitted : LenientOrder following [] none
  | written {first second : Token} {body : List Token} (orders : first.isKeyword "ORDER" = true)
      (sorts : second.isKeyword "BY" = true) (shape : Stretch body following)
      (noLimit : Avoids "LIMIT" body) :
      LenientOrder following (first :: second :: body) (some body)

/-- The parts of a join that are taken over as they are written. -/
structure Bodies where
  /-- The tokens between SELECT and FROM. -/
  columns : List Token
  /-- The tokens behind WHERE. -/
  conditions : Option (List Token)
  /-- The tokens behind ORDER BY. -/
  order : Option (List Token)

/-- The text of the conditions. -/
def conditionText (text : List Char) (conditions : Option (List Token)) : Option (List Char) :=
  conditions.map (written text)

/-- The text of the order. An order without items counts as none. -/
def orderText (text : List Char) (order : Option (List Token)) : Option (List Char) :=
  (order.filter (!·.isEmpty)).map (written text)

/-- An order with items has their text. -/
theorem orderText_of_nonempty {text : List Char} {body : List Token} (nonempty : body ≠ []) :
    orderText text (some body) = some (written text body) := by
  have kept : (!body.isEmpty) = true := by simpa using nonempty
  rw [orderText, Option.filter_some, if_pos kept, Option.map_some]

/-- What an accepted join is read as. -/
inductive ReadAs (text : List Char) : List Token → Bodies → JoinQuery → Prop where
  | mk {select source compare : Token}
      {selected leftTokens typeTokens rightTokens columnTokens whereTokens orderTokens limitTokens
        endTokens : List Token} {left right : Table} {joinType : JoinType}
      {columns : String × String} {conditions order : Option (List Token)} {limit : Option Nat}
      (selects : select.isKeyword "SELECT" = true) (shape : Body selected [source])
      (free : Avoids "FROM" selected) (sources : source.isKeyword "FROM" = true)
      (leftTable : TablePhrase .warehouse leftTokens left)
      (joins : JoinTypePhrase typeTokens joinType)
      (rightTable : TablePhrase .transactional rightTokens right)
      (apart : sameName left.label.toList right.label.toList = false)
      (compares : compare.isKeyword "ON" = true)
      (compared : ColumnsPhrase left right columnTokens columns)
      (restricts : LenientWhere (orderTokens ++ (limitTokens ++ endTokens)) whereTokens conditions)
      (orders : LenientOrder (limitTokens ++ endTokens) orderTokens order)
      (limits : LimitPhrase limitTokens limit)
      (ending : EndPhrase endTokens) :
      ReadAs text
        (select :: (selected ++ [source]) ++ (leftTokens ++ (typeTokens ++ (rightTokens ++
          (compare :: (columnTokens ++ (whereTokens ++ (orderTokens ++
            (limitTokens ++ endTokens)))))))))
        { columns := selected, conditions, order }
        { left, right, joinType, limit
          leftColumn := columns.1
          rightColumn := columns.2
          selectColumns := .ofList (written text selected)
          whereClause := (conditionText text conditions).map .ofList
          orderBy := (orderText text order).map .ofList
          leftConditions :=
            (Condition.split left.label.toList right.label.toList
              ((conditionText text conditions).getD [])).left.map .ofList
          rightConditions :=
            (Condition.split left.label.toList right.label.toList
              ((conditionText text conditions).getD [])).right.map .ofList }

variable {text : List Char} {tokens body following : List Token}

/-- Every body of the grammar is accepted as one. -/
theorem Body.stretch (shape : Body body following) : Stretch body following where
  closed _ := shape.closed
  unfinished nothing before last inside _ := by
    have atEnd : body.getLast? = some last := by simp [inside]
    exact shape.unfinished nothing last atEnd

/-- No token of a stretch outside parentheses is the semicolon that ends the query. -/
theorem Stretch.endsQuery_eq_false {before after : List Token} {token : Token}
    (shape : Stretch body following) (inside : body = before ++ token :: after)
    (outside : depthBehind 0 before = 0) : endsQuery token (after ++ following) = false := by
  by_cases last : after = [] ∧ following = []
  · obtain ⟨rfl, rfl⟩ := last
    have notSemicolon := shape.unfinished rfl before token inside outside
    simp [endsQuery, notSemicolon]
  · have more : (after ++ following).isEmpty = false := by simpa using last
    simp [endsQuery, more]

/-- Conditions of the grammar are accepted with their text. -/
theorem WherePhrase.lenient {conditions : Option (List Char)}
    (restricts : WherePhrase text following tokens conditions) :
    ∃ bodies, LenientWhere following tokens bodies ∧ conditionText text bodies = conditions := by
  cases restricts with
  | omitted => exact ⟨none, .omitted, rfl⟩
  | @written _ body restricts shape noLimit noOrder =>
    exact ⟨some body, .written restricts shape.nonempty shape.stretch noLimit noOrder, rfl⟩

/-- An order of the grammar is accepted with its text. -/
theorem OrderPhrase.lenient {order : Option (List Char)}
    (orders : OrderPhrase text following tokens order) :
    ∃ bodies, LenientOrder following tokens bodies ∧ orderText text bodies = order := by
  cases orders with
  | omitted => exact ⟨none, .omitted, rfl⟩
  | @written _ _ body orders sorts shape noLimit =>
    exact ⟨some body, .written orders sorts shape.stretch noLimit,
      orderText_of_nonempty shape.nonempty⟩

/-- Every sentence of the grammar is accepted. -/
theorem Sentence.readAs {query : JoinQuery} (sentence : Sentence text tokens query) :
    ∃ bodies, ReadAs text tokens bodies query := by
  cases sentence with
  | mk selects leftTable joins rightTable apart compares compared restricts orders limits ending =>
    cases selects with
    | mk selects shape free sources =>
      obtain ⟨conditions, lenientWhere, rfl⟩ := restricts.lenient
      obtain ⟨order, lenientOrder, rfl⟩ := orders.lenient
      exact ⟨_, .mk selects shape free sources leftTable joins rightTable apart compares compared
        lenientWhere lenientOrder limits ending⟩

end SqlGateway.JoinQuery
