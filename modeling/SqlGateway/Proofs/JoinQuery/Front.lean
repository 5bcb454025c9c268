import SqlGateway.Proofs.JoinQuery.Readers

/-!
# Joins before their limit

Everything before the limit of a join is read by one reader of its own. It is proved to read
exactly the phrases of the lenient grammar, and a join is what it reads together with a limit and
the end of the query.
-/

namespace SqlGateway.JoinQuery

open Text Reader

/-- What a join says before its limit. -/
structure Front where
  /-- The table of the warehouse. -/
  left : Table
  /-- The table of the transactional server. -/
  right : Table
  /-- The kind of join. -/
  joinType : JoinType
  /-- The columns that are compared. -/
  columns : String × String
  /-- The text of the select list. -/
  selectColumns : List Char
  /-- The text of the conditions. -/
  conditions : Option (List Char)
  /-- The text of the order. -/
  order : Option (List Char)

/-- The join with a limit. Its conditions are not split. -/
def Front.withLimit (front : Front) (limit : Option Nat) : JoinQuery where
  left := front.left
  right := front.right
  joinType := front.joinType
  leftColumn := front.columns.1
  rightColumn := front.columns.2
  selectColumns := .ofList front.selectColumns
  whereClause := front.conditions.map .ofList
  orderBy := front.order.map .ofList
  limit := limit

/-- The part of a join before its limit. -/
def readFront (text : List Char) : Reader Front := do
  let selectColumns ← readSelectList text
  let left ← readTable .warehouse
  let joinType ← readJoinType
  let right ← readTable .transactional
  if sameName left.label.toList right.label.toList then fail (.sharedAlias left.label)
  let _ ← keyword "ON"
  let columns ← readColumns left right
  let conditions ← readConditions text
  let order ← readOrder text
  return { left, right, joinType, columns, selectColumns, conditions, order }

/-- A join is read up to its limit, and then the limit and the end of the query are. -/
theorem readJoin_eq (text : List Char) : readJoin text = do
    let front ← readFront text
    let limit ← readLimit
    readEnd
    return front.withLimit limit := by
  simp only [readJoin, readFront, bind_assoc]
  refine bind_congr fun columns => bind_congr fun left => bind_congr fun joinType =>
    bind_congr fun right => ?_
  split
  · rfl
  · simp only [bind_assoc, pure_bind]
    rfl

variable {text : List Char} {tokens following rest : List Token}

/-- The tokens of a join before its limit, given what follows them, and what they say. -/
inductive FrontPhrase (text : List Char) (following : List Token) :
    List Token → Bodies → Front → Prop where
  | mk {select source compare : Token}
      {selected leftTokens typeTokens rightTokens columnTokens whereTokens orderTokens : List Token}
      {left right : Table} {joinType : JoinType} {columns : String × String}
      {conditions order : Option (List Token)}
      (selects : select.isKeyword "SELECT" = true) (shape : Body selected [source])
      (free : Avoids "FROM" selected) (sources : source.isKeyword "FROM" = true)
      (leftTable : TablePhrase .warehouse leftTokens left)
      (joins : JoinTypePhrase typeTokens joinType)
      (rightTable : TablePhrase .transactional rightTokens right)
      (apart : sameName left.label.toList right.label.toList = false)
      (compares : compare.isKeyword "ON" = true)
      (compared : ColumnsPhrase left right columnTokens columns)
      (restricts : LenientWhere (orderTokens ++ following) whereTokens conditions)
      (orders : LenientOrder following orderTokens order) :
      FrontPhrase text following
        (select :: (selected ++ [source]) ++ (leftTokens ++ (typeTokens ++ (rightTokens ++
          (compare :: (columnTokens ++ (whereTokens ++ orderTokens)))))))
        { columns := selected, conditions, order }
        { left, right, joinType, columns
          selectColumns := written text selected
          conditions := conditionText text conditions
          order := orderText text order }

/-- The keywords of a join end the table before them. -/
theorem JoinTypePhrase.endsTable {type : JoinType} (joins : JoinTypePhrase tokens type) :
    EndsTable (tokens ++ following) := by
  have named : type.name ∈ clauseWords := by cases type <;> decide
  cases joins with
  | plain joins =>
    rintro _ ⟨⟩
    exact ⟨"JOIN", by decide, joins⟩
  | named matched =>
    rintro _ ⟨⟩
    exact ⟨_, named, matched⟩
  | outer _ matched =>
    rintro _ ⟨⟩
    exact ⟨_, named, matched⟩

/-- An order ends the conditions, and without one what ends an order does. -/
theorem LenientOrder.stopsAt {order : Option (List Token)}
    (orders : LenientOrder following tokens order) (ends : StopsAt endsOrder following) :
    StopsAt endsConditions (tokens ++ following) := by
  cases orders with
  | omitted =>
    intro token rest whole
    have stops := ends token rest whole
    simp only [endsOrder, Bool.or_eq_true] at stops
    rcases stops with limits | query
    · simp [endsConditions, limits]
    · simp [endsConditions, query]
  | written orders sorts =>
    rintro _ _ ⟨⟩
    simp [endsConditions, orders, sorts]

/-- The part of a join before its limit is read, if the order ends where it does. -/
theorem readFront_complete {bodies : Bodies} {front : Front}
    (phrase : FrontPhrase text following tokens bodies front)
    (layout : Token.Layout 0 text (tokens ++ following)) (ends : StopsAt endsOrder following) :
    Yields (readFront text) (tokens ++ following) front following := by
  cases phrase with
  | @mk select source compare selected leftTokens typeTokens rightTokens columnTokens whereTokens
      orderTokens left right joinType columns conditions order selects shape free sources leftTable
      joins rightTable apart compares compared restricts orders =>
    have endsRight : EndsTable (compare :: (columnTokens ++ (whereTokens ++ (orderTokens ++
        following)))) := by
      rintro _ ⟨⟩
      exact ⟨"ON", by decide, compares⟩
    have layoutWhere : Token.Layout 0 text ((select :: (selected ++ source :: (leftTokens ++
        (typeTokens ++ (rightTokens ++ compare :: columnTokens))))) ++
        (whereTokens ++ (orderTokens ++ following))) := by
      simpa using layout
    have layoutOrder : Token.Layout 0 text ((select :: (selected ++ source :: (leftTokens ++
        (typeTokens ++ (rightTokens ++ compare :: (columnTokens ++ whereTokens)))))) ++
        (orderTokens ++ following)) := by
      simpa using layout
    have regrouped : select :: (selected ++ [source]) ++ (leftTokens ++ (typeTokens ++
        (rightTokens ++ (compare :: (columnTokens ++ (whereTokens ++ orderTokens)))))) ++
          following = select :: (selected ++ [source]) ++ (leftTokens ++ (typeTokens ++
        (rightTokens ++ (compare :: (columnTokens ++ (whereTokens ++ (orderTokens ++
          following))))))) := by simp
    rw [regrouped] at layout ⊢
    unfold readFront
    refine (readSelectList_complete (.mk selects shape free sources) layout).bind ?_
    refine (readTable_complete leftTable joins.endsTable).bind ?_
    refine (readJoinType_complete joins).bind ?_
    refine (readTable_complete rightTable endsRight).bind ?_
    refine yields_check.mpr ⟨by simp [apart], ?_⟩
    refine (yields_keyword.mpr ⟨rfl, compares⟩).bind ?_
    refine (readColumns_complete compared apart).bind ?_
    refine (readConditions_complete restricts layoutWhere (orders.stopsAt ends)).bind ?_
    exact (readOrder_complete orders layoutOrder ends).bind (yields_pure.mpr ⟨rfl, rfl⟩)

/-- Whatever is read before the limit of a join are the phrases before it. -/
theorem readFront_sound {front : Front} (layout : Token.Layout 0 text tokens)
    (read : Yields (readFront text) tokens front rest) :
    ∃ phrase bodies, tokens = phrase ++ rest ∧ FrontPhrase text rest phrase bodies front := by
  simp only [readFront, yields_bind] at read
  obtain ⟨selected, _, selectRead, left, _, leftRead, joinType, _, typeRead, right, _, rightRead,
    checked⟩ := read
  obtain ⟨selectTokens, rfl, selects⟩ := readSelectList_sound layout selectRead
  obtain ⟨leftTokens, rfl, leftTable⟩ := readTable_sound leftRead
  obtain ⟨typeTokens, rfl, joins⟩ := readJoinType_sound typeRead
  obtain ⟨rightTokens, rfl, rightTable⟩ := readTable_sound rightRead
  obtain ⟨apart, later⟩ := yields_check.mp checked
  simp only [yields_bind] at later
  obtain ⟨compare, _, compareRead, columns, behindColumns, columnsRead, conditions, behindWhere,
    conditionsRead, order, _, orderRead, last⟩ := later
  obtain ⟨rfl, compares⟩ := yields_keyword.mp compareRead
  obtain ⟨columnTokens, rfl, compared⟩ := readColumns_sound columnsRead
  have layoutWhere : Token.Layout 0 text ((selectTokens ++ (leftTokens ++ (typeTokens ++
      (rightTokens ++ compare :: columnTokens)))) ++ behindColumns) := by
    simpa using layout
  obtain ⟨whereTokens, restricting, rfl, restricts, rfl⟩ :=
    readConditions_sound layoutWhere conditionsRead
  have layoutOrder : Token.Layout 0 text ((selectTokens ++ (leftTokens ++ (typeTokens ++
      (rightTokens ++ compare :: (columnTokens ++ whereTokens))))) ++ behindWhere) := by
    simpa using layout
  obtain ⟨orderTokens, ordering, rfl, orders, rfl⟩ := readOrder_sound layoutOrder orderRead
  obtain ⟨rfl, rfl⟩ := yields_pure.mp last
  have different : sameName left.label.toList right.label.toList = false := by simpa using apart
  cases selects with
  | mk selects shape free sources =>
    exact ⟨_, _, by simp, .mk selects shape free sources leftTable joins rightTable different
      compares compared restricts orders⟩

end SqlGateway.JoinQuery
