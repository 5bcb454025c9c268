import SqlGateway.Federation
import SqlGateway.Proofs.Join.Pushdown

/-!
# Rows that conditions exclude

Each backend applies the conditions on its own table, and the rows that it leaves out are
gone before the join begins. So a row of one table that its condition refuses is never
seen again, whatever the kind of join.

This does not make every joined row satisfy every condition. An outer join puts an absent
row beside a row without a partner, and it does so after the conditions were applied: a
row whose partners were all refused has no partner any more, and the absent row beside it
was never asked. These absent rows are all that can fail a condition. Nothing is assumed
of the conditions, of the columns or of the limit.
-/

namespace SqlGateway

/-- The join of the results of both sides. -/
def JoinQuery.join (query : JoinQuery) : Join where
  joinType := query.joinType
  leftAlias := query.left.label
  rightAlias := query.right.label
  leftColumn := query.leftColumn
  rightColumn := query.rightColumn
  limit := query.limit

namespace Federation

/-- What both sides answer decides about the answer: the rows joined from two results. -/
theorem rows_of_joinOutcomes {query : JoinQuery} {left right : QueryResult} {answer : Answer}
    (answered : joinOutcomes query (.ok left) (.ok right) = .ok answer) :
    query.join.run left right = .ok answer.rows := by
  have joined : (Answer.ofJoined <$> query.join.run left right) = .ok answer := answered
  cases ran : query.join.run left right with
  | error failure => rw [ran] at joined; cases joined
  | ok rows =>
    rw [ran] at joined
    cases joined
    rfl

end Federation

namespace Join

/-- A run that gives rows has found both join columns, and each of its rows comes from rows
    that meet. -/
theorem exists_meets_of_run {join : Join} {left right : QueryResult} {rows : List Row}
    (ran : join.run left right = .ok rows) :
    ∃ leftKey rightKey,
      resolveColumn left.columns join.leftColumn (Backend.name .warehouse) = .ok leftKey ∧
      resolveColumn right.columns join.rightColumn (Backend.name .transactional) = .ok rightKey ∧
      ∀ row ∈ rows, ∃ fromLeft fromRight, row = join.merge fromLeft fromRight ∧
        join.Meets leftKey rightKey left right fromLeft fromRight := by
  cases leftResolved :
      resolveColumn left.columns join.leftColumn (Backend.name .warehouse) with
  | error failure => rw [run, leftResolved] at ran; cases ran
  | ok leftKey =>
    cases rightResolved :
        resolveColumn right.columns join.rightColumn (Backend.name .transactional) with
    | error failure => rw [run, leftResolved, rightResolved] at ran; cases ran
    | ok rightKey =>
      refine ⟨leftKey, rightKey, rfl, rfl, ?_⟩
      rw [run_of_resolved join leftResolved rightResolved] at ran
      cases ran
      intro row member
      have cut := firstRows_prefix join.limit (join.nestedLoop leftKey rightKey left right)
      have unlimited : row ∈ join.nestedLoop leftKey rightKey left right := cut.subset member
      obtain ⟨pair, inPairs, rfl⟩ := List.mem_map.mp unlimited
      exact ⟨pair.1, pair.2, rfl, mem_pairs_iff.mp inPairs⟩

/-- Rows that meet after both sides were thinned out satisfy the conditions, apart from an
    absent row beside a row that is kept without a partner. -/
theorem Meets.satisfies {join : Join} {leftKey rightKey : String} {left right : QueryResult}
    {onLeft onRight : BackendRow → Bool} {fromLeft fromRight : BackendRow}
    (met : join.Meets leftKey rightKey (left.restrict onLeft) (right.restrict onRight)
      fromLeft fromRight) :
    (onLeft fromLeft = true ∨
        join.joinType.keepsRight = true ∧ fromLeft = .ofNulls left.columns ∧
          onRight fromRight = true) ∧
      (onRight fromRight = true ∨
        join.joinType.keepsLeft = true ∧ fromRight = .ofNulls right.columns ∧
          onLeft fromLeft = true) := by
  cases met with
  | partners inLeft inRight _ =>
    have leftHolds := (List.mem_filter.mp inLeft).2
    have rightHolds := (List.mem_filter.mp inRight).2
    exact ⟨Or.inl leftHolds, Or.inl rightHolds⟩
  | leftAlone kept inLeft _ =>
    have leftHolds := (List.mem_filter.mp inLeft).2
    exact ⟨Or.inl leftHolds, Or.inr ⟨kept, rfl, leftHolds⟩⟩
  | rightAlone kept inRight _ =>
    have rightHolds := (List.mem_filter.mp inRight).2
    exact ⟨Or.inr ⟨kept, rfl, rightHolds⟩, Or.inl rightHolds⟩

end Join

namespace Federation

variable {α β : Type}

/-- A join of tables of which each backend returns the rows that satisfy its condition: in
    every row of the answer, the part of each side satisfies the condition on this side,
    unless it is the absent row that an outer join puts beside a row without a partner.
    The left part can be absent in right and full joins only, the right part in left and
    full joins only, and never both. In an inner join all parts satisfy their conditions. -/
theorem parts_satisfy_or_absent (federation : Federation α β) (query : JoinQuery)
    (before after : α × β) (left right : QueryResult) (onLeft onRight : BackendRow → Bool)
    (warehouseServes : (federation.warehouse.execute query.leftQuery).startIn before.1 =
      (.ok (left.restrict onLeft), after.1))
    (transactionalServes : (federation.transactional.execute query.rightQuery).startIn before.2 =
      (.ok (right.restrict onRight), after.2))
    (answer : Answer) (answered : ((federation.join query).startIn before).1 = .ok answer) :
    ∃ leftKey rightKey,
      Join.resolveColumn left.columns query.leftColumn "redshift" = .ok leftKey ∧
      Join.resolveColumn right.columns query.rightColumn "sqlserver" = .ok rightKey ∧
      ∀ row ∈ answer.rows, ∃ fromLeft fromRight,
      row = query.join.merge fromLeft fromRight ∧
      query.join.Meets leftKey rightKey (left.restrict onLeft) (right.restrict onRight)
        fromLeft fromRight ∧
      (onLeft fromLeft = true ∨
        query.joinType.keepsRight = true ∧ fromLeft = .ofNulls left.columns ∧
          onRight fromRight = true) ∧
      (onRight fromRight = true ∨
        query.joinType.keepsLeft = true ∧ fromRight = .ofNulls right.columns ∧
          onLeft fromLeft = true) := by
  have ran : query.join.run (left.restrict onLeft) (right.restrict onRight) = .ok answer.rows := by
    apply rows_of_joinOutcomes
    rw [startIn_join, warehouseServes, transactionalServes] at answered
    exact answered
  obtain ⟨leftKey, rightKey, leftResolved, rightResolved, fromMeeting⟩ :=
    Join.exists_meets_of_run ran
  refine ⟨leftKey, rightKey, leftResolved, rightResolved, ?_⟩
  intro row member
  obtain ⟨fromLeft, fromRight, merged, met⟩ := fromMeeting row member
  exact ⟨fromLeft, fromRight, merged, met, met.satisfies⟩

/-- A backend that answers every query with the same result. -/
def answering (result : QueryResult) : Connector Unit where
  execute _ := pure result
  test := pure true
  schemaMap := pure []

/-- Whether a column has a value of some text. -/
def hasText (column text : String) (row : BackendRow) : Bool :=
  (row.value column).text == text

/-- The customers of one name with their orders of one number, where customers without
    such an order are kept. -/
def orderOfAda : JoinQuery where
  left := { schema := "public", name := "customers", label := "c" }
  right := { schema := "dbo", name := "orders", label := "o" }
  joinType := .left
  leftColumn := "id"
  rightColumn := "customer"
  whereClause := some "c.name = 'Ada' AND o.order_id = 11"
  leftConditions := ["name = 'Ada'"]
  rightConditions := ["order_id = 11"]

/-- Backends that apply both conditions of the sample. -/
def sampleBackends : Federation Unit Unit where
  warehouse := answering (Join.customers.restrict (hasText "name" "Ada"))
  transactional := answering (Join.orders.restrict (hasText "order_id" "11"))

/-- The sample is answered by the customer beside an absent order. -/
theorem join_orderOfAda :
    ((sampleBackends.join orderOfAda).startIn ((), ())).1 = .ok (.ofJoined [
      .ofList [("c_id", .int 1), ("c_name", .string "Ada"),
        ("o_order_id", .null), ("o_Customer", .null)]]) := by
  have leftResolved : Join.resolveColumn Join.customers.columns "id" "redshift" = .ok "id" := rfl
  have rightResolved :
      Join.resolveColumn Join.orders.columns "customer" "sqlserver" = .ok "Customer" := rfl
  have joined : (sampleBackends.join orderOfAda).startIn ((), ()) =
      (Answer.ofJoined <$> orderOfAda.join.run
        (Join.customers.restrict (hasText "name" "Ada"))
        (Join.orders.restrict (hasText "order_id" "11")), ((), ())) := rfl
  have ran : orderOfAda.join.run (Join.customers.restrict (hasText "name" "Ada"))
      (Join.orders.restrict (hasText "order_id" "11")) = .ok _ :=
    Join.run_of_resolved orderOfAda.join leftResolved rightResolved
  rw [joined, ran]
  rfl

/-- What the statement says of the sample: the part of the customer satisfies its
    condition, and the part of the order is absent. -/
theorem parts_satisfy_or_absent_orderOfAda :
    (sampleBackends.warehouse.execute orderOfAda.leftQuery).startIn () =
        (.ok (Join.customers.restrict (hasText "name" "Ada")), ()) ∧
      (sampleBackends.transactional.execute orderOfAda.rightQuery).startIn () =
        (.ok (Join.orders.restrict (hasText "order_id" "11")), ()) ∧
      ∃ answer, ((sampleBackends.join orderOfAda).startIn ((), ())).1 = .ok answer ∧
        ∃ leftKey rightKey,
          Join.resolveColumn Join.customers.columns "id" "redshift" = .ok leftKey ∧
          Join.resolveColumn Join.orders.columns "customer" "sqlserver" = .ok rightKey ∧
          ∀ row ∈ answer.rows, ∃ fromLeft fromRight,
          row = orderOfAda.join.merge fromLeft fromRight ∧
          orderOfAda.join.Meets leftKey rightKey
            (Join.customers.restrict (hasText "name" "Ada"))
            (Join.orders.restrict (hasText "order_id" "11")) fromLeft fromRight ∧
          (hasText "name" "Ada" fromLeft = true ∨
            JoinType.left.keepsRight = true ∧ fromLeft = .ofNulls Join.customers.columns ∧
              hasText "order_id" "11" fromRight = true) ∧
          (hasText "order_id" "11" fromRight = true ∨
            JoinType.left.keepsLeft = true ∧ fromRight = .ofNulls Join.orders.columns ∧
              hasText "name" "Ada" fromLeft = true) :=
  ⟨rfl, rfl, _, join_orderOfAda,
    parts_satisfy_or_absent sampleBackends orderOfAda ((), ()) ((), ()) Join.customers Join.orders
      (hasText "name" "Ada") (hasText "order_id" "11") rfl rfl _ join_orderOfAda⟩

/-- Conditions that no row of nulls satisfies, applied by both backends, do not keep a row
    that fails one of them out of the answer: every order of the customer is refused, and
    the answer holds the customer with an order that the condition refuses as well. -/
theorem join_returns_refused_part :
    hasText "name" "Ada" (.ofNulls Join.customers.columns) = false ∧
      hasText "order_id" "11" (.ofNulls Join.orders.columns) = false ∧
      (sampleBackends.warehouse.execute orderOfAda.leftQuery).startIn () =
        (.ok (Join.customers.restrict (hasText "name" "Ada")), ()) ∧
      (sampleBackends.transactional.execute orderOfAda.rightQuery).startIn () =
        (.ok (Join.orders.restrict (hasText "order_id" "11")), ()) ∧
      ∃ answer, ((sampleBackends.join orderOfAda).startIn ((), ())).1 = .ok answer ∧
        ∃ row ∈ answer.rows,
          hasText "order_id" "11" (Join.partOf "o" Join.orders.columns row) = false := by
  refine ⟨by decide, by decide, rfl, rfl, _, join_orderOfAda, _, List.mem_singleton.mpr rfl, ?_⟩
  decide

end Federation

end SqlGateway
