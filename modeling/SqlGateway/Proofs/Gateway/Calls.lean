import SqlGateway.Gateway

/-!
# The calls of a query

Every call of a backend is recorded, with what the backend is asked, before the backend
does anything with it; so a call that fails or is stopped from outside is recorded as
well. Nothing is assumed of the backends: each one is any computation on a state of its
own, and recording changes neither this state nor what it answers.

A query is either refused before a backend is called, or run by one backend alone, or run
by both as the two sides of a join. Each backend is called at most once.

What a backend returns is taken over unchanged if it is as its type promises, with texts
for names and a whole number of rows. A result that breaks this promise is checked, and
gives an answer only if it passes.
-/

namespace SqlGateway

/-- What a backend is asked. -/
inductive Connector.Call where
  /-- To run a query. -/
  | execute (sql : String)
  /-- Whether it can be reached. -/
  | test
  /-- For its tables. -/
  | schemaMap
  deriving DecidableEq, Repr

/-- A run in front of which a call is recorded. -/
def Run.recording {σ α κ : Type} (call : κ) (run : Run σ α) : Run (σ × List κ) α := do
  modify fun recorded => (recorded.1, recorded.2 ++ [call])
  run.onFirst

/-- A backend whose calls are recorded. -/
def Connector.recorded {σ : Type} (connector : Connector σ) :
    Connector (σ × List Connector.Call) where
  execute sql := (connector.execute sql).recording (.execute sql)
  test := connector.test.recording .test
  schemaMap := connector.schemaMap.recording .schemaMap

/-- Backends whose calls are recorded. -/
def Federation.recorded {α β : Type} (federation : Federation α β) :
    Federation (α × List Connector.Call) (β × List Connector.Call) where
  warehouse := federation.warehouse.recorded
  transactional := federation.transactional.recorded

/-- A result whose columns and rows have texts for names and whose number of rows is a whole
    number. -/
def QueryResult.ofTyped (columns : List String) (rows : List Row) (rowCount : Int)
    (sql : String) : QueryResult where
  columns := columns.map .string
  rows := rows.map fun row => row.toList.map fun entry => (.string entry.1, entry.2)
  rowCount := .int rowCount
  sql := sql

/-- A result as its type promises is taken over as it is. -/
theorem Answer.ofResult_ofTyped (backend : Backend) (columns : List String) (rows : List Row)
    (rowCount : Int) (sql : String) :
    Answer.ofResult backend (.ofTyped columns rows rowCount sql) =
      .valid { columns, rows, rowCount, source := .backend backend } := by
  have names : Checked.all Validation.text (columns.map Value.string) = .valid columns :=
    Checked.all_map Validation.text Value.string Validation.text_string columns
  have records : Checked.all checkedRow (rows.map fun row =>
      row.toList.map fun entry => (Value.string entry.1, entry.2)) = .valid rows := by
    have passes : ∀ row : Row, checkedRow (row.toList.map fun entry =>
        (Value.string entry.1, entry.2)) = .valid row := by
      intro row
      rw [checkedRow_strings, row.ofList_toList]
    exact Checked.all_map checkedRow _ passes rows
  have count : Validation.int (Value.int rowCount) = .valid rowCount := rfl
  rw [ofResult, QueryResult.ofTyped]
  simp only [names, records, count]
  rfl

/-- What comes of a query that one backend has run: its failure, or an answer that names the
    backend and carries what it returned. -/
inductive Delivers (backend : Backend) : Outcome QueryResult → Outcome Answer → Prop
  | failed (failure : Failure) : Delivers backend (.error failure) (.error failure)
  | unchanged (columns : List String) (rows : List Row) (rowCount : Int) (sql : String) :
      Delivers backend (.ok (.ofTyped columns rows rowCount sql))
        (.ok { columns, rows, rowCount, source := .backend backend })
  | checked {result : QueryResult}
      (broken : ∀ columns rows rowCount sql, result ≠ .ofTyped columns rows rowCount sql) :
      Delivers backend (.ok result) (Answer.ofResult backend result).outcome

/-- The check of what a backend returned delivers it. -/
theorem delivers_bind (backend : Backend) (served : Outcome QueryResult) :
    Delivers backend served (served >>= fun result => (Answer.ofResult backend result).outcome) := by
  cases served with
  | error failure => exact .failed failure
  | ok result =>
    by_cases typed : ∃ columns rows rowCount sql, result = .ofTyped columns rows rowCount sql
    · obtain ⟨columns, rows, rowCount, sql, rfl⟩ := typed
      have passes := Answer.ofResult_ofTyped backend columns rows rowCount sql
      show Delivers backend _ (Answer.ofResult backend _).outcome
      rw [passes]
      exact .unchanged columns rows rowCount sql
    · apply Delivers.checked
      intro columns rows rowCount sql same
      exact typed ⟨columns, rows, rowCount, sql, same⟩

/-- The backend that runs a query alone, and the query that it is sent: in the dialect of the
    backend if the query names its tables, and as it is if it names none. -/
inductive RoutedTo (sql : String) : Backend → String → Prop
  | warehouse (named : Classification.ofText sql.toList = .warehouse) :
      RoutedTo sql .warehouse (.ofList (Backend.warehouse.adapt sql.toList))
  | transactional (named : Classification.ofText sql.toList = .transactional) :
      RoutedTo sql .transactional (.ofList (Backend.transactional.adapt sql.toList))
  | unprefixed (unnamed : Classification.ofText sql.toList = .unprefixed) :
      RoutedTo sql (defaultBackend sql.toList) sql

/-- How a query is planned: refused, as a join, or for one backend. -/
theorem plan_cases (strict : Bool) (sql : String) :
    (∃ rejection, Classification.ofText sql.toList = .cross ∧
        JoinQuery.parse strict sql.toList = .error rejection ∧
        Plan.ofText strict sql = (Fault.ofRejection rejection).raise) ∨
      (∃ query, Classification.ofText sql.toList = .cross ∧
        JoinQuery.parse strict sql.toList = .ok query ∧
        Plan.ofText strict sql = .ok (.cross query)) ∨
      ∃ backend query, RoutedTo sql backend query ∧
        Plan.ofText strict sql = .ok (.single backend query) := by
  cases classified : Classification.ofText sql.toList with
  | cross =>
    cases parsed : JoinQuery.parse strict sql.toList with
    | error rejection => exact Or.inl ⟨rejection, rfl, rfl, by simp [Plan.ofText, classified, parsed]⟩
    | ok query => exact Or.inr (Or.inl ⟨query, rfl, rfl, by simp [Plan.ofText, classified, parsed]⟩)
  | warehouse => exact Or.inr (Or.inr ⟨_, _, .warehouse classified, by simp [Plan.ofText, classified]⟩)
  | transactional =>
    exact Or.inr (Or.inr ⟨_, _, .transactional classified, by simp [Plan.ofText, classified]⟩)
  | unprefixed =>
    exact Or.inr (Or.inr ⟨_, _, .unprefixed classified, by simp [Plan.ofText, classified]⟩)

namespace Gateway

variable {α β : Type}

/-- The gateway with recorded backends. -/
def recorded (gateway : Gateway α β) :
    Gateway (α × List Connector.Call) (β × List Connector.Call) :=
  { gateway with federation := gateway.federation.recorded }

/-- The state after a query was counted. -/
def State.counted (state : State α β) (source : Source) : Outcome Answer → State α β
  | .ok _ => { state with queries := state.queries.increment (source, .success) }
  | .error failure =>
      if failure.isA .ordinary then
        { state with queries := state.queries.increment (source, .error) }
      else state

/-- Counting a query never fails. -/
theorem startIn_countQuery (source : Source) (outcome : Outcome Answer) (state : State α β) :
    (countQuery source outcome).startIn state = (.ok (), state.counted source outcome) := by
  cases outcome with
  | ok answer => rfl
  | error failure =>
    simp only [countQuery, State.counted]
    split <;> rfl

/-- What becomes of the backends when a query is planned and run. -/
def runPlanned (gateway : Gateway α β) (sql : String) (backends : α × β) :
    Outcome Answer × (α × β) :=
  match Plan.ofText gateway.strict sql with
  | .ok plan => (gateway.follow plan).startIn backends
  | .error failure => (.error failure, backends)

/-- A query is planned, run by the backends and counted, and nothing else is done. -/
theorem startIn_execute (gateway : Gateway α β) (sql : String) (before : State α β) :
    (gateway.execute sql).startIn before =
      let ran := gateway.runPlanned sql before.backends
      (ran.1, ({ before with backends := ran.2 } : State α β).counted (Source.ofText sql.toList)
        ran.1) := by
  have planned : (Run.attempt do
      let plan ← Run.ofOutcome (Plan.ofText gateway.strict sql)
      onBackends (gateway.follow plan)).startIn before =
        (.ok (gateway.runPlanned sql before.backends).1,
          { before with backends := (gateway.runPlanned sql before.backends).2 }) := by
    unfold runPlanned
    cases Plan.ofText gateway.strict sql with
    | ok plan => rfl
    | error failure => rfl
  rw [execute, Run.startIn_bind_of_ok planned, Run.startIn_bind_of_ok (startIn_countQuery _ _ _)]
  rfl

/-- Counting a query does nothing to the backends. -/
theorem State.backends_counted (state : State α β) (source : Source) (outcome : Outcome Answer) :
    (state.counted source outcome).backends = state.backends := by
  cases outcome with
  | ok answer => rfl
  | error failure =>
    simp only [State.counted]
    split <;> rfl

/-- How a query is served, from the states and the calls of both backends before it to its
    outcome and to those behind it. -/
inductive Serves (gateway : Gateway α β) (sql : String) (warehouse : α × List Connector.Call)
    (transactional : β × List Connector.Call) :
    Outcome Answer → (α × List Connector.Call) × (β × List Connector.Call) → Prop
  | refused {rejection : JoinQuery.Rejection}
      (crosses : Classification.ofText sql.toList = .cross)
      (rejected : JoinQuery.parse gateway.strict sql.toList = .error rejection) :
      Serves gateway sql warehouse transactional (Fault.ofRejection rejection).raise
        (warehouse, transactional)
  | joined {query : JoinQuery} {left right : Outcome QueryResult} {afterLeft : α} {afterRight : β}
      (crosses : Classification.ofText sql.toList = .cross)
      (accepted : JoinQuery.parse gateway.strict sql.toList = .ok query)
      (leftRuns : (gateway.federation.warehouse.execute query.leftQuery).startIn warehouse.1 =
        (left, afterLeft))
      (rightRuns :
        (gateway.federation.transactional.execute query.rightQuery).startIn transactional.1 =
          (right, afterRight)) :
      Serves gateway sql warehouse transactional (Federation.joinOutcomes query left right)
        ((afterLeft, warehouse.2 ++ [.execute query.leftQuery]),
          (afterRight, transactional.2 ++ [.execute query.rightQuery]))
  | atWarehouse {query : String} {served : Outcome QueryResult} {outcome : Outcome Answer}
      {after : α} (routed : RoutedTo sql .warehouse query)
      (runs : (gateway.federation.warehouse.execute query).startIn warehouse.1 = (served, after))
      (delivered : Delivers .warehouse served outcome) :
      Serves gateway sql warehouse transactional outcome
        ((after, warehouse.2 ++ [.execute query]), transactional)
  | atTransactional {query : String} {served : Outcome QueryResult} {outcome : Outcome Answer}
      {after : β} (routed : RoutedTo sql .transactional query)
      (runs : (gateway.federation.transactional.execute query).startIn transactional.1 =
        (served, after))
      (delivered : Delivers .transactional served outcome) :
      Serves gateway sql warehouse transactional outcome
        (warehouse, (after, transactional.2 ++ [.execute query]))

/-- What one backend has run is checked, and the other backend is not asked. -/
theorem startIn_follow_single (gateway : Gateway α β) (backend : Backend) (sql : String)
    (backends : α × β) :
    (gateway.follow (.single backend sql)).startIn backends =
      let served := (gateway.federation.execute backend sql).startIn backends
      (served.1 >>= fun result => (Answer.ofResult backend result).outcome, served.2) := by
  cases ran : (gateway.federation.execute backend sql).startIn backends with
  | mk served after =>
    cases served with
    | error failure => exact Run.startIn_bind_of_error ran
    | ok result => exact Run.startIn_bind_of_ok ran

/-- The recorded backends serve every query as it has to be served. -/
theorem serves_runPlanned (gateway : Gateway α β) (sql : String)
    (backends : (α × List Connector.Call) × (β × List Connector.Call)) :
    Serves gateway sql backends.1 backends.2 (gateway.recorded.runPlanned sql backends).1
      (gateway.recorded.runPlanned sql backends).2 := by
  have strictness : gateway.recorded.strict = gateway.strict := rfl
  unfold runPlanned
  rw [strictness]
  rcases plan_cases gateway.strict sql with
    ⟨rejection, crosses, rejected, planned⟩ | ⟨query, crosses, accepted, planned⟩ |
      ⟨backend, query, routed, planned⟩
  · rw [planned]
    exact .refused crosses rejected
  · rw [planned]
    exact .joined crosses accepted rfl rfl
  · rw [planned]
    dsimp only
    rw [startIn_follow_single]
    cases backend with
    | warehouse => exact .atWarehouse routed rfl (delivers_bind .warehouse _)
    | transactional => exact .atTransactional routed rfl (delivers_bind .transactional _)

/-- The state without the recorded calls. -/
def State.withoutCalls (state : State (α × List Connector.Call) (β × List Connector.Call)) :
    State α β :=
  { state with backends := (state.backends.1.1, state.backends.2.1) }

/-- The calls do not matter for counting a query. -/
theorem State.withoutCalls_counted
    (state : State (α × List Connector.Call) (β × List Connector.Call)) (source : Source)
    (outcome : Outcome Answer) :
    (state.counted source outcome).withoutCalls = state.withoutCalls.counted source outcome := by
  cases outcome with
  | ok answer => rfl
  | error failure =>
    simp only [State.counted]
    split <;> rfl

/-- Without the calls the recorded backends do what the backends do. -/
theorem runPlanned_withoutCalls (gateway : Gateway α β) (sql : String)
    (backends : (α × List Connector.Call) × (β × List Connector.Call)) :
    gateway.runPlanned sql (backends.1.1, backends.2.1) =
      let recorded := gateway.recorded.runPlanned sql backends
      (recorded.1, (recorded.2.1.1, recorded.2.2.1)) := by
  have strictness : gateway.recorded.strict = gateway.strict := rfl
  unfold runPlanned
  rw [strictness]
  cases Plan.ofText gateway.strict sql with
  | error failure => rfl
  | ok plan =>
    cases plan with
    | cross query => rfl
    | single backend query =>
      dsimp only
      rw [startIn_follow_single, startIn_follow_single]
      cases backend with
      | warehouse => rfl
      | transactional => rfl

/-- Every query, in every state and whatever the backends do, makes exactly the calls that it
    has to make: none if it is refused as a join, one of each backend with the query of its
    side if it is a join, and otherwise one of the backend to which it is routed. Its outcome
    is that of these calls, and recording them has changed neither the outcome nor the state. -/
theorem execute_serves (gateway : Gateway α β) (sql : String)
    (before : State (α × List Connector.Call) (β × List Connector.Call)) :
    ∃ outcome after, (gateway.recorded.execute sql).startIn before = (outcome, after) ∧
      (gateway.execute sql).startIn before.withoutCalls = (outcome, after.withoutCalls) ∧
      Serves gateway sql before.backends.1 before.backends.2 outcome after.backends := by
  refine ⟨_, _, startIn_execute gateway.recorded sql before, ?_, ?_⟩
  · rw [startIn_execute]
    have erased := runPlanned_withoutCalls gateway sql before.backends
    have same : before.withoutCalls.backends = (before.backends.1.1, before.backends.2.1) := rfl
    rw [same, erased, State.withoutCalls_counted]
    rfl
  · rw [State.backends_counted]
    exact serves_runPlanned gateway sql before.backends

end Gateway

end SqlGateway
