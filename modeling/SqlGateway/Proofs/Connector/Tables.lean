import SqlGateway.Proofs.Warehouse.Tables
import SqlGateway.Transactional.Client

/-!
# Results of both backends

Whatever a service or an engine answers, a result that a connector gives is a table or a
count. A table has distinct columns, and every row of it has exactly these with the values
of one record; a count has no columns and no rows, and is not below zero. All that is asked
of the answers is that records are as wide as their columns and, of the warehouse, that its
first page describes columns, because the records of a page without columns would be left
without names.

Which of the two a result is depends on what the backend has said about the query, and not
on the query.
-/

namespace SqlGateway

namespace Transactional

/-- A count of rows that is taken is not below zero. -/
theorem countOfRows_notBelow {rowCount count : Value} (counted : countOfRows rowCount = .ok count) :
    ∃ number, count.number? = some number ∧ number.isLess (.whole 0) = false := by
  unfold countOfRows at counted
  cases isNumber : rowCount.number? with
  | none => rw [isNumber] at counted; cases counted
  | some number =>
    rw [isNumber] at counted
    obtain ⟨below, compared, counted⟩ := exists_of_bind_ok counted
    cases below with
    | true =>
      cases counted
      exact ⟨.whole 0, rfl, rfl⟩
    | false =>
      cases counted
      refine ⟨number, isNumber, ?_⟩
      unfold Number.isBefore at compared
      split at compared
      · cases compared
      · exact Except.ok.inj compared

/-- What a transaction decides about a result that came of it. -/
def Reply.Yields (reply : Reply) (result : QueryResult) : Prop :=
  match reply with
  | .selected names records =>
      (∀ record ∈ records, record.length = names.length) → result.Tabulates records
  | .changed _ => result.Counts
  | .failed _ | .refused _ => False

/-- A transaction with a result yields what it decides. -/
theorem Reply.yields_of_result {reply : Reply} {sql : String} {result : QueryResult}
    (gives : reply.result sql = .ok result) : reply.Yields result := by
  cases reply with
  | selected names records =>
    intro wide
    obtain ⟨columns, named, gives⟩ := exists_of_bind_ok gives
    cases gives
    obtain ⟨distinct, count⟩ := Column.pairwise_ofNames named
    rw [← count] at wide
    exact QueryResult.tabulates_ofRecords distinct wide sql
  | changed rowCount =>
    obtain ⟨count, counted, gives⟩ := exists_of_bind_ok gives
    cases gives
    exact ⟨rfl, rfl, countOfRows_notBelow counted⟩
  | failed => cases gives
  | refused => cases gives

/-- A result that an engine gives is decided about by the query's transaction. -/
theorem Engine.yields_of_execute {σ : Type} (engine : Engine σ) (sql : String)
    {before after : Session σ} {result : QueryResult}
    (gives : (engine.execute sql).startIn before = (.ok result, after)) :
    (engine.transact sql before.state).1.Yields result := by
  have executes : ((engine.execute sql).startIn before).1 =
      (((engine.transact sql before.state).1.result sql).mapError ofTransaction).mapError
        Failure.ofExecution := rfl
  rw [gives] at executes
  cases given : (engine.transact sql before.state).1.result sql with
  | error failure => rw [given] at executes; cases executes
  | ok value =>
    rw [given] at executes
    cases executes
    exact Reply.yields_of_result given

/-- An engine that selects two rows under two equal names first and changes three rows by
    every later query. -/
def sampleEngine : Engine Nat where
  transact _ round :=
    (match round with
      | 0 => .selected [.string "id", .string "id"] [[.int 1, .int 2], [.int 3, .null]]
      | _ + 1 => .changed (.int 3), round + 1)

end Transactional

namespace Connector

/-- Every result of a backend is a table or a count. Of the warehouse: it comes of a history
    that the service goes through, in which the statement was said to have finished. If it
    was said to have nothing to fetch, the result is a count. Otherwise pages were fetched,
    and if the first one describes columns and all records are as wide as the columns of the
    result, it tabulates the records of all pages. Of the transactional server: a query that
    selects records as wide as their names has a table of them, one that selects nothing has
    a count, and a query that fails has no result. -/
theorem results_wellFormed {σ τ : Type} (client : Warehouse.Client σ)
    (engine : Transactional.Engine τ) (sql : String) :
    (∀ before after result, (client.execute sql).startIn before = (.ok result, after) →
      ∃ events, client.service.Path before.state events after.state ∧
        Warehouse.Yields events result) ∧
    (∀ before after result, (engine.execute sql).startIn before = (.ok result, after) →
      (engine.transact sql before.state).1.Yields result) := by
  constructor
  · intro before after result gives
    exact client.yields_of_execute sql gives
  · intro before after result gives
    exact engine.yields_of_execute sql gives

/-- A run that is found to give a result gives one. -/
theorem exists_result_of_toBool {σ α : Type} {ran : Outcome α × σ} (given : ran.1.toBool = true) :
    ∃ result after, ran = (.ok result, after) := by
  obtain ⟨outcome, after⟩ := ran
  cases outcome with
  | error failure => cases given
  | ok result => exact ⟨result, after, rfl⟩

/-- Both samples answer: the service with one page, and the engine with a table whose names
    were equal. -/
theorem results_wellFormed_samples :
    (∃ result after, (Warehouse.sampleClient.execute "SELECT 1").startIn { state := 0 } =
        (.ok result, after) ∧
      ∃ events, Warehouse.sampleService.Path 0 events after.state ∧
        Warehouse.Yields events result) ∧
    ∃ result after, (Transactional.sampleEngine.execute "SELECT 1").startIn { state := 0 } =
        (.ok result, after) ∧
      result.Tabulates [[.int 1, .int 2], [.int 3, .null]] := by
  have wellFormed :=
    results_wellFormed Warehouse.sampleClient Transactional.sampleEngine "SELECT 1"
  constructor
  · obtain ⟨result, after, gives⟩ := exists_result_of_toBool
      (by decide +kernel : ((Warehouse.sampleClient.execute "SELECT 1").startIn
        { state := 0 }).1.toBool = true)
    exact ⟨result, after, gives, wellFormed.1 _ _ _ gives⟩
  · obtain ⟨result, after, gives⟩ := exists_result_of_toBool
      (by decide +kernel : ((Transactional.sampleEngine.execute "SELECT 1").startIn
        { state := 0 }).1.toBool = true)
    have selected : (∀ record ∈ [[Value.int 1, .int 2], [.int 3, .null]], record.length = 2) →
        result.Tabulates [[.int 1, .int 2], [.int 3, .null]] := wellFormed.2 _ _ _ gives
    exact ⟨result, after, gives, selected (by simp)⟩

end Connector

end SqlGateway
