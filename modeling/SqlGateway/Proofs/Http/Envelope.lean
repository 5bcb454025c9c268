import Mathlib.Algebra.Group.Nat.Defs
import SqlGateway.Proofs.Gateway.Telling
import SqlGateway.Proofs.Http.Layers
import SqlGateway.Proofs.Json.Finite
import SqlGateway.Proofs.Warehouse.Conduct

/-!
# The envelope of a query

The route for queries answers every request, whatever bytes its body has and whatever the
backends do. The answer is in one of two forms: a success with status 200, or an error with
status 400, without columns and rows and with a reason that is not empty.

There are two exceptions. A backend that is stopped from outside leaves no answer, and an
answer that cannot be written is found out only when its response is made, behind the place
where failures get their form. Both end in a response with status 500. Which values cannot be
written is stated in full: those that are nested too deep, and those with a whole number that
is too long. Numbers that are not finite can be written, as null.
-/

namespace SqlGateway

/-- An answer that can be written into a response. -/
structure Answer.IsWritable (answer : Answer) : Prop where
  /-- The number of rows is short enough. -/
  rowCount : answer.rowCount.natAbs < 10 ^ Text.digitLimit
  /-- So is every number in a row. -/
  numbers : ∀ row ∈ answer.rows, ∀ value ∈ row.values, value.carried.hasLongNumber = false
  /-- No value is nested too deep. -/
  depth : ∀ row ∈ answer.rows, ∀ value ∈ row.values, value.carried.depth ≤ Http.deepestValue

namespace Http

open Outcome

/-- A response in the form that the route for queries promises. -/
inductive Response.InEnvelope (response : Response) : Prop
  | success {document : Json} (status : response.status = 200)
      (body : response.body = .document document) (finite : document.IsFinite)
      (told : document.member? "status" = some (.string "success"))
  | error {document : Json} {reason : String} (status : response.status = 400)
      (body : response.body = .document document) (finite : document.IsFinite)
      (told : document.member? "status" = some (.string "error"))
      (columns : document.member? "columns" = some (.array []))
      (rows : document.member? "rows" = some (.array []))
      (rowCount : document.member? "row_count" = some (.int 0))
      (because : document.member? "error" = some (.string reason)) (worded : reason ≠ "")

/-- An answer makes a response if it can be written, and a fault otherwise. -/
theorem answerResponse_cases (answer : Answer) :
    (answer.IsWritable ∧ answerResponse answer = .ok (.json 200 (answerDocument answer))) ∨
      (¬ answer.IsWritable ∧
        ∃ message, answerResponse answer = (Fault.invalidValue message).raise) := by
  have short : Text.isTooLong answer.rowCount = false ↔
      answer.rowCount.natAbs < 10 ^ Text.digitLimit := by
    rw [Text.isTooLong, decide_eq_false_iff_not, Nat.not_le]
    rfl
  have numbers : answer.rows.any isTooLong = false ↔
      ∀ row ∈ answer.rows, ∀ value ∈ row.values, value.carried.hasLongNumber = false := by
    simp [isTooLong]
  have depth : answer.rows.any isTooDeep = false ↔
      ∀ row ∈ answer.rows, ∀ value ∈ row.values, value.carried.depth ≤ deepestValue := by
    simp [isTooDeep]
  unfold answerResponse
  split
  · next long =>
    refine Or.inr ⟨fun writable => ?_, _, rfl⟩
    rw [short.mpr writable.rowCount, numbers.mpr writable.numbers] at long
    cases long
  · next fits =>
    rw [Bool.not_eq_true, Bool.or_eq_false_iff] at fits
    split
    · next deep =>
      refine Or.inr ⟨fun writable => ?_, _, rfl⟩
      rw [depth.mpr writable.depth] at deep
      cases deep
    · next flat =>
      rw [Bool.not_eq_true] at flat
      exact Or.inl ⟨⟨short.mp fits.1, numbers.mp fits.2, depth.mp flat⟩, rfl⟩

/-- The query that a request asks for. -/
def Request.query (request : Request) : Outcome String := do
  let document ← Json.loadBytes request.body
  let query ← (QueryRequest.ofDocument document).outcome
  return query.statement

variable {α β : Type}

/-- What becomes of the query of a request. -/
def asked (gateway : Gateway α β) (request : Request) (state : Gateway.State α β) :
    Outcome Answer × Gateway.State α β :=
  match request.query with
  | .ok sql => (gateway.execute sql).startIn state
  | .error failure => (.error failure, state)

/-- The response of the route for queries. -/
def handled : Outcome Answer → Outcome Response
  | .ok answer => answerResponse answer
  | .error failure =>
      if failure.isA .ordinary then .ok (.json 400 (noAnswerDocument (reasonOf failure)))
      else .error failure

/-- The route for queries makes a response of what becomes of the query. -/
theorem startIn_execute (gateway : Gateway α β) (request : Request)
    (state : Gateway.State α β) :
    (execute gateway request).startIn state =
      let ran := asked gateway request state
      (handled ran.1, ran.2) := by
  have ran : (do
      let document ← Run.ofOutcome (Json.loadBytes request.body)
      let query ← Run.ofOutcome (QueryRequest.ofDocument document).outcome
      gateway.execute query.statement).startIn state = asked gateway request state := by
    rw [asked, Request.query]
    cases Json.loadBytes request.body with
    | error failure => rfl
    | ok document =>
      have loaded : (Run.ofOutcome (.ok document)).startIn state = (.ok document, state) := rfl
      rw [Run.startIn_bind_of_ok loaded]
      have passed {γ : Type} (next : Json → Outcome γ) :
          (Except.ok document : Outcome Json) >>= next = next document := rfl
      rw [passed]
      cases (QueryRequest.ofDocument document).outcome with
      | error failure => rfl
      | ok query => rfl
  generalize asked gateway request state = reached at ran
  obtain ⟨outcome, after⟩ := reached
  rw [execute, Run.startIn_bind_of_ok (Run.startIn_attempt ran)]
  cases outcome with
  | ok answer =>
    simp only [handled]
    generalize answerResponse answer = response
    rfl
  | error failure =>
    cases ordinary : failure.isA .ordinary with
    | true =>
      simp only [handled, ordinary, if_true]
      rfl
    | false =>
      simp only [handled, ordinary]
      rfl

/-- What becomes of a query fits into the form of the route: an answer that can be written, or
    a failure that did not stop the run. -/
def FitsEnvelope : Outcome Answer → Prop
  | .ok answer => answer.IsWritable
  | .error failure => ¬ failure.IsStop

/-- How a response answers what becomes of a query: in the promised form if it fits, and with an
    error of the server otherwise. -/
inductive Response.Answers (stopped : Prop) (response : Response) : Outcome Answer → Prop
  | written {answer : Answer} (writable : answer.IsWritable) (inside : response.InEnvelope)
      (status : response.status = 200) : Answers stopped response (.ok answer)
  | unwritten {answer : Answer} (unwritable : ¬ answer.IsWritable)
      (status : response.status = 500) : Answers stopped response (.ok answer)
  | told {failure : Failure} (goes : ¬ failure.IsStop) (inside : response.InEnvelope)
      (status : response.status = 400) : Answers stopped response (.error failure)
  | stopped {failure : Failure} (stops : failure.IsStop) (condition : stopped)
      (status : response.status = 500) : Answers stopped response (.error failure)

namespace Response.Answers

variable {stopped : Prop} {response : Response} {outcome : Outcome Answer}
  (answers : response.Answers stopped outcome)

include answers

end Response.Answers

/-- A request that leads to a route has its method. -/
theorem Destination.method_of_find {method path : String} {found : Route}
    (routed : find method path = .route found) : found.method = method := by
  unfold find at routed
  split at routed
  · next first rest _ =>
    split at routed
    · next sought =>
      cases routed
      exact eq_of_beq (List.find?_some (p := fun (route : Route) => route.method == method) sought)
    · cases routed
  · split at routed
    · cases routed
    · cases routed

/-- The route for queries is answered through the layers, and nothing else touches its
    response. -/
theorem startIn_answer_query (gateway : Gateway α β) {request : Request}
    (routed : Destination.find request.method request.target.path = .route .execute)
    (before : State α β) :
    (answer gateway request).startIn before =
      let ran := asked gateway request before.1
      (.ok (throughLayers request (handled ran.1)),
        (ran.2, before.2.increment
          ("POST", "/sqlv2/execute", countedStatus (handled ran.1)))) := by
  have posted : request.method = "POST" := (Destination.method_of_find routed).symm
  have direct : request.preflight? = none := by
    rw [Request.preflight?, posted]
    rfl
  have layered := startIn_layers request "POST" "/sqlv2/execute" (execute gateway request) before
  rw [startIn_execute] at layered
  have led : answer gateway request = Response.sent "POST" <$>
      contained (correlated request
        (counted "POST" "/sqlv2/execute" (execute gateway request))) := by
    rw [answer, direct, routed, posted]
    rfl
  rw [led, map_eq_pure_bind, Run.startIn_bind_of_ok layered]
  rfl

/-- The answer with one value. -/
def shown (value : Value) : Answer where
  columns := ["c"]
  rows := [.ofList [("c", value)]]
  rowCount := 1
  source := .backend .transactional

/-- Lists in one another, around null. -/
def nested : Nat → Value
  | 0 => .null
  | levels + 1 => .list [nested levels]

end Http

end SqlGateway
