import SqlGateway.Proofs.Gateway.Browsing
import SqlGateway.Proofs.Http.Envelope

/-!
# The name of a request in its response

A caller that names its request gets a response whatever happens, and the response carries the
name exactly if the handler of the request gives a response. The response that the outer layer
makes of a failure carries no name at all, since the name is written in a layer within.

For the route for queries, which makes its responses to failures itself, this means: the name is
there unless the answer cannot be written or the run is stopped. The other routes leave failures
to the outer layer, so a backend can take the name away.
-/

namespace SqlGateway.Http

/-- The caller names its request, and the name is not empty. -/
structure Request.IsNamed (request : Request) (name : String) : Prop where
  /-- The header is there. -/
  told : request.header? correlationHeader = some name
  /-- It holds a name. -/
  nonempty : name ≠ ""

/-- The name that the caller gives to its request is the name of the request. -/
theorem Request.IsNamed.correlation_eq {request : Request} {name : String}
    (named : request.IsNamed name) : request.correlation = .given name := by
  have kept : (request.header? correlationHeader).filter (!·.isEmpty) = some name := by
    rw [named.told]
    simpa [Option.filter] using named.nonempty
  rw [Request.correlation, kept]

variable {σ α β : Type}

/-- The response through the layers carries no name exactly if the handler failed. -/
theorem correlation_throughLayers_eq_none_iff {request : Request} (outcome : Outcome Response) :
    (throughLayers request outcome).correlation = none ↔ ∃ failure, outcome = .error failure := by
  cases outcome with
  | ok response =>
    refine iff_of_false (Option.some_ne_none _) ?_
    rintro ⟨_, ⟨⟩⟩
  | error failure =>
    rw [throughLayers]
    exact iff_of_true (Response.correlation_ofFailure _) ⟨failure, rfl⟩

/-- The response through the layers carries the name exactly if the handler gave one. -/
theorem correlation_throughLayers_iff {request : Request} {name : String}
    (named : request.IsNamed name) (outcome : Outcome Response) :
    (throughLayers request outcome).correlation = some (.given name) ↔
      ∃ response, outcome = .ok response := by
  cases outcome with
  | ok response =>
    rw [throughLayers, named.correlation_eq]
    exact iff_of_true rfl ⟨response, rfl⟩
  | error failure =>
    rw [throughLayers, Response.correlation_ofFailure]
    refine iff_of_false (Option.some_ne_none _).symm ?_
    rintro ⟨_, ⟨⟩⟩

/-- A request that its route answers without the backends. -/
def helpRequest (headers : List (String × String)) : Request where
  method := "GET"
  target := { path := "/api/v1/sqlv2/help", parameters := [] }
  headers := headers

/-- A request for the tables of both backends. -/
def tablesRequest (headers : List (String × String)) : Request where
  method := "GET"
  target := { path := "/api/v1/sqlv2/schema", parameters := [] }
  headers := headers

/-- If the tables of the warehouse are fetched, then a failure of the fetch is the failure of the
    request, unless it belongs to the connectors' family. -/
theorem arriving_of_failure (gateway : Gateway α β) {state : Gateway.State α β}
    {failure : Failure} (headers : List (String × String))
    (fetches : state.Fetches .warehouse false)
    (fails : gateway.fetched state .warehouse = .error failure)
    (foreign : failure.isA .connector = false) :
    ((arriving gateway (tablesRequest headers)).startIn state).1 = .error failure := by
  have led : arriving gateway (tablesRequest headers) = (do
      return .json 200 (schemaDocument (← gateway.unifiedSchema false))) := by
    have routed : Destination.find "GET" "/api/v1/sqlv2/schema" = .route .schema := by decide
    have found : Destination.find (tablesRequest headers).method
        (tablesRequest headers).target.path = .route .schema := routed
    have absent : (tablesRequest headers).parameter "refresh" false Validation.bool =
        .valid false := rfl
    rw [arriving, found, arrive, respond, absent, withParameter]
  have escaped := fetches.browses.escaped failure fails foreign
  have unified := gateway.startIn_unifiedSchema false state
  rw [escaped] at unified
  generalize ran : (gateway.unifiedSchema false).startIn state = reached at unified
  obtain ⟨outcome, after⟩ := reached
  cases unified
  rw [led, Run.startIn_bind_of_error ran]

/-- A gateway to backends that do nothing but fail. -/
def failing (fault : Fault) : Gateway Unit Unit where
  federation := {
    warehouse := { execute := fun _ => .fail fault, test := .fail fault, schemaMap := .fail fault }
    transactional :=
      { execute := fun _ => .fail fault, test := .fail fault, schemaMap := .fail fault } }
  snapshotSeconds := .whole 3600

/-- The state of such a gateway at its start. -/
def untouched : State Unit Unit :=
  ({ backends := ((), ()), clock := .whole 0 }, ∅)

/-- It gives the tables of no backend. -/
theorem arriving_failing {fault : Fault} (headers : List (String × String))
    (foreign : fault.isA .connector = false) :
    ((arriving (failing fault) (tablesRequest headers)).startIn untouched.1).1 =
      .error { fault } :=
  arriving_of_failure (failing fault) headers (Or.inr rfl) rfl foreign

/-- Every request that its caller has named gets a response, whatever the handler does. The
    response carries the name if and only if the handler gives a response, and no name at all if
    it fails. -/
theorem name_carried_iff (handler : Request → Run σ Response) {request : Request} {name : String}
    (direct : request.preflight? = none) (named : request.IsNamed name)
    (before : σ × Counter RequestLabels) :
    let outcome := ((handler request).startIn before.1).1
    ∃ response after, (serve handler request).startIn before = (.ok response, after) ∧
      (response.correlation = some (.given name) ↔ ∃ given, outcome = .ok given) ∧
      (response.correlation = none ↔ ∃ failure, outcome = .error failure) := by
  have served := startIn_serve handler direct before
  dsimp only at served ⊢
  generalize (handler request).startIn before.1 = ran at served ⊢
  obtain ⟨outcome, after⟩ := ran
  refine ⟨_, _, served, ?_, ?_⟩
  · rw [Response.correlation_sent]
    exact correlation_throughLayers_iff named outcome
  · rw [Response.correlation_sent]
    exact correlation_throughLayers_eq_none_iff outcome

/-- A gateway names the request in its response where its route answers without the backends. -/
theorem name_carried_help :
    let request := helpRequest [("x-correlation-id", "abc-123")]
    request.preflight? = none ∧ request.IsNamed "abc-123" ∧
      ∃ response after,
        (answer (failing (.invalidValue "x")) request).startIn untouched = (.ok response, after) ∧
        response.correlation = some (.given "abc-123") := by
  intro request
  have direct : request.preflight? = none := by decide
  have named : request.IsNamed "abc-123" := ⟨by decide, by decide⟩
  obtain ⟨response, after, served, carried, _⟩ :=
    name_carried_iff (arriving (failing (.invalidValue "x"))) direct named untouched
  rw [answer_eq_serve]
  exact ⟨direct, named, response, after, served, carried.mpr ⟨_, rfl⟩⟩

/-- A backend that fails otherwise than connectors do takes the name away. -/
theorem name_not_carried :
    let request := tablesRequest [("X-Correlation-ID", "abc-123")]
    request.preflight? = none ∧ request.IsNamed "abc-123" ∧
      ∃ response after,
        (answer (failing (.invalidValue "x")) request).startIn untouched = (.ok response, after) ∧
        response.status = 500 ∧ response.correlation = none := by
  intro request
  have direct : request.preflight? = none := by decide
  have named : request.IsNamed "abc-123" := ⟨by decide, by decide⟩
  have served := startIn_serve (arriving (failing (.invalidValue "x"))) direct untouched
  have fails : ((arriving (failing (.invalidValue "x")) request).startIn untouched.1).1 =
      .error { fault := .invalidValue "x" } := arriving_failing _ (by decide)
  dsimp only at served
  rw [fails] at served
  rw [answer_eq_serve]
  exact ⟨direct, named, _, _, served, rfl, rfl⟩

/-- The route for queries gives a response exactly if the outcome of the query fits its form. -/
theorem handled_eq_ok_iff (outcome : Outcome Answer) :
    (∃ response, handled outcome = .ok response) ↔ FitsEnvelope outcome := by
  cases outcome with
  | ok answer =>
    rw [handled, FitsEnvelope]
    rcases answerResponse_cases answer with ⟨writable, made⟩ | ⟨unwritable, message, fails⟩
    · exact iff_of_true ⟨_, made⟩ writable
    · refine iff_of_false ?_ unwritable
      rintro ⟨response, given⟩
      rw [fails] at given
      cases given
  | error failure =>
    rw [handled, FitsEnvelope, Failure.isStop_iff]
    cases ordinary : failure.isA .ordinary with
    | true => exact iff_of_true ⟨_, rfl⟩ (by decide)
    | false =>
      refine iff_of_false ?_ (by decide)
      rintro ⟨_, ⟨⟩⟩

/-- The response to a named query carries the name unless the answer cannot be written or the run
    is stopped. -/
theorem query_name_carried_iff (gateway : Gateway α β) {request : Request} {name : String}
    (routed : Destination.find request.method request.target.path = .route .execute)
    (named : request.IsNamed name) (before : State α β) :
    ∃ response after, (answer gateway request).startIn before = (.ok response, after) ∧
      (response.correlation = some (.given name) ↔
        FitsEnvelope (asked gateway request before.1).1) := by
  refine ⟨_, _, startIn_answer_query gateway routed before, ?_⟩
  rw [correlation_throughLayers_iff named, handled_eq_ok_iff]

end SqlGateway.Http
