import SqlGateway.Http.Service

/-!
# What the layers make of a handler

Within the layers every handler leads to a response, whether it gives one, fails or is stopped.
Every request is counted once, and the layers leave the state of the handler alone.

A failure takes another way than a response: it becomes a response only in the outer layer,
behind the one that writes the name of the request and the one that counts.
-/

namespace SqlGateway.Http

variable {σ : Type}

/-- What the layers make of the outcome of a handler. -/
def throughLayers (request : Request) : Outcome Response → Response
  | .ok response => { response with correlation := some request.correlation }
  | .error failure => .ofFailure (Failure.ofHandler failure)

/-- The status that the inner layer counts. -/
def countedStatus : Outcome Response → Nat
  | .ok response => response.status
  | .error _ => 500

/-- The inner layer counts what its handler has come to, and passes it on. -/
theorem startIn_counted {method path : String} {handler : Run σ Response}
    {state : σ × Counter RequestLabels} {outcome : Outcome Response} {after : σ}
    (ran : handler.startIn state.1 = (outcome, after)) :
    (counted method path handler).startIn state =
      (outcome.mapError Failure.ofHandler,
        (after, state.2.increment (method, path, countedStatus outcome))) := by
  have attempted : (handler.mapFailure Failure.ofHandler).onFirst.attempt.startIn state =
      (.ok (outcome.mapError Failure.ofHandler), (after, state.2)) := by
    refine Run.startIn_attempt ?_
    have unfolded : (handler.mapFailure Failure.ofHandler).onFirst.startIn state =
        ((handler.startIn state.1).1.mapError Failure.ofHandler,
          ((handler.startIn state.1).2, state.2)) := rfl
    rw [unfolded, ran]
  rw [counted, Run.startIn_bind_of_ok attempted]
  cases outcome with
  | ok response => rfl
  | error failure => rfl

/-- The outer layer turns every ordinary failure into a response. -/
theorem startIn_contained_of_error {handler : Run σ Response} {before after : σ}
    {failure : Failure} (ordinary : failure.isA .ordinary = true)
    (ran : handler.startIn before = (.error failure, after)) :
    (contained handler).startIn before = (.ok (.ofFailure failure), after) := by
  rw [contained, Run.startIn_bind_of_ok (Run.startIn_attempt ran)]
  simp only [ordinary, if_true]
  rfl

/-- What the layers see of a failure is an ordinary one. -/
theorem Failure.isA_ordinary_ofHandler (failure : Failure) :
    (Failure.ofHandler failure).isA .ordinary = true := by
  rw [ofHandler]
  split
  · next ordinary => exact ordinary
  · rfl

/-- A handler within the layers always gives a response, also if it is stopped. -/
theorem startIn_layers (request : Request) (method path : String) (handler : Run σ Response)
    (state : σ × Counter RequestLabels) :
    (contained (correlated request (counted method path handler))).startIn state =
      let ran := handler.startIn state.1
      (.ok (throughLayers request ran.1),
        (ran.2, state.2.increment (method, path, countedStatus ran.1))) := by
  generalize ran : handler.startIn state.1 = reached
  obtain ⟨outcome, after⟩ := reached
  have inner : (counted method path handler).startIn state =
      (outcome.mapError Failure.ofHandler,
        (after, state.2.increment (method, path, countedStatus outcome))) :=
    startIn_counted ran
  cases outcome with
  | error failure =>
    exact startIn_contained_of_error (Failure.isA_ordinary_ofHandler failure)
      (Run.startIn_bind_of_error inner)
  | ok response =>
    have middle : (correlated request (counted method path handler)).startIn state =
        (.ok { response with correlation := some request.correlation },
          (after, state.2.increment (method, path, response.status))) :=
      Run.startIn_bind_of_ok inner
    rw [contained, Run.startIn_bind_of_ok (Run.startIn_attempt middle)]
    rfl

/-- A failure that belongs to a family with a status of its own has not stopped the run. -/
theorem ordinary_of_statusOf? {failure : Failure} {status : Nat}
    (own : statusOf? failure = some status) : failure.isA .ordinary = true := by
  have kinds : ∀ kind : Kind, kind.isA .ordinary = false →
      kind.isA .invalidRequest = false ∧ kind.isA .federation = false ∧
        kind.isA .backendUnavailable = false ∧ kind.isA .connector = false := by
    intro kind
    cases kind <;> decide
  rw [← Bool.not_eq_false]
  intro outside
  obtain ⟨invalid, federation, unavailable, connector⟩ := kinds failure.fault.kind outside
  rw [statusOf?] at own
  simp only [Failure.isA, Fault.isA, invalid, federation, unavailable, connector] at own
  cases own

/-- The families keep their status in the layers, since no stop belongs to them. -/
theorem statusOf?_ofHandler (failure : Failure) :
    statusOf? (Failure.ofHandler failure) = statusOf? failure := by
  rw [Failure.ofHandler]
  split
  · rfl
  · next outside =>
    cases own : statusOf? failure with
    | none => rfl
    | some status => exact absurd (ordinary_of_statusOf? own) outside

/-- The status of the response for a failure. -/
theorem Response.status_ofFailure (failure : Failure) :
    (Response.ofFailure failure).status = (statusOf? failure).getD 500 := by
  rw [ofFailure]
  cases statusOf? failure <;> rfl

/-- The response for a failure does not name its request. -/
theorem Response.correlation_ofFailure (failure : Failure) :
    (Response.ofFailure failure).correlation = none := by
  rw [ofFailure]
  cases statusOf? failure <;> rfl

/-- The body alone depends on whether it is sent. -/
@[simp]
theorem Response.status_sent (method : String) (response : Response) :
    (response.sent method).status = response.status := by
  rw [sent]
  split <;> rfl

/-- The name of the request is sent in any case. -/
@[simp]
theorem Response.correlation_sent (method : String) (response : Response) :
    (response.sent method).correlation = response.correlation := by
  rw [sent]
  split <;> rfl

/-- The path under which a request is counted. -/
def Request.pathLabel (request : Request) : String :=
  (Destination.find request.method request.target.path).label request.target.path

/-- Answers requests with any handler within the layers. -/
def serve (handler : Request → Run σ Response) (request : Request) :
    Run (σ × Counter RequestLabels) Response :=
  match request.preflight? with
  | some response => return response
  | none =>
      Response.sent request.method <$>
        contained (correlated request
          (counted request.method request.pathLabel (handler request)))

/-- The handler of a gateway. -/
def arriving {α β : Type} (gateway : Gateway α β) (request : Request) :
    Run (Gateway.State α β) Response :=
  arrive gateway request (Destination.find request.method request.target.path)

/-- A gateway answers requests with its handler within the layers. -/
theorem answer_eq_serve {α β : Type} (gateway : Gateway α β) :
    answer gateway = serve (arriving gateway) :=
  rfl

/-- A request that is no question before another one is answered through the layers, and counted
    once. -/
theorem startIn_serve (handler : Request → Run σ Response) {request : Request}
    (direct : request.preflight? = none) (before : σ × Counter RequestLabels) :
    (serve handler request).startIn before =
      let ran := (handler request).startIn before.1
      (.ok ((throughLayers request ran.1).sent request.method),
        (ran.2, before.2.increment (request.method, request.pathLabel, countedStatus ran.1))) := by
  have layered := startIn_layers request request.method request.pathLabel (handler request) before
  rw [serve, direct]
  dsimp only
  rw [map_eq_pure_bind, Run.startIn_bind_of_ok layered]
  rfl

end SqlGateway.Http
