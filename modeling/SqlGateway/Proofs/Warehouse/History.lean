import SqlGateway.Warehouse.Session

/-!
# Histories of a session

What happens between a client and the service is a history: requests with their answers,
looks at the clock, and rests. A history belongs to a service if the service goes through
it, so the answers in it are those of the service in the states that it has come to. Every
look at the clock may show another time; that the clock never goes back is not needed.

A run has a history if it takes the session from its beginning to its end along it. Runs
that are put together have their histories one after the other.
-/

namespace SqlGateway.Warehouse

/-- What happens between a client and the service. -/
inductive Event where
  /-- A request and its answer. -/
  | asked (request : Request) (answer : Except Fault Value)
  /-- The seconds that a look at the clock shows. -/
  | seen (seconds : Binary64)
  /-- A rest of some seconds. -/
  | rested (seconds : Binary64)

/-- The requests of a history in order. -/
def requestsOf (events : List Event) : List Request :=
  events.filterMap fun
    | .asked request _ => some request
    | _ => none

/-- The requests of two histories, one after the other. -/
theorem requestsOf_append (events more : List Event) :
    requestsOf (events ++ more) = requestsOf events ++ requestsOf more :=
  List.filterMap_append

variable {σ α β γ : Type}

namespace Service

/-- One thing that happens to a service. -/
inductive Step (service : Service σ) (state : σ) : Event → σ → Prop
  | asked (request : Request) :
      Step service state (.asked request (service.answer request state).1)
        (service.answer request state).2
  | seen : Step service state (.seen (service.clock state)) (service.tick state)
  | rested (seconds : Binary64) : Step service state (.rested seconds) (service.rest seconds state)

/-- A history that a service goes through. -/
inductive Path (service : Service σ) : σ → List Event → σ → Prop
  | nil (state : σ) : Path service state [] state
  | cons {state middle after : σ} {event : Event} {events : List Event}
      (first : service.Step state event middle) (later : Path service middle events after) :
      Path service state (event :: events) after

/-- One thing that happens is a history. -/
theorem Step.path {service : Service σ} {before after : σ} {event : Event}
    (step : service.Step before event after) : service.Path before [event] after :=
  .cons step (.nil after)

/-- Two histories are gone through one after the other. -/
theorem Path.trans {service : Service σ} {before middle after : σ} {events more : List Event}
    (first : service.Path before events middle) (second : service.Path middle more after) :
    service.Path before (events ++ more) after := by
  induction first with
  | nil => exact second
  | cons step _ inductionHypothesis => exact .cons step (inductionHypothesis second)

/-- The end of a history of one request. -/
theorem Path.of_asked {service : Service σ} {request : Request}
    {answer : Except Fault Value} {before after : σ}
    (path : service.Path before [.asked request answer] after) :
    service.answer request before = (answer, after) := by
  cases path with
  | cons first later =>
    cases first
    cases later
    rfl

/-- The answers in a history are answers of the service. -/
theorem Path.exists_state {service : Service σ} {before after : σ} {events : List Event}
    (path : service.Path before events after) {request : Request} {answer : Except Fault Value}
    (member : .asked request answer ∈ events) :
    ∃ state, (service.answer request state).1 = answer := by
  induction path with
  | nil => cases member
  | @cons state _ _ event events first _ inductionHypothesis =>
    rcases List.mem_cons.mp member with here | later
    · subst here
      cases first with
      | asked => exact ⟨state, rfl⟩
    · exact inductionHypothesis later

end Service

/-- A run takes a session to an outcome along a history. The session remembers the requests
    of the history. -/
structure Takes (service : Service σ) (run : Run (Session σ) α) (before : Session σ)
    (events : List Event) (outcome : Outcome α) (after : Session σ) : Prop where
  /-- The run comes to its outcome. -/
  runs : run.startIn before = (outcome, after)
  /-- The service goes through the history. -/
  path : service.Path before.state events after.state
  /-- The requests of the history are remembered behind the earlier ones. -/
  requests : after.requests.toList = before.requests.toList ++ requestsOf events

namespace Takes

variable {service : Service σ} {run : Run (Session σ) α} {before middle after : Session σ}
  {events more : List Event}

/-- An outcome that is known already has no history. -/
theorem ofOutcome (service : Service σ) (outcome : Outcome α) (session : Session σ) :
    Takes service (Run.ofOutcome outcome) session [] outcome session :=
  ⟨rfl, .nil session.state, by simp [requestsOf]⟩

/-- A request is one event. -/
theorem ask (service : Service σ) (request : Request) (session : Session σ) :
    ∃ answer after, Takes service (service.ask request) session [.asked request answer]
      (answer.mapError fun fault => { fault }) after := by
  refine ⟨_, _, rfl, (Service.Step.asked request).path, ?_⟩
  simp [requestsOf]

/-- A look at the clock is one event. -/
theorem now (service : Service σ) (session : Session σ) :
    ∃ seconds after, Takes service service.now session [.seen seconds] (.ok seconds) after := by
  refine ⟨_, _, rfl, Service.Step.seen.path, ?_⟩
  simp [requestsOf]

/-- A rest is one event. -/
theorem pause (service : Service σ) (seconds : Binary64) (session : Session σ) :
    ∃ after, Takes service (service.pause seconds) session [.rested seconds] (.ok ()) after := by
  refine ⟨_, rfl, (Service.Step.rested seconds).path, ?_⟩
  simp [requestsOf]

/-- Two histories, one after the other. -/
theorem trans_requests (first : middle.requests.toList = before.requests.toList ++ requestsOf events)
    (second : after.requests.toList = middle.requests.toList ++ requestsOf more) :
    after.requests.toList = before.requests.toList ++ requestsOf (events ++ more) := by
  rw [second, first, requestsOf_append, List.append_assoc]

/-- Behind a history of one request the session is the one in which it was answered. -/
theorem of_asked {request : Request} {answer : Except Fault Value} {outcome : Outcome α}
    (takes : Takes service run before [.asked request answer] outcome after) :
    (service.answer request before.state).1 = answer ∧
      { state := (service.answer request before.state).2
        requests := before.requests.push request } = after := by
  have answers := takes.path.of_asked
  have remembered : before.requests.push request = after.requests := by
    apply Array.toList_inj.mp
    rw [takes.requests, Array.toList_push]
    rfl
  rw [answers, remembered]
  exact ⟨rfl, rfl⟩

/-- A run with another one behind it. -/
theorem bind {next : α → Run (Session σ) β} {value : α} {outcome : Outcome β}
    (first : Takes service run before events (.ok value) middle)
    (second : Takes service (next value) middle more outcome after) :
    Takes service (run >>= next) before (events ++ more) outcome after where
  runs := (Run.startIn_bind_of_ok first.runs).trans second.runs
  path := first.path.trans second.path
  requests := trans_requests first.requests second.requests

/-- A run of one event with another run behind it. -/
theorem bind_cons {next : α → Run (Session σ) β} {value : α} {outcome : Outcome β} {event : Event}
    (first : Takes service run before [event] (.ok value) middle)
    (second : Takes service (next value) middle more outcome after) :
    Takes service (run >>= next) before (event :: more) outcome after :=
  first.bind second

/-- Nothing happens behind a failure. -/
theorem bind_error {next : α → Run (Session σ) β} {failure : Failure}
    (first : Takes service run before events (.error failure) after) :
    Takes service (run >>= next) before events (.error failure) after where
  runs := Run.startIn_bind_of_error first.runs
  path := first.path
  requests := first.requests

/-- A run whose outcome is looked through before it is given. -/
theorem bind_ofOutcome {next : α → Outcome β} {outcome : Outcome α}
    (first : Takes service run before events outcome after) :
    Takes service (run >>= fun value => Run.ofOutcome (next value)) before events
      (outcome >>= next) after where
  runs := Run.startIn_bind_ofOutcome first.runs
  path := first.path
  requests := first.requests

/-- What a run gives is looked through, and another run goes on with what was found. -/
theorem bind_found {read : α → Outcome β} {next : β → Run (Session σ) γ} {given : Outcome α}
    {value : β} {outcome : Outcome γ} (first : Takes service run before events given middle)
    (found : given >>= read = .ok value)
    (second : Takes service (next value) middle more outcome after) :
    Takes service (run >>= fun answer => Run.ofOutcome (read answer) >>= next) before
      (events ++ more) outcome after := by
  cases given with
  | error failure => cases found
  | ok answer =>
    refine first.bind ?_
    have reads : Takes service (Run.ofOutcome (read answer)) middle [] (.ok value) middle :=
      found ▸ Takes.ofOutcome service (read answer) middle
    exact reads.bind second

/-- What a run gives is looked through, and nothing goes on if it cannot be. -/
theorem bind_unfound {read : α → Outcome β} {next : β → Run (Session σ) γ} {given : Outcome α}
    {failure : Failure} (first : Takes service run before events given after)
    (unfound : given >>= read = .error failure) :
    Takes service (run >>= fun answer => Run.ofOutcome (read answer) >>= next) before events
      (.error failure) after := by
  cases given with
  | error other =>
    cases unfound
    exact first.bind_error
  | ok answer =>
    have reads : Takes service (Run.ofOutcome (read answer)) after [] (.error failure) after :=
      unfound ▸ Takes.ofOutcome service (read answer) after
    have whole : Takes service (run >>= fun answer => Run.ofOutcome (read answer) >>= next) before
        (events ++ []) (.error failure) after := first.bind reads.bind_error
    rw [List.append_nil] at whole
    exact whole

/-- Changing the failure of a run does not change what happens. -/
theorem mapFailure {outcome : Outcome α} (change : Failure → Failure)
    (first : Takes service run before events outcome after) :
    Takes service (run.mapFailure change) before events (outcome.mapError change) after where
  runs := by
    have changed : (run.mapFailure change).startIn before =
        ((run.startIn before).1.mapError change, (run.startIn before).2) := rfl
    rw [changed, first.runs]
  path := first.path
  requests := first.requests

/-- Looking at the outcome of a run does not change what happens. -/
theorem attempt {outcome : Outcome α} (first : Takes service run before events outcome after) :
    Takes service run.attempt before events (.ok outcome) after where
  runs := Run.startIn_attempt first.runs
  path := first.path
  requests := first.requests

end Takes

end SqlGateway.Warehouse
