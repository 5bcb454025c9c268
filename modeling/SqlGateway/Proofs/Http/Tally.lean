import Mathlib.Data.List.Forall2
import SqlGateway.Proofs.Gateway.Accounting
import SqlGateway.Proofs.Http.Correlation

/-!
# The tally of requests

Over all requests that are answered one after another, whatever their handler does, every request
adds exactly one to the tally, under its method and path and a status. This is the status of what
the handler came to: that of its response, or that of an error of the server if it fails.

The status of the response may be another one. A failure of a family with a status of its own
becomes a response behind the layer that counts, so the tally has an error of the server where the
caller is told of a bad request or of a backend. The tally says what the callers saw if and only
if there is no such failure.
-/

namespace SqlGateway.Http

/-- The status that the caller sees. -/
def deliveredStatus : Outcome Response → Nat
  | .ok response => response.status
  | .error failure => (statusOf? failure).getD 500

/-- The outer layer gives a failure a status of its own. -/
inductive Restated : Outcome Response → Prop
  | intro {failure : Failure} {status : Nat} (own : statusOf? failure = some status) :
      Restated (.error failure)

/-- The response through the layers has the status that the caller sees. -/
theorem status_throughLayers (request : Request) (outcome : Outcome Response) :
    (throughLayers request outcome).status = deliveredStatus outcome := by
  cases outcome with
  | ok response => rfl
  | error failure =>
    rw [throughLayers, Response.status_ofFailure, statusOf?_ofHandler]
    rfl

/-- No status of a family is that of an error of the server. -/
theorem statusOf?_ne (failure : Failure) : statusOf? failure ≠ some 500 := by
  rw [statusOf?]
  split
  · decide
  · split
    · decide
    · split <;> decide

/-- The caller sees the counted status unless the failure has one of its own. -/
theorem deliveredStatus_eq_iff (outcome : Outcome Response) :
    deliveredStatus outcome = countedStatus outcome ↔ ¬ Restated outcome := by
  cases outcome with
  | ok response => exact iff_of_true rfl nofun
  | error failure =>
    rw [deliveredStatus, countedStatus]
    cases own : statusOf? failure with
    | none =>
      refine iff_of_true rfl ?_
      rintro ⟨other⟩
      rw [own] at other
      cases other
    | some status =>
      refine iff_of_false ?_ (not_not_intro ⟨own⟩)
      rintro rfl
      exact statusOf?_ne failure own

/-- What is no error of the server for the caller may be counted as one, but never the other way
    round. -/
theorem countedStatus_of_delivered {outcome : Outcome Response}
    (delivered : deliveredStatus outcome = 500) : countedStatus outcome = 500 := by
  cases outcome with
  | ok response => exact delivered
  | error failure => rfl

/-- So there are no more errors of the server for the callers than are counted. -/
theorem count_delivered_le (outcomes : List (Outcome Response)) :
    (outcomes.map deliveredStatus).count 500 ≤ (outcomes.map countedStatus).count 500 := by
  rw [List.count_eq_countP, List.count_eq_countP, List.countP_map, List.countP_map]
  refine List.countP_mono_left fun outcome _ delivered => ?_
  simp only [Function.comp_apply, beq_iff_eq] at delivered ⊢
  exact countedStatus_of_delivered delivered

/-- If there are as many, then no status is another one. The induction goes over the outcomes. -/
theorem not_restated_of_count_le {outcomes : List (Outcome Response)}
    (enough : (outcomes.map countedStatus).count 500 ≤ (outcomes.map deliveredStatus).count 500) :
    ∀ outcome ∈ outcomes, ¬ Restated outcome := by
  induction outcomes with
  | nil => exact List.forall_mem_nil _
  | cons outcome others inductionHypothesis =>
    have fewer := count_delivered_le others
    rw [List.map_cons, List.map_cons, List.count_cons, List.count_cons] at enough
    have same : ¬ Restated outcome := by
      rintro ⟨own⟩
      have different : deliveredStatus (.error _) ≠ 500 :=
        mt (deliveredStatus_eq_iff _).mp (not_not_intro ⟨own⟩)
      rw [countedStatus, beq_self_eq_true, if_pos rfl, beq_eq_false_iff_ne.mpr different] at enough
      simp only [Bool.false_eq_true, if_false] at enough
      omega
    rw [(deliveredStatus_eq_iff outcome).mpr same] at enough
    exact List.forall_mem_cons.mpr ⟨same, inductionHypothesis (by omega)⟩

/-- The labels under which a request is counted that ends with a status. -/
def Request.labels (request : Request) (status : Nat) : RequestLabels :=
  (request.method, request.pathLabel, status)

/-- The labels of requests that end with some statuses. -/
def labelled (requests : List Request) (statuses : List Nat) : List RequestLabels :=
  List.zipWith Request.labels requests statuses

/-- What is read off pairs and does not depend on the first of the two is read off the others, if
    there is one for each. -/
theorem map_zipWith_right {α β γ δ : Type} (pair : α → β → γ) (read : γ → δ) (readOff : β → δ)
    (same : ∀ x y, read (pair x y) = readOff y) {xs : List α} {ys : List β}
    (each : ys.length = xs.length) :
    (List.zipWith pair xs ys).map read = ys.map readOff := by
  have behind : (xs.zip ys).map Prod.snd = ys := List.map_snd_zip each.le
  calc (List.zipWith pair xs ys).map read
      = (xs.zip ys).map (readOff ∘ Prod.snd) := by
        rw [← List.map_uncurry_zip_eq_zipWith, List.map_map]
        exact List.map_congr_left fun both _ => same both.1 both.2
    _ = ys.map readOff := by rw [← List.map_map, behind]

/-- The statuses are among the labels. -/
theorem map_status_labelled {requests : List Request} {statuses : List Nat}
    (each : statuses.length = requests.length) :
    (labelled requests statuses).map (fun labels => labels.2.2) = statuses := by
  rw [labelled, map_zipWith_right Request.labels _ id (fun _ _ => rfl) each]
  exact List.map_id statuses

/-- Counting one combination of labels after another adds to each number how often it is one of
    them. -/
theorem count_foldl_increment {κ : Type} [DecidableEq κ] [BEq κ] [LawfulBEq κ]
    (labels : List κ) (counter : Counter κ) (wanted : κ) :
    (labels.foldl Counter.increment counter).count wanted =
      counter.count wanted + labels.count wanted := by
  induction labels generalizing counter with
  | nil => rfl
  | cons first others inductionHypothesis =>
    rw [List.foldl_cons, inductionHypothesis, Counter.count_increment, List.count_cons]
    simp only [beq_iff_eq, eq_comm (a := first)]
    omega

/-- It adds to the whole number how many there are. -/
theorem total_foldl_increment {κ : Type} [DecidableEq κ] (labels : List κ)
    (counter : Counter κ) :
    (labels.foldl Counter.increment counter).total = counter.total + labels.length := by
  induction labels generalizing counter with
  | nil => rfl
  | cons first others inductionHypothesis =>
    rw [List.foldl_cons, inductionHypothesis, Counter.total_increment, List.length_cons]
    omega

variable {σ : Type}

/-- What a handler comes to for one request after another, and the state after them. -/
def handledAll (handler : Request → Run σ Response) (state : σ) :
    List Request → List (Outcome Response) × σ
  | [] => ([], state)
  | request :: others =>
      let ran := (handler request).startIn state
      let later := handledAll handler ran.2 others
      (ran.1 :: later.1, later.2)

/-- There is one outcome for each request. -/
theorem length_handledAll (handler : Request → Run σ Response) (state : σ)
    (requests : List Request) :
    (handledAll handler state requests).1.length = requests.length := by
  induction requests generalizing state with
  | nil => rfl
  | cons request others inductionHypothesis =>
    exact congrArg Nat.succ (inductionHypothesis _)

/-- Answers one request after another. -/
def serveAll (handler : Request → Run σ Response) (requests : List Request) :
    Run (σ × Counter RequestLabels) (List Response) :=
  requests.mapM (serve handler)

/-- Requests that are answered one after another: the handler does what it does without the
    layers, each outcome becomes a response, and each request is counted. The induction goes over
    the requests. -/
theorem startIn_serveAll (handler : Request → Run σ Response) {requests : List Request}
    (direct : ∀ request ∈ requests, request.preflight? = none)
    (before : σ × Counter RequestLabels) :
    let handled := handledAll handler before.1 requests
    (serveAll handler requests).startIn before =
      (.ok (List.zipWith (fun request outcome =>
          (throughLayers request outcome).sent request.method) requests handled.1),
        (handled.2,
          (labelled requests (handled.1.map countedStatus)).foldl Counter.increment before.2)) := by
  induction requests generalizing before with
  | nil => rfl
  | cons request others inductionHypothesis =>
    obtain ⟨first, later⟩ := List.forall_mem_cons.mp direct
    have served := startIn_serve handler first before
    dsimp only at served inductionHypothesis ⊢
    rw [serveAll] at inductionHypothesis
    rw [serveAll, List.mapM_cons, Run.startIn_bind_of_ok served,
      Run.startIn_bind_of_ok (inductionHypothesis later _)]
    rfl

/-- The responses through the layers have the statuses that the callers see. -/
theorem map_status_responses {requests : List Request} {outcomes : List (Outcome Response)}
    (each : outcomes.length = requests.length) :
    (List.zipWith (fun request outcome =>
      (throughLayers request outcome).sent request.method) requests outcomes).map
        Response.status = outcomes.map deliveredStatus := by
  refine map_zipWith_right _ Response.status deliveredStatus (fun request outcome => ?_) each
  rw [Response.status_sent, status_throughLayers]

/-- How requests are tallied that have come to some outcomes and have got some responses. -/
structure Tallied (requests : List Request) (outcomes : List (Outcome Response))
    (responses : List Response) (before after : Counter RequestLabels) : Prop where
  /-- Every request gets a response. -/
  answered : responses.length = requests.length
  /-- Every request adds one. -/
  once : after.total = before.total + requests.length
  /-- It adds one to the number of its method, its path and the status of what its handler came
      to. -/
  counted : ∀ wanted, after.count wanted =
    before.count wanted + (labelled requests (outcomes.map countedStatus)).count wanted
  /-- This is the status of its response unless the outer layer has given it another one. -/
  statuses : List.Forall₂ (fun outcome response =>
    response.status = countedStatus outcome ↔ ¬ Restated outcome) outcomes responses
  /-- The numbers are those of the responses if and only if this has happened to none. -/
  seen_iff : (∀ wanted, after.count wanted = before.count wanted +
      (labelled requests (responses.map Response.status)).count wanted) ↔
    ∀ outcome ∈ outcomes, ¬ Restated outcome

/-- Outcomes that are counted one after another are tallied, if the responses have the statuses
    that the callers see. -/
theorem tallied_of_counted {requests : List Request} {outcomes : List (Outcome Response)}
    {responses : List Response} (each : outcomes.length = requests.length)
    (seen : responses.map Response.status = outcomes.map deliveredStatus)
    (before : Counter RequestLabels) :
    Tallied requests outcomes responses before
      ((labelled requests (outcomes.map countedStatus)).foldl Counter.increment before) where
  answered := by
    have lengths := congrArg List.length seen
    rwa [List.length_map, List.length_map, each] at lengths
  once := by
    rw [total_foldl_increment, labelled, List.length_zipWith, List.length_map, each, Nat.min_self]
  counted := count_foldl_increment _ _
  statuses := by
    have paired : List.Forall₂ Eq (outcomes.map deliveredStatus)
        (responses.map Response.status) := by
      rw [seen]
      exact List.forall₂_refl _
    refine (List.forall₂_map_right_iff.mp (List.forall₂_map_left_iff.mp paired)).imp ?_
    intro outcome response same
    rw [← same]
    exact deliveredStatus_eq_iff outcome
  seen_iff := by
    rw [seen]
    constructor
    · intro same
      have labels : (labelled requests (outcomes.map countedStatus)).Perm
          (labelled requests (outcomes.map deliveredStatus)) := by
        rw [List.perm_iff_count]
        intro wanted
        have number := same wanted
        rw [count_foldl_increment] at number
        exact Nat.add_left_cancel number
      have statuses := labels.map fun labels => labels.2.2
      rw [map_status_labelled (by rwa [List.length_map]),
        map_status_labelled (by rwa [List.length_map])] at statuses
      exact not_restated_of_count_le (statuses.count_eq 500).le
    · intro none wanted
      have same : outcomes.map deliveredStatus = outcomes.map countedStatus :=
        List.map_congr_left fun outcome member =>
          (deliveredStatus_eq_iff outcome).mpr (none outcome member)
      rw [count_foldl_increment, same]

/-- Over all requests that are answered one after another, in every state and whatever their
    handler does, each adds exactly one to the tally, and the tally says what the callers saw if
    and only if no failure gets a status of its own behind the layer that counts. -/
theorem requests_tallied (handler : Request → Run σ Response) {requests : List Request}
    (direct : ∀ request ∈ requests, request.preflight? = none)
    (before : σ × Counter RequestLabels) :
    let handled := handledAll handler before.1 requests
    ∃ responses after, (serveAll handler requests).startIn before = (.ok responses, after) ∧
      after.1 = handled.2 ∧ Tallied requests handled.1 responses before.2 after.2 := by
  have served := startIn_serveAll handler direct before
  have each := length_handledAll handler before.1 requests
  have seen := map_status_responses each
  exact ⟨_, _, served, rfl, tallied_of_counted each seen before.2⟩

/-- A response and a failure that belongs to no family are tallied as they were seen. -/
theorem requests_tallied_sample :
    let requests := [helpRequest [], tablesRequest []]
    (∀ request ∈ requests, request.preflight? = none) ∧
      ∃ responses after,
        (requests.mapM (answer (failing (.invalidValue "x")))).startIn untouched =
          (.ok responses, after) ∧
        after.2.total = 2 ∧
        ∀ wanted, after.2.count wanted =
          (labelled requests (responses.map Response.status)).count wanted := by
  intro requests
  have direct : ∀ request ∈ requests, request.preflight? = none := by decide
  have fails : ((arriving (failing (.invalidValue "x")) (tablesRequest [])).startIn
      untouched.1).1 = .error { fault := .invalidValue "x" } := arriving_failing [] (by decide)
  have outcomes : (handledAll (arriving (failing (.invalidValue "x"))) untouched.1 requests).1 =
      [.ok (.json 200 helpDocument), .error { fault := .invalidValue "x" }] :=
    congrArg (fun outcome => [Except.ok (Response.json 200 helpDocument), outcome]) fails
  obtain ⟨responses, after, served, _, tallied⟩ :=
    requests_tallied (arriving (failing (.invalidValue "x"))) direct untouched
  rw [outcomes] at tallied
  have kept : ∀ outcome ∈ [Except.ok (Response.json 200 helpDocument),
      .error { fault := .invalidValue "x" }], ¬ Restated outcome :=
    List.forall_mem_cons.mpr ⟨(deliveredStatus_eq_iff _).mp rfl,
      List.forall_mem_singleton.mpr ((deliveredStatus_eq_iff _).mp rfl)⟩
  refine ⟨direct, responses, after, served, tallied.once, fun wanted => ?_⟩
  rw [tallied.seen_iff.mpr kept]
  exact Nat.zero_add _

/-- A failure of a family is tallied as an error of the server, whatever its caller is told. -/
theorem failure_tallied_otherwise :
    let request := tablesRequest []
    request.preflight? = none ∧
      ∃ response after,
        (answer (failing (.federation "x")) request).startIn untouched = (.ok response, after) ∧
        response.status = 400 ∧
        after.2.count ("GET", "/sqlv2/schema", 400) = 0 ∧
        after.2.count ("GET", "/sqlv2/schema", 500) = 1 := by
  intro request
  have direct : request.preflight? = none := by decide
  have served := startIn_serve (arriving (failing (.federation "x"))) direct untouched
  have fails : ((arriving (failing (.federation "x")) request).startIn untouched.1).1 =
      .error { fault := .federation "x" } := arriving_failing [] (by decide)
  dsimp only at served
  rw [fails] at served
  have path : request.pathLabel = "/sqlv2/schema" := by decide
  rw [path] at served
  refine ⟨direct, _, _, served, rfl, by decide, by decide⟩

end SqlGateway.Http
