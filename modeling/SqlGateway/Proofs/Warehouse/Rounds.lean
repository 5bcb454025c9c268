import SqlGateway.Proofs.Warehouse.Lifecycle

/-!
# The rounds of a wait

A wait goes on in rounds. In a round the clock is looked at, the service answers that the
statement is still running, and the client rests. Behind the rounds comes a last look at the
clock: it shows that the longest wait is over, or there is one more inquiry, and its answer
is not that the statement is running.

What the service answers and how its clock goes on are its own matter. So the rounds are a
relation between two of its states, and a wait is told from the state behind its rounds.
-/

namespace SqlGateway.Warehouse

variable {σ : Type}

namespace Client

/-- What comes of an inquiry in a round that begins in a state, and the state after it. The
    clock was looked at before. -/
def inquired (client : Client σ) (id : Value) (state : σ) : Except Fault Value × σ :=
  client.service.answer (inquiry id) (client.service.tick state)

/-- What a statement is given up with in a state. -/
def givenUp (client : Client σ) (id : Value) (state : σ) : Outcome Description :=
  if client.config.cancelOnTimeout then
    cancelled (client.service.answer (cancellation id) state).1
  else timedOut

/-- What is asked for when a statement is given up. -/
def closing (client : Client σ) (id : Value) : List Request :=
  if client.config.cancelOnTimeout then [cancellation id] else []

end Client

/-- A number of rounds that lead from one state of the service to another. In each of them the
    longest wait is not over, and the statement is still running. -/
inductive Rounds (client : Client σ) (id : Value) (start longest : Binary64) : Nat → σ → σ → Prop
  | none (state : σ) : Rounds client id start longest 0 state state
  | more {rounds : Nat} {state last : σ} {description : Description}
      (within : (client.service.clock state - start).less longest = true)
      (told : described (client.inquired id state).1 = .ok description)
      (running : description.status = .running)
      (later : Rounds client id start longest rounds
        (client.service.rest client.config.pollInterval (client.inquired id state).2) last) :
      Rounds client id start longest (rounds + 1) state last

/-- How a wait ends behind its rounds: the number of inquiries that are still made, what comes
    of the wait, and what is still asked for. -/
inductive Ends (client : Client σ) (id : Value) (start longest : Binary64) (state : σ) :
    Nat → Outcome Description → List Request → Prop
  | expired (passed : (client.service.clock state - start).less longest = false) :
      Ends client id start longest state 0
        (client.givenUp id (client.service.tick state)) (client.closing id)
  | settled {description : Description} {outcome : Outcome Description}
      (within : (client.service.clock state - start).less longest = true)
      (told : described (client.inquired id state).1 = .ok description)
      (decides : decided? id description = some outcome) :
      Ends client id start longest state 1 outcome [inquiry id]
  | unclear {failure : Failure} (within : (client.service.clock state - start).less longest = true)
      (told : described (client.inquired id state).1 = .error failure) :
      Ends client id start longest state 1 (.error failure) [inquiry id]

namespace Rounds

variable {client : Client σ} {id : Value} {start longest : Binary64}

/-- Rounds behind other rounds. -/
theorem trans {rounds more : Nat} {first middle last : σ}
    (before : Rounds client id start longest rounds first middle)
    (after : Rounds client id start longest more middle last) :
    Rounds client id start longest (rounds + more) first last := by
  induction before with
  | none => rwa [Nat.zero_add]
  | more within told running _ inductionHypothesis =>
    rw [Nat.succ_add]
    exact .more within told running (inductionHypothesis after)

/-- The last one of some rounds. -/
theorem exists_last {rounds : Nat} {first last : σ}
    (made : Rounds client id start longest (rounds + 1) first last) :
    ∃ middle, Rounds client id start longest rounds first middle ∧
      Rounds client id start longest 1 middle last := by
  induction rounds generalizing first with
  | zero => exact ⟨first, .none first, made⟩
  | succ rounds inductionHypothesis =>
    cases made with
    | more within told running later =>
      obtain ⟨middle, before, final⟩ := inductionHypothesis later
      exact ⟨middle, .more within told running before, final⟩

/-- A round begins before the longest wait is over. -/
theorem within {rounds : Nat} {state last : σ}
    (made : Rounds client id start longest (rounds + 1) state last) :
    (client.service.clock state - start).less longest = true := by
  cases made with
  | more within => exact within

/-- From every state there is either a round or an end. -/
theorem one_or_ends (client : Client σ) (id : Value) (start longest : Binary64) (state : σ) :
    (∃ last, Rounds client id start longest 1 state last) ∨
      ∃ polls outcome asked, Ends client id start longest state polls outcome asked := by
  cases within : (client.service.clock state - start).less longest with
  | false => exact Or.inr ⟨_, _, _, .expired within⟩
  | true =>
    cases told : described (client.inquired id state).1 with
    | error failure => exact Or.inr ⟨_, _, _, .unclear within told⟩
    | ok description =>
      cases decides : decided? id description with
      | some outcome => exact Or.inr ⟨_, _, _, .settled within told decides⟩
      | none => exact Or.inl ⟨_, .more within told (status_of_undecided decides) (.none _)⟩

/-- Any number of rounds is made, unless the wait ends before. -/
theorem made_or_ends (client : Client σ) (id : Value) (start longest : Binary64) (first : σ)
    (rounds : Nat) :
    (∃ last, Rounds client id start longest rounds first last) ∨
      ∃ fewer last polls outcome asked, Rounds client id start longest fewer first last ∧
        Ends client id start longest last polls outcome asked := by
  induction rounds with
  | zero => exact Or.inl ⟨first, .none first⟩
  | succ rounds inductionHypothesis =>
    rcases inductionHypothesis with ⟨last, made⟩ | ended
    · rcases one_or_ends client id start longest last with ⟨next, one⟩ | ⟨_, _, _, ends⟩
      · exact Or.inl ⟨next, made.trans one⟩
      · exact Or.inr ⟨rounds, last, _, _, _, made, ends⟩
    · exact Or.inr ended

end Rounds

/-- A request is remembered behind the earlier ones and before the later ones. -/
theorem push_append (requests : Array Request) (request : Request) (later : List Request) :
    requests.push request ++ later.toArray = requests ++ (request :: later).toArray := by
  simp

/-- A look at the clock gives the seconds that it shows. -/
theorem Service.startIn_now (service : Service σ) (session : Session σ) :
    service.now.startIn session =
      (.ok (service.clock session.state), { session with state := service.tick session.state }) :=
  rfl

namespace Client

/-- An inquiry is answered by the service, and remembered. -/
theorem startIn_poll (client : Client σ) (handle : Handle) (session : Session σ) :
    (client.poll handle).startIn session =
      let given := client.service.answer (inquiry handle.id) session.state
      (described given.1,
        { state := given.2, requests := session.requests.push (inquiry handle.id) }) := by
  obtain ⟨answer, after, polls⟩ := client.takes_poll handle session
  obtain ⟨rfl, rfl⟩ := polls.of_asked
  exact polls.runs

/-- Giving a statement up ends the wait, and asks for the cancellation if one is wanted. -/
theorem startIn_giveUp (client : Client σ) (handle : Handle) (session : Session σ) :
    ∃ after, (client.giveUp handle).startIn session =
      (client.givenUp handle.id session.state,
        { state := after
          requests := session.requests ++ (client.closing handle.id).toArray }) := by
  cases wanted : client.config.cancelOnTimeout with
  | false =>
    refine ⟨session.state, ?_⟩
    rw [(client.takes_giveUp_keeping handle session wanted).runs, givenUp, closing, wanted]
    simp
  | true =>
    obtain ⟨answer, after, givesUp⟩ :=
      client.takes_giveUp_cancelling (α := Description) handle session wanted
    obtain ⟨rfl, rfl⟩ := givesUp.of_asked
    refine ⟨(client.service.answer (cancellation handle.id) session.state).2, ?_⟩
    rw [givesUp.runs, givenUp, closing, wanted]
    simp

/-- A look at the clock behind which the longest wait is over ends the wait. -/
theorem startIn_waitFrom_passed (client : Client σ) (handle : Handle) {start longest : Binary64}
    {state : σ} (passed : (client.service.clock state - start).less longest = false)
    (patience : Nat) (requests : Array Request) :
    (client.waitFrom handle start longest (patience + 1)).startIn { state, requests } =
      (client.giveUp handle).startIn { state := client.service.tick state, requests } := by
  rw [waitFrom, Run.startIn_bind_of_ok (client.service.startIn_now _), passed]
  rfl

/-- A look at the clock before that is followed by an inquiry. The answer ends the wait if it
    cannot be read or decides something; otherwise the client rests and waits on. -/
theorem startIn_waitFrom_within (client : Client σ) (handle : Handle) {start longest : Binary64}
    {state : σ} (within : (client.service.clock state - start).less longest = true)
    (patience : Nat) (requests : Array Request) :
    (client.waitFrom handle start longest (patience + 1)).startIn { state, requests } =
      let asked : Session σ :=
        { state := (client.inquired handle.id state).2
          requests := requests.push (inquiry handle.id) }
      match described (client.inquired handle.id state).1 with
      | .error failure => (.error failure, asked)
      | .ok description =>
        match decided? handle.id description with
        | some outcome => (outcome, asked)
        | none => (client.waitFrom handle start longest patience).startIn
            { asked with
              state := client.service.rest client.config.pollInterval asked.state } := by
  have polls := client.startIn_poll handle { state := client.service.tick state, requests }
  dsimp only at polls
  rw [← inquired] at polls
  rw [waitFrom, Run.startIn_bind_of_ok (client.service.startIn_now _), within]
  simp only [Bool.not_true, Bool.false_eq_true, if_false]
  cases told : described (client.inquired handle.id state).1 with
  | error failure =>
    rw [told] at polls
    rw [Run.startIn_bind_of_error polls]
  | ok description =>
    rw [told] at polls
    rw [Run.startIn_bind_of_ok polls]
    dsimp only [decided?]
    cases description.status with
    | running | finished | failed | aborted => rfl

/-- Rounds of a wait are made one after the other. The induction is on the rounds. -/
theorem startIn_waitFrom_of_rounds (client : Client σ) {handle : Handle} {start longest : Binary64}
    {rounds : Nat} {first last : σ} (made : Rounds client handle.id start longest rounds first last)
    (patience : Nat) (requests : Array Request) :
    (client.waitFrom handle start longest (patience + rounds)).startIn { state := first, requests } =
      (client.waitFrom handle start longest patience).startIn
        { state := last
          requests := requests ++ (List.replicate rounds (inquiry handle.id)).toArray } := by
  induction made generalizing requests with
  | none => simp
  | @more rounds state last description within told running _ inductionHypothesis =>
    have undecided : decided? handle.id description = none := by rw [decided?, running]
    rw [← Nat.add_assoc, client.startIn_waitFrom_within handle within, told]
    simp only [undecided]
    rw [inductionHypothesis, push_append, List.replicate_succ]

/-- Where a wait has an end, the client comes to it: what comes of the wait is what comes of the
    end, and the requests of the end are the last ones. -/
theorem startIn_waitFrom_of_ends (client : Client σ) {handle : Handle} {start longest : Binary64}
    {state : σ} {polls : Nat} {outcome : Outcome Description} {asked : List Request}
    (ends : Ends client handle.id start longest state polls outcome asked) (patience : Nat)
    (requests : Array Request) :
    ∃ after, (client.waitFrom handle start longest (patience + 1)).startIn { state, requests } =
      (outcome, { state := after, requests := requests ++ asked.toArray }) := by
  cases ends with
  | expired passed =>
    rw [client.startIn_waitFrom_passed handle passed]
    exact client.startIn_giveUp handle _
  | settled within told decides =>
    refine ⟨(client.inquired handle.id state).2, ?_⟩
    rw [client.startIn_waitFrom_within handle within, told]
    simp [decides]
  | unclear within told =>
    refine ⟨(client.inquired handle.id state).2, ?_⟩
    rw [client.startIn_waitFrom_within handle within, told]
    simp

/-- A wait makes its rounds and ends behind them, if it is followed for more rounds than it
    has. -/
theorem startIn_waitFrom (client : Client σ) (handle : Handle) {start longest : Binary64}
    {rounds polls : Nat} {first last : σ} {outcome : Outcome Description} {asked : List Request}
    (made : Rounds client handle.id start longest rounds first last)
    (ends : Ends client handle.id start longest last polls outcome asked) {patience : Nat}
    (followed : rounds < patience) (requests : Array Request) :
    ∃ after,
      (client.waitFrom handle start longest patience).startIn { state := first, requests } =
        (outcome,
          { state := after
            requests := requests ++
              (List.replicate rounds (inquiry handle.id) ++ asked).toArray }) := by
  obtain ⟨left, rfl⟩ := Nat.exists_eq_add_of_lt followed
  obtain ⟨after, ended⟩ := client.startIn_waitFrom_of_ends ends left
    (requests ++ (List.replicate rounds (inquiry handle.id)).toArray)
  refine ⟨after, ?_⟩
  rw [show rounds + left + 1 = left + 1 + rounds by omega,
    client.startIn_waitFrom_of_rounds made, ended]
  generalize List.replicate rounds (inquiry handle.id) = inquiries
  simp

/-- A wait begins with a look at the clock. -/
theorem startIn_wait (client : Client σ) (handle : Handle) (longest : Option Binary64)
    (session : Session σ) :
    (client.wait handle longest).startIn session =
      (client.waitFrom handle (client.service.clock session.state)
          (longest.getD client.config.maxWait) client.patience).startIn
        { session with state := client.service.tick session.state } :=
  Run.startIn_bind_of_ok (client.service.startIn_now session)

end Client

/-- A service whose statements stay running, and whose clock goes on by one second in every
    rest. It fails to cancel a statement with a given fault. -/
def stalledService (refusal : Fault) : Service Nat where
  answer request round :=
    let answer : Except Fault Value :=
      match request.operation with
      | .executeStatement => .ok (.map [("Id", .string "s-1")])
      | .cancelStatement => .error refusal
      | _ => .ok (.map [("Status", .string "STARTED")])
    (answer, round)
  clock round := .ofInt round
  rest _ round := round + 1

/-- A client that gives up after one second and cancels what it gives up. -/
def stalledClient (refusal : Fault) : Client Nat where
  config :=
    { pollInterval := .ofInt 1, maxWait := .ofInt 1, cancelOnTimeout := true, database := "dev"
      workgroup := some "analytics", cluster := none, user := none, secret := none, region := none
      accessKey := none, secretKey := none }
  service := stalledService refusal

/-- The clock of this service has passed one second after one round. -/
theorem stalled_passed :
    (Binary64.ofInt 1 - Binary64.ofInt 0).less (.ofInt 1) = false := by
  decide +kernel

/-- It has not passed it at the beginning. -/
theorem stalled_within :
    (Binary64.ofInt 0 - Binary64.ofInt 0).less (.ofInt 1) = true := by
  decide +kernel

/-- A wait of this client that begins at once has one round. -/
theorem rounds_stalled_iff {refusal : Fault} {id : Value} {rounds last : Nat} :
    Rounds (stalledClient refusal) id (.ofInt 0) (.ofInt 1) rounds 0 last ↔
      rounds = last ∧ last ≤ 1 := by
  have clock : ∀ round : Nat, (stalledClient refusal).service.clock round = .ofInt round :=
    fun _ => rfl
  have rests : (stalledClient refusal).service.rest (stalledClient refusal).config.pollInterval
      ((stalledClient refusal).inquired id 0).2 = 1 := rfl
  constructor
  · intro made
    cases made with
    | none => exact ⟨rfl, Nat.zero_le 1⟩
    | more _ _ _ later =>
      rw [rests] at later
      cases later with
      | none => exact ⟨rfl, Nat.le_refl 1⟩
      | more within =>
        rw [clock, Int.natCast_one, stalled_passed] at within
        cases within
  · rintro ⟨rfl, few⟩
    have begins : ((stalledClient refusal).service.clock 0 - .ofInt 0).less (.ofInt 1) = true := by
      rw [clock]
      exact stalled_within
    match rounds, few with
    | 0, _ => exact .none 0
    | 1, _ => exact .more begins rfl rfl (.none 1)

end SqlGateway.Warehouse
