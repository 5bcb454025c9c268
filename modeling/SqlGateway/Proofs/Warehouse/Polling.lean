import Mathlib.Data.Rat.Floor
import SqlGateway.Proofs.Binary64.Order
import SqlGateway.Proofs.Warehouse.Rounds
import SqlGateway.Proofs.Warehouse.Truthful

/-!
# Polling ends

The loop of a wait has no counter: it goes on for as long as the clock has not passed the
longest wait. If the clock goes on by at least the interval between two inquiries from round to
round, the loop ends, and the number of its inquiries is at most the number of intervals in the
longest wait, rounded up. What carries the argument is that the seconds since the start are at
least as many intervals as there were rounds, and that this survives the rounding of the
difference.

A time-out is told only behind rounds in all of which the statement was running, and when the
seconds since the start have reached the longest wait. They are compared as the clock measures
them, rounded to a number; the exact ones then exceed every number below the longest wait.
-/

namespace SqlGateway.Warehouse

variable {σ : Type} {client : Client σ} {id : Value} {start longest : Binary64} {first : σ}

/-- The clock goes on during a wait. It shows finitely many seconds at every look, and from one
    look to the next, with a rest between them, it goes on by at least the interval. -/
structure Paced (client : Client σ) (id : Value) (start longest : Binary64) (first : σ) : Prop where
  /-- The wait begins at a time. -/
  begun : start.isFinite = true
  /-- The first round begins no earlier. -/
  onwards : start.value ≤ (client.service.clock first).value
  /-- Every look shows a time. -/
  finite {rounds : Nat} {last : σ} (made : Rounds client id start longest rounds first last) :
    (client.service.clock last).isFinite = true
  /-- A round takes at least the interval. -/
  rests {rounds : Nat} {middle last : σ} (made : Rounds client id start longest rounds first middle)
    (one : Rounds client id start longest 1 middle last) :
    (client.service.clock middle).value + client.config.pollInterval.value ≤
      (client.service.clock last).value

/-- The number of intervals in the longest wait, rounded up. -/
def intervals (client : Client σ) (longest : Binary64) : Nat :=
  ⌈longest.value / client.config.pollInterval.value⌉₊

namespace Paced

/-- Since the start there were at least as many intervals as rounds. -/
theorem elapsed (paced : Paced client id start longest first) {rounds : Nat} {last : σ}
    (made : Rounds client id start longest rounds first last) :
    rounds * client.config.pollInterval.value ≤ (client.service.clock last).value - start.value := by
  induction rounds generalizing last with
  | zero =>
    cases made
    have onwards := paced.onwards
    push_cast
    linarith
  | succ rounds inductionHypothesis =>
    obtain ⟨middle, before, one⟩ := made.exists_last
    have sofar := inductionHypothesis before
    have rests := paced.rests before one
    push_cast
    linarith

/-- The seconds since the start are rounded as the order demands. -/
theorem roundsTo (paced : Paced client id start longest first)
    (interval : 0 < client.config.pollInterval.value) {rounds : Nat} {last : σ}
    (made : Rounds client id start longest rounds first last) :
    Binary64.RoundsTo ((client.service.clock last).value - start.value)
      (client.service.clock last - start) := by
  have elapsed := paced.elapsed made
  have none : (0 : ℚ) ≤ rounds * client.config.pollInterval.value := by positivity
  exact Binary64.roundsTo_sub (paced.finite made) paced.begun (by linarith)

/-- While the longest wait is not over, there were fewer rounds than intervals in it. -/
theorem rounds_lt (paced : Paced client id start longest first)
    (interval : 0 < client.config.pollInterval.value) (bounded : longest.isFinite = true)
    {rounds : Nat} {last : σ} (made : Rounds client id start longest rounds first last)
    (within : (client.service.clock last - start).less longest = true) :
    rounds < intervals client longest := by
  rw [intervals, Nat.lt_ceil, lt_div_iff₀ interval]
  by_contra enough
  have reached := (paced.roundsTo interval made).reaches longest bounded
    ((not_lt.mp enough).trans (paced.elapsed made))
  rw [within] at reached
  cases reached

/-- There are at most as many rounds as intervals. -/
theorem rounds_le (paced : Paced client id start longest first)
    (interval : 0 < client.config.pollInterval.value) (bounded : longest.isFinite = true)
    {rounds : Nat} {last : σ} (made : Rounds client id start longest rounds first last) :
    rounds ≤ intervals client longest := by
  cases rounds with
  | zero => exact Nat.zero_le _
  | succ rounds =>
    obtain ⟨middle, before, one⟩ := made.exists_last
    exact paced.rounds_lt interval bounded before one.within

/-- The rounds come to an end, and so many inquiries are made at most. -/
theorem exists_end (paced : Paced client id start longest first)
    (interval : 0 < client.config.pollInterval.value) (bounded : longest.isFinite = true) :
    ∃ rounds last polls outcome asked, Rounds client id start longest rounds first last ∧
      Ends client id start longest last polls outcome asked ∧
      rounds + polls ≤ intervals client longest := by
  rcases Rounds.made_or_ends client id start longest first (intervals client longest + 1) with
    ⟨last, made⟩ | ⟨rounds, last, polls, outcome, asked, made, ends⟩
  · exact absurd (paced.rounds_le interval bounded made) (Nat.not_succ_le_self _)
  · refine ⟨rounds, last, polls, outcome, asked, made, ends, ?_⟩
    cases ends with
    | expired => exact paced.rounds_le interval bounded made
    | settled within | unclear within => exact paced.rounds_lt interval bounded made within

end Paced

/-- A failure that tells a time-out tells how a statement ended. -/
theorem endsStatement_of_timedOut {failure : Failure}
    (late : failure.isA .statementTimedOut = true) : failure.fault.endsStatement = true := by
  obtain ⟨fault, _⟩ := failure
  cases fault with
  | statementTimedOut => rfl
  | _ => cases late

/-- At an end that tells a time-out no inquiry is made any more, and the longest wait is over. An
    inquiry tells none, as the service itself raises no fault of the connectors. -/
theorem Ends.passed_of_timedOut {state : σ} {polls : Nat} {outcome : Outcome Description}
    {asked : List Request} (ends : Ends client id start longest state polls outcome asked)
    (quiet : Quiet (client.inquired id state).1) {failure : Failure}
    (fails : outcome = .error failure) (late : failure.isA .statementTimedOut = true) :
    polls = 0 ∧ (client.service.clock state - start).less longest = false := by
  cases ends with
  | expired passed => exact ⟨rfl, passed⟩
  | settled _ _ decides =>
    subst fails
    unfold decided? at decides
    split at decides
    all_goals cases decides
    all_goals cases late
  | unclear _ told =>
    have incidental := incidental_described quiet _ told
    cases fails
    rw [endsStatement_of_timedOut late] at incidental
    cases incidental

/-- A wait for a given or the configured longest time ends, if the clock goes on from round to
    round by at least the interval between two inquiries: there are at most as many inquiries as
    intervals in the longest wait, rounded up, and a client that follows the wait for longer than
    that comes to its end. A time-out is told only if the statement was running at every inquiry,
    and the clock has measured the longest wait. -/
theorem Client.wait_ends (client : Client σ) (handle : Handle) (longest : Option Binary64)
    (before : Session σ) :
    let start := client.service.clock before.state
    let first := client.service.tick before.state
    let window := longest.getD client.config.maxWait
    0 < client.config.pollInterval.value → window.isFinite = true →
    Paced client handle.id start window first →
    (∀ {rounds last}, Rounds client handle.id start window rounds first last →
      Quiet (client.inquired handle.id last).1) →
    intervals client window < client.patience →
    ∃ rounds last polls outcome asked after,
      Rounds client handle.id start window rounds first last ∧
      Ends client handle.id start window last polls outcome asked ∧
      (client.wait handle longest).startIn before =
        (outcome,
          { state := after
            requests := before.requests ++
              (List.replicate rounds (inquiry handle.id) ++ asked).toArray }) ∧
      rounds + polls ≤ intervals client window ∧
      ∀ failure, outcome = .error failure → failure.isA .statementTimedOut = true →
        polls = 0 ∧ (client.service.clock last - start).less window = false ∧
        ∀ shorter : Binary64, shorter.isFinite = true → shorter.value < window.value →
          shorter.value < (client.service.clock last).value - start.value := by
  intro start first window interval bounded paced quiet followed
  obtain ⟨rounds, last, polls, outcome, asked, made, ends, few⟩ :=
    paced.exists_end interval bounded
  obtain ⟨after, waits⟩ := client.startIn_waitFrom handle made ends
    (lt_of_le_of_lt (Nat.le_of_add_right_le few) followed) before.requests
  refine ⟨rounds, last, polls, outcome, asked, after, made, ends, ?_, few, ?_⟩
  · rw [client.startIn_wait]
    exact waits
  · intro failure fails late
    obtain ⟨none, passed⟩ := ends.passed_of_timedOut (quiet made) fails late
    refine ⟨none, passed, fun shorter shorterFinite below => ?_⟩
    exact (paced.roundsTo interval made).lt_of_passed bounded shorterFinite below passed

/-- One second is not rounded. -/
theorem value_second : (Binary64.ofInt 1).value = 1 := by
  have exact : (Binary64.ofInt 1).value = ((1 : Int) : ℚ) := (Binary64.ofInt_exact (by decide)).2
  rwa [Int.cast_one] at exact

/-- A client whose statements stay running asks once a second. -/
theorem interval_stalled (refusal : Fault) :
    (stalledClient refusal).config.pollInterval.value = 1 :=
  value_second

/-- The clock of its service goes on by a second in every round. -/
theorem paced_stalled (refusal : Fault) (id : Value) :
    Paced (stalledClient refusal) id (.ofInt 0) (.ofInt 1) 0 where
  begun := (Binary64.ofInt_exact (by decide)).1
  onwards := le_refl _
  finite made := by
    obtain ⟨-, few⟩ := rounds_stalled_iff.mp made
    exact (Binary64.ofInt_exact (by omega)).1
  rests {rounds middle last} made one := by
    obtain ⟨rfl, -⟩ := rounds_stalled_iff.mp made
    obtain ⟨rfl, few⟩ := rounds_stalled_iff.mp (made.trans one)
    have clock : ∀ round : Nat, round ≤ 1 →
        ((stalledClient refusal).service.clock round).value = round := by
      intro round small
      rw [← Int.cast_natCast]
      exact (Binary64.ofInt_exact (by omega)).2
    rw [clock rounds (by omega), clock (rounds + 1) few, interval_stalled]
    push_cast
    exact le_refl _

/-- The longest wait of this client is one interval. -/
theorem intervals_stalled (refusal : Fault) : intervals (stalledClient refusal) (.ofInt 1) = 1 := by
  rw [intervals, value_second, interval_stalled]
  norm_num

/-- A client whose statements stay running makes at most one inquiry. -/
theorem wait_ends_stalled :
    Paced (stalledClient .credentials) (.string "s-1") (.ofInt 0) (.ofInt 1) 0 ∧
      ∃ rounds last polls outcome asked after,
        Rounds (stalledClient .credentials) (.string "s-1") (.ofInt 0) (.ofInt 1) rounds 0 last ∧
        Ends (stalledClient .credentials) (.string "s-1") (.ofInt 0) (.ofInt 1) last polls outcome
          asked ∧
        ((stalledClient .credentials).wait { id := .string "s-1" }).startIn { state := 0 } =
          (outcome,
            { state := after
              requests := #[] ++
                (List.replicate rounds (inquiry (.string "s-1")) ++ asked).toArray }) ∧
        rounds + polls ≤ 1 := by
  have paced := paced_stalled .credentials (.string "s-1")
  have quiet : ∀ {rounds last : Nat},
      Rounds (stalledClient .credentials) (.string "s-1") (.ofInt 0) (.ofInt 1) rounds 0 last →
        Quiet ((stalledClient .credentials).inquired (.string "s-1") last).1 := by
    rintro _ _ _ fault ⟨⟩
  have interval : 0 < (stalledClient .credentials).config.pollInterval.value := by
    rw [interval_stalled]
    exact zero_lt_one
  have bounded : (Binary64.ofInt 1).isFinite = true := (Binary64.ofInt_exact (by decide)).1
  have followed : intervals (stalledClient .credentials) (.ofInt 1) < 1000000 := by
    rw [intervals_stalled]
    decide
  obtain ⟨rounds, last, polls, outcome, asked, after, made, ends, waits, few, -⟩ :=
    Client.wait_ends (stalledClient .credentials) { id := .string "s-1" } none { state := 0 }
      interval bounded paced quiet followed
  have fewer : rounds + polls ≤ intervals (stalledClient .credentials) (.ofInt 1) := few
  rw [intervals_stalled] at fewer
  exact ⟨paced, rounds, last, polls, outcome, asked, after, made, ends, waits, fewer⟩

end SqlGateway.Warehouse
