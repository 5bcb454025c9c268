import SqlGateway.Fault

/-!
# Runs

What the gateway does with its backends changes a state and ends with a result or a
failure. What was changed before a failure stays changed.
-/

namespace SqlGateway

/-- A computation on a state that ends with a result or a failure. -/
abbrev Run (σ α : Type) := ExceptT Failure (StateM σ) α

namespace Run

variable {σ τ α : Type}

/-- A result or a failure that leaves the state as it is. -/
def ofOutcome (outcome : Outcome α) : Run σ α :=
  ExceptT.mk (pure outcome)

/-- A fault in place of a result. -/
def fail (fault : Fault) : Run σ α :=
  ofOutcome fault.raise

/-- The outcome of a run as its result. -/
def attempt (run : Run σ α) : Run σ (Outcome α) :=
  ExceptT.mk (.ok <$> run.run)

/-- A run whose failures are changed. -/
def mapFailure (change : Failure → Failure) (run : Run σ α) : Run σ α :=
  ExceptT.mk (Except.mapError change <$> run.run)

/-- A run on a part of the state. -/
def within (part : σ → τ) (replace : τ → σ → σ) (run : Run τ α) : Run σ α :=
  ExceptT.mk fun state =>
    let (outcome, changed) := run.run (part state)
    (outcome, replace changed state)

/-- A run on the first half of a pair. -/
def onFirst (run : Run σ α) : Run (σ × τ) α :=
  within Prod.fst (fun first pair => (first, pair.2)) run

/-- A run on the second half of a pair. -/
def onSecond (run : Run τ α) : Run (σ × τ) α :=
  within Prod.snd (fun second pair => (pair.1, second)) run

/-- A run with a state of its own beside the given one. -/
def alongside (own : τ) (run : Run (σ × τ) α) : Run σ α :=
  ExceptT.mk fun state =>
    let (outcome, changed) := run.run (state, own)
    (outcome, changed.1)

/-- The outcome of a run that starts in a state, and the state after it. -/
def startIn (state : σ) (run : Run σ α) : Outcome α × σ :=
  run.run state

/-- A failure changes nothing. -/
theorem fail_run (fault : Fault) (state : σ) :
    (fail fault : Run σ α).run state = (fault.raise, state) :=
  rfl

/-- Two runs in a row: the second one starts where the first one has come to. -/
theorem startIn_bind_of_ok {β : Type} {run : Run σ α} {next : α → Run σ β} {before after : σ}
    {value : α} (first : run.startIn before = (.ok value, after)) :
    (run >>= next).startIn before = (next value).startIn after := by
  have unfolded : (run >>= next).startIn before =
      (ExceptT.bindCont next (run.startIn before).1).run (run.startIn before).2 := rfl
  rw [unfolded, first]
  rfl

/-- Nothing is run behind a failure. -/
theorem startIn_bind_of_error {β : Type} {run : Run σ α} {next : α → Run σ β} {before after : σ}
    {failure : Failure} (first : run.startIn before = (.error failure, after)) :
    (run >>= next).startIn before = (.error failure, after) := by
  have unfolded : (run >>= next).startIn before =
      (ExceptT.bindCont next (run.startIn before).1).run (run.startIn before).2 := rfl
  rw [unfolded, first]
  rfl

/-- A run whose outcome is looked through before it is given. -/
theorem startIn_bind_ofOutcome {β : Type} {run : Run σ α} {next : α → Outcome β}
    {before after : σ} {outcome : Outcome α} (first : run.startIn before = (outcome, after)) :
    (run >>= fun value => ofOutcome (next value)).startIn before = (outcome >>= next, after) := by
  cases outcome with
  | error failure => exact startIn_bind_of_error first
  | ok value => exact startIn_bind_of_ok first

/-- An attempt has the outcome of its run as its result. -/
theorem startIn_attempt {run : Run σ α} {before after : σ} {outcome : Outcome α}
    (ran : run.startIn before = (outcome, after)) :
    run.attempt.startIn before = (.ok outcome, after) := by
  have unfolded : run.attempt.startIn before =
      (.ok (run.startIn before).1, (run.startIn before).2) := rfl
  rw [unfolded, ran]

/-- Two runs in a row, of which the second one is run whatever comes of the first one. Then
    what they have come to is put together. -/
theorem startIn_both {α β γ : Type} (one : Run σ α) (other : Run σ β) (next : α → β → Outcome γ)
    (state : σ) :
    (do
      let first ← one.attempt
      let second ← other.attempt
      let value ← ofOutcome first
      let more ← ofOutcome second
      ofOutcome (next value more) : Run σ γ).startIn state =
      let first := one.startIn state
      let second := other.startIn first.2
      (do
        let value ← first.1
        let more ← second.1
        next value more, second.2) := by
  generalize ran : one.startIn state = first
  obtain ⟨outcome, between⟩ := first
  rw [startIn_bind_of_ok (startIn_attempt ran)]
  dsimp only
  generalize ranNext : other.startIn between = second
  obtain ⟨later, after⟩ := second
  rw [startIn_bind_of_ok (startIn_attempt ranNext)]
  cases outcome with
  | error failure => rfl
  | ok value =>
    cases later with
    | error failure => rfl
    | ok more => rfl

end Run

end SqlGateway
