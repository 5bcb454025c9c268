import Mathlib.Logic.Basic
import Mathlib.Logic.Relation
import SqlGateway.Federation

/-!
# Two sides at the same time

Both sub-queries of a join are carried out at the same time: each one is broken up into
pieces of work, and between two pieces of one side the other side may go on. A side works on
its own backend alone. Whoever waits for both is told as soon as the last side has completed,
or, if waiting is impatient, as soon as one of them has failed.

How the sides are broken up and in which order they go on is left open here. What every step
keeps is what a side will come to if it is carried out from where it is; that each side ends
after finitely many pieces is part of what a task is. From this it follows that a patient
waiter is told the outcomes of both sides, each the one that it would have alone, whatever
the order of the pieces and of the completions.
-/

namespace SqlGateway

/-- What is left to do of a computation that is carried out in pieces. A piece changes the
    state, and what comes behind it depends on what it found. -/
inductive Task (σ γ : Type) where
  | ended (outcome : Outcome γ)
  | going (change : σ → σ) (rest : σ → Task σ γ)

namespace Task

variable {σ γ : Type}

/-- What a task comes to if nothing else touches its state. -/
def finish : Task σ γ → σ → Outcome γ × σ
  | ended outcome, state => (outcome, state)
  | going change rest, state => (rest state).finish (change state)

/-- The number of pieces that are left. -/
def pieces : Task σ γ → σ → Nat
  | ended _, _ => 0
  | going change rest, state => (rest state).pieces (change state) + 1

end Task

/-- One side that is carried out: what is left to do, and what its backend has come to. -/
structure Side (σ γ : Type) where
  /-- What is left to do. -/
  task : Task σ γ
  /-- The state of the backend. -/
  state : σ

namespace Side

variable {σ γ : Type}

/-- The outcome of a side that has completed. -/
def outcome? (side : Side σ γ) : Option (Outcome γ) :=
  match side.task with
  | .ended outcome => some outcome
  | .going _ _ => none

/-- What a side comes to. -/
def result (side : Side σ γ) : Outcome γ × σ :=
  side.task.finish side.state

/-- The number of pieces of work that a side has before it. -/
def pieces (side : Side σ γ) : Nat :=
  side.task.pieces side.state

/-- A side carries out its next piece. -/
inductive Works : Side σ γ → Side σ γ → Prop
  | piece (change : σ → σ) (rest : σ → Task σ γ) (state : σ) :
      Works ⟨.going change rest, state⟩ ⟨rest state, change state⟩

variable {side next : Side σ γ}

/-- A piece of work is part of what the side comes to. -/
theorem Works.result_eq (works : side.Works next) : next.result = side.result := by
  cases works with
  | piece change rest state => rfl

/-- A side that works has not completed. -/
theorem Works.outcome?_eq_none (works : side.Works next) : side.outcome? = none := by
  cases works with
  | piece change rest state => rfl

/-- A side that has completed has come to its result. -/
theorem result_of_outcome? {outcome : Outcome γ} (completed : side.outcome? = some outcome) :
    side.result = (outcome, side.state) := by
  obtain ⟨task, state⟩ := side
  cases task with
  | ended outcome =>
    cases completed
    rfl
  | going change rest => cases completed

end Side

/-- Where two sides have come to, and what is told to the one that waits for them. -/
structure Gathering (α β γ : Type) where
  /-- The side of the warehouse. -/
  warehouse : Side α γ
  /-- The side of the transactional server. -/
  transactional : Side β γ
  /-- The sides whose completion was noticed, in the order in which they completed. -/
  completed : List Backend := []
  /-- What the waiting one is told: both outcomes or, instead of them, a failure. -/
  told : Option (Outcome (Outcome γ × Outcome γ)) := none

namespace Gathering

variable {α β γ : Type}

/-- The outcome of a side that has completed. -/
def outcome? (gathering : Gathering α β γ) : Backend → Option (Outcome γ)
  | .warehouse => gathering.warehouse.outcome?
  | .transactional => gathering.transactional.outcome?

/-- Both outcomes, once both sides have completed. -/
def outcomes? (gathering : Gathering α β γ) : Option (Outcome γ × Outcome γ) := do
  let left ← gathering.outcome? .warehouse
  let right ← gathering.outcome? .transactional
  return (left, right)

/-- What is told when the completion of a side is noticed. An impatient waiter is told the
    first failure, and otherwise the outcomes are told with the last completion. -/
def news (patient : Bool) (gathering : Gathering α β γ) (backend : Backend)
    (outcome : Outcome γ) : Option (Outcome (Outcome γ × Outcome γ)) :=
  match patient, outcome with
  | false, .error failure => some (.error failure)
  | false, .ok _ | true, _ =>
      if ∀ other ∈ Backend.all, other ∈ gathering.completed ++ [backend] then
        gathering.outcomes?.map .ok
      else none

/-- What can happen next: one of the sides carries out a piece of work on its own backend, or
    the completion of a side is noticed. What was told once is not changed. -/
inductive Step (patient : Bool) : Gathering α β γ → Gathering α β γ → Prop
  | warehouseWorks (gathering : Gathering α β γ) {next : Side α γ}
      (works : gathering.warehouse.Works next) :
      Step patient gathering { gathering with warehouse := next }
  | transactionalWorks (gathering : Gathering α β γ) {next : Side β γ}
      (works : gathering.transactional.Works next) :
      Step patient gathering { gathering with transactional := next }
  | completes (gathering : Gathering α β γ) (backend : Backend) {outcome : Outcome γ}
      (ended : gathering.outcome? backend = some outcome)
      (unnoticed : backend ∉ gathering.completed) :
      Step patient gathering
        { gathering with
          completed := gathering.completed ++ [backend]
          told := gathering.told.or (gathering.news patient backend outcome) }

/-- The number of sides whose completion was not noticed yet. -/
def unnoticed (gathering : Gathering α β γ) : Nat :=
  Backend.all.countP (· ∉ gathering.completed)

/-- How much there is to do before nothing can happen any more. -/
def remaining (gathering : Gathering α β γ) : Nat :=
  gathering.warehouse.pieces + gathering.transactional.pieces + gathering.unnoticed

/-- What is known of two sides at any time: each of them still comes to what it comes to
    alone, only sides that have completed were noticed, and while something is left to notice
    nothing is told. What is told then are both outcomes. -/
structure Holds (left : Outcome γ × α) (right : Outcome γ × β) (gathering : Gathering α β γ) :
    Prop where
  /-- The warehouse comes to its own result. -/
  warehouse : gathering.warehouse.result = left
  /-- The transactional server comes to its own result. -/
  transactional : gathering.transactional.result = right
  /-- Sides that were noticed have completed. -/
  ended : ∀ backend ∈ gathering.completed, (gathering.outcome? backend).isSome
  /-- As long as nothing is told, a side is left to wait for. -/
  untold : gathering.told = none → ∃ backend, backend ∉ gathering.completed
  /-- Both outcomes are told, and only when both sides were noticed. -/
  told : ∀ told ∈ gathering.told,
    (∀ backend, backend ∈ gathering.completed) ∧ told = .ok (left.1, right.1)

variable {left : Outcome γ × α} {right : Outcome γ × β} {gathering next : Gathering α β γ}

/-- The outcome of a side that has completed is the one that it has alone. -/
theorem Holds.outcomes (holds : gathering.Holds left right)
    (ended : ∀ backend, (gathering.outcome? backend).isSome) :
    gathering.outcomes? = some (left.1, right.1) ∧
      (gathering.warehouse.state, gathering.transactional.state) = (left.2, right.2) := by
  obtain ⟨first, isFirst⟩ := Option.isSome_iff_exists.mp (ended .warehouse)
  obtain ⟨second, isSecond⟩ := Option.isSome_iff_exists.mp (ended .transactional)
  have fromLeft := (Side.result_of_outcome? isFirst).symm.trans holds.warehouse
  have fromRight := (Side.result_of_outcome? isSecond).symm.trans holds.transactional
  constructor
  · rw [outcomes?, isFirst, isSecond, ← fromLeft, ← fromRight]
    rfl
  · rw [← fromLeft, ← fromRight]

/-- A piece of work changes nothing of what is known. A side that works was not noticed, since
    it has not completed. -/
theorem Holds.step (holds : gathering.Holds left right) (step : gathering.Step true next) :
    next.Holds left right := by
  cases step with
  | warehouseWorks works =>
    refine ⟨works.result_eq.trans holds.warehouse, holds.transactional, ?_, holds.untold,
      holds.told⟩
    intro backend noticed
    have ended := holds.ended backend noticed
    cases backend with
    | warehouse =>
      rw [outcome?, works.outcome?_eq_none] at ended
      cases ended
    | transactional => exact ended
  | transactionalWorks works =>
    refine ⟨holds.warehouse, works.result_eq.trans holds.transactional, ?_, holds.untold,
      holds.told⟩
    intro backend noticed
    have ended := holds.ended backend noticed
    cases backend with
    | warehouse => exact ended
    | transactional =>
      rw [outcome?, works.outcome?_eq_none] at ended
      cases ended
  | @completes backend outcome ended fresh =>
    have nothing : gathering.told = none := by
      rw [Option.eq_none_iff_forall_not_mem]
      intro told isTold
      exact fresh ((holds.told told isTold).1 backend)
    have endedAll : ∀ noticed ∈ gathering.completed ++ [backend],
        (gathering.outcome? noticed).isSome := by
      intro noticed member
      rcases List.mem_append.mp member with earlier | now
      · exact holds.ended noticed earlier
      · rw [List.mem_singleton.mp now, ended]
        rfl
    by_cases last : ∀ other ∈ Backend.all, other ∈ gathering.completed ++ [backend]
    · have everyone : ∀ other, other ∈ gathering.completed ++ [backend] :=
        fun other => last other other.mem_all
      have told : gathering.news true backend outcome = some (.ok (left.1, right.1)) := by
        rw [news, if_pos last, (holds.outcomes fun other => endedAll other (everyone other)).1]
        rfl
      refine ⟨holds.warehouse, holds.transactional, endedAll, ?_, ?_⟩
      · intro untold
        simp [nothing, told] at untold
      · intro news isNews
        simp only [nothing, told, Option.none_or, Option.mem_def, Option.some.injEq] at isNews
        exact ⟨everyone, isNews.symm⟩
    · have quiet : gathering.news true backend outcome = none := by
        rw [news, if_neg last]
      refine ⟨holds.warehouse, holds.transactional, endedAll, ?_, ?_⟩
      · intro _
        obtain ⟨other, missing⟩ := not_forall.mp last
        exact ⟨other, fun noticed => missing fun _ => noticed⟩
      · intro news isNews
        simp [nothing, quiet] at isNews

/-- What is known of two sides is known however far they have come. The induction is on the
    steps, each of which keeps it. -/
theorem Holds.run (holds : gathering.Holds left right)
    (reached : Relation.ReflTransGen (Step true) gathering next) : next.Holds left right := by
  induction reached with
  | refl => exact holds
  | tail earlier step inductionHypothesis => exact inductionHypothesis.step step

/-- An impatient waiter would be told of a failure although the other side still works. -/
theorem impatient_told_early (gathering : Gathering α β γ) {failure : Failure}
    (failed : gathering.warehouse.outcome? = some (.error failure))
    (fresh : gathering.completed = []) (untold : gathering.told = none) :
    ∃ next, gathering.Step false next ∧ next.told = some (.error failure) ∧
      .transactional ∉ next.completed := by
  refine ⟨_, .completes gathering .warehouse failed (by simp [fresh]), ?_, ?_⟩
  · simp [untold, news]
  · simp [fresh]

end Gathering

end SqlGateway
