import SqlGateway.Proofs.Gateway.Calls
import SqlGateway.Proofs.Validation.Told
import SqlGateway.Transactional.Client
import SqlGateway.Warehouse.Client

/-!
# What an execution fails of

A query fails for a reason that can be told, or because a backend is stopped from outside. The
reasons are those of the planner, of the join, of the check of a result and of the connectors;
a connector passes on every ordinary fault of its backend as one of its family, so no reason of
another kind gets through.

Nothing else is assumed of the backends.
-/

namespace SqlGateway

/-- A failure that is told: an ordinary one that, if a check has failed, tells errors. -/
structure Failure.IsTold (failure : Failure) : Prop where
  /-- It is an ordinary one. -/
  ordinary : failure.isA .ordinary = true
  /-- The errors of a check are told. -/
  errors : ∀ errors, failure.fault = .validation errors → Checked.Told errors

/-- A failure that stops a run from outside, or a run that goes on longer than it is
    followed. -/
inductive Failure.IsStop : Failure → Prop
  | cancelled (message : String) (cause : Option Fault) :
      IsStop { fault := .cancelled message, cause }
  | unfinished (cause : Option Fault) : IsStop { fault := .unfinished, cause }

namespace Failure

/-- Only what stops a run is no ordinary failure. -/
theorem isStop_iff (failure : Failure) : failure.IsStop ↔ failure.isA .ordinary = false := by
  constructor
  · rintro (_ | _)
    · rfl
    · rfl
  · intro outside
    obtain ⟨fault, cause⟩ := failure
    cases fault with
    | cancelled message => exact .cancelled message cause
    | unfinished => exact .unfinished cause
    | _ => cases outside

/-- A side of a join tells a failure that is told, and is stopped as its query is. -/
theorem ofSide_cases (backend : Backend) {failure : Failure} :
    (failure.IsTold → (failure.ofSide backend).IsTold) ∧
      (failure.IsStop → (failure.ofSide backend).IsStop) := by
  constructor
  · intro told
    rw [ofSide, if_pos told.ordinary]
    exact ⟨rfl, nofun⟩
  · rintro (_ | _)
    · exact .cancelled "" none
    · exact .unfinished _

end Failure

/-- An outcome whose failure, if it is one, is told, or stops the run; and it does so only under
    some condition. -/
def Outcome.TellsUnless {α : Type} (stopped : Prop) (outcome : Outcome α) : Prop :=
  ∀ failure, outcome = .error failure → failure.IsTold ∨ (failure.IsStop ∧ stopped)

namespace Outcome.TellsUnless

variable {α β : Type} {stopped : Prop}

/-- A result is no failure. -/
theorem ok (value : α) : TellsUnless stopped (.ok value) :=
  fun _ fails => nomatch fails

/-- A fault that is an ordinary one and not that of a check. -/
theorem raise {fault : Fault} (ordinary : fault.isA .ordinary = true)
    (other : ∀ errors, fault ≠ .validation errors) :
    TellsUnless stopped (fault.raise : Outcome α) := by
  rintro _ ⟨⟩
  exact Or.inl ⟨ordinary, fun errors same => absurd same (other errors)⟩

/-- A check that tells its errors. -/
theorem checked {checked : Checked α} (tells : checked.Tells) :
    TellsUnless stopped checked.outcome := by
  cases checked with
  | valid value => exact ok value
  | invalid errors =>
    rintro _ ⟨⟩
    refine Or.inl ⟨rfl, ?_⟩
    rintro _ ⟨⟩
    exact tells errors rfl

/-- A step and what goes on with its value. -/
theorem bind {outcome : Outcome α} {next : α → Outcome β} (first : TellsUnless stopped outcome)
    (second : ∀ value, TellsUnless stopped (next value)) :
    TellsUnless stopped (outcome >>= next) := by
  cases outcome with
  | error failure =>
    rintro _ ⟨⟩
    exact first failure rfl
  | ok value => exact second value

/-- The outcome of a side of a join. -/
theorem ofSide {outcome : Outcome α} (tells : TellsUnless stopped outcome) (backend : Backend) :
    TellsUnless stopped (outcome.mapError (Failure.ofSide backend)) := by
  cases outcome with
  | ok value => exact ok value
  | error failure =>
    rintro _ ⟨⟩
    obtain ⟨keepsTold, keepsStop⟩ := failure.ofSide_cases backend
    rcases tells failure rfl with told | ⟨stops, condition⟩
    · exact Or.inl (keepsTold told)
    · exact Or.inr ⟨keepsStop stops, condition⟩

end Outcome.TellsUnless

open Outcome

namespace Gateway

variable {α β : Type}

end Gateway

end SqlGateway
