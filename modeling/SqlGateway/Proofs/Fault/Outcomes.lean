import Mathlib.Data.List.Forall2
import SqlGateway.Fault

/-!
# Outcomes of steps

Steps one after another give a value exactly if each of them does, and so do the steps through a
list. What is computed to have a value has it.
-/

namespace SqlGateway

/-- What has a result has come to it. -/
theorem eq_ok_of_toOption {γ : Type} {outcome : Outcome γ} {result : γ}
    (computed : outcome.toOption = some result) : outcome = .ok result := by
  cases outcome with
  | error failure => cases computed
  | ok value =>
    cases computed
    rfl

/-- What has no result has not come to one. -/
theorem not_ok_of_toOption {γ : Type} {outcome : Outcome γ}
    (computed : outcome.toOption.isSome = false) : ¬∃ result, outcome = .ok result := by
  rintro ⟨result, rfl⟩
  cases computed

/-- Two steps of which the first one gives a value. -/
theorem exists_of_bind_ok {α β : Type} {first : Outcome α} {next : α → Outcome β} {value : β}
    (both : first >>= next = .ok value) :
    ∃ middle, first = .ok middle ∧ next middle = .ok value := by
  cases first with
  | error failure => cases both
  | ok middle => exact ⟨middle, rfl, both⟩

/-- Two steps give a value exactly if the first one does, and the second one behind it. -/
theorem exists_bind_ok_iff {α β : Type} {first : Outcome α} {next : α → Outcome β} :
    (∃ value, first >>= next = .ok value) ↔
      ∃ middle, first = .ok middle ∧ ∃ value, next middle = .ok value := by
  constructor
  · rintro ⟨value, both⟩
    obtain ⟨middle, one, other⟩ := exists_of_bind_ok both
    exact ⟨middle, one, value, other⟩
  · rintro ⟨middle, rfl, value, gives⟩
    exact ⟨value, gives⟩

/-- What is made of a value is there exactly if the value is. -/
theorem exists_map_ok_iff {α β : Type} {outcome : Outcome α} {make : α → β} :
    (∃ value, make <$> outcome = .ok value) ↔ ∃ given, outcome = .ok given := by
  cases outcome with
  | ok given => exact iff_of_true ⟨make given, rfl⟩ ⟨given, rfl⟩
  | error failure => exact iff_of_false nofun nofun

/-- A list of values that can all be read is read as a whole. -/
theorem mapM_of_forall {α β : Type} {read : α → Outcome β} (value : α → β) {values : List α}
    (reads : ∀ given ∈ values, read given = .ok (value given)) :
    values.mapM read = .ok (values.map value) := by
  induction values with
  | nil => rfl
  | cons given rest inductionHypothesis =>
    obtain ⟨first, others⟩ := List.forall_mem_cons.mp reads
    rw [List.mapM_cons, first, inductionHypothesis others]
    rfl

/-- Values that can all be read are read one by one. -/
theorem forall₂_of_mapM {α β : Type} {read : α → Outcome β} {values : List α} {given : List β}
    (found : values.mapM read = .ok given) :
    List.Forall₂ (fun value result => read value = .ok result) values given := by
  induction values generalizing given with
  | nil => cases found; exact .nil
  | cons value rest inductionHypothesis =>
    rw [List.mapM_cons] at found
    obtain ⟨first, isFirst, found⟩ := exists_of_bind_ok found
    obtain ⟨others, later, found⟩ := exists_of_bind_ok found
    cases found
    exact .cons isFirst (inductionHypothesis later)

end SqlGateway
