import SqlGateway.Value.Order

/-!
# Values as names

A backend may name its columns, schemas and tables by values of any kind that its owner
cannot change. A decimal number that gives an alarm wherever it is used is no name either.
-/

namespace SqlGateway

/-- Whether the text of a decimal number is one of those that are no numbers and give an
    alarm. -/
def Decimal.isSignaling (text : String) : Bool :=
  text.toList.contains 's'

namespace Value

/-- A value that has to be a name. -/
def asName (value : Value) : Outcome Value :=
  match value with
  | byteBuffer _ | list _ | map _ =>
      (Fault.wrongType ("unhashable type: '" ++ value.kindName ++ "'")).raise
  | decimal text =>
      if Decimal.isSignaling text then
        (Fault.wrongType "Cannot hash a signaling NaN value").raise
      else .ok value
  | _ => .ok value

/-- The values under each name, in the order in which the names first occur. A name that
    is not even the same as itself is one for every time that it occurs. -/
def grouped {α : Type} : List (Value × α) → List (Value × List α)
  | [] => []
  | (name, value) :: rest =>
      let own := rest.filter fun entry => entry.1.same name
      (name, value :: own.map Prod.snd) :: grouped (rest.filter fun entry => !entry.1.same name)
termination_by entries => entries.length
decreasing_by
  have shorter := List.length_filter_le (fun entry => !entry.val.1.same name) rest.attach
  simpa using Nat.lt_succ_of_le shorter

/-- Names without those that are the same as an earlier one. -/
def withoutRepeated : List Value → List Value
  | [] => []
  | name :: rest => name :: (withoutRepeated rest).filter fun later => !later.same name

/-- Every text is a name. -/
theorem asName_string (text : String) : (string text).asName = .ok (string text) :=
  rfl

/-- Texts of which no two are equal are kept. -/
theorem withoutRepeated_strings (texts : List String) (distinct : texts.Nodup) :
    withoutRepeated (texts.map string) = texts.map string := by
  induction texts with
  | nil => rfl
  | cons text rest ih =>
    obtain ⟨fresh, distinct⟩ := List.nodup_cons.mp distinct
    simp only [List.map_cons, withoutRepeated, ih distinct, List.cons.injEq, true_and]
    refine List.filter_eq_self.mpr fun later member => ?_
    obtain ⟨other, inRest, rfl⟩ := List.mem_map.mp member
    have different : other ≠ text := fun same => fresh (same ▸ inRest)
    simp [same_string, string?, different]

end Value

end SqlGateway
