import Mathlib.Data.List.Forall2
import SqlGateway.Value.Carried

/-!
# Rows that documents can carry

A document carries null, booleans, numbers and texts, and lists and maps in which it carries
everything, however deep it lies. Every other value of a row gives way to a text. It does so as
a whole: one value that cannot be carried is enough for all the lists and maps around it.

What a document carries is left alone, so making rows fit for a document twice is making them fit
once.
-/

namespace SqlGateway.Value

/-- A value that a document carries: null, a boolean, a number, a text, or a list or map of such
    values. -/
inductive Carriable : Value → Prop
  | null : Carriable .null
  | bool (value : Bool) : Carriable (.bool value)
  | int (value : Int) : Carriable (.int value)
  | float (value : Binary64) : Carriable (.float value)
  | string (text : String) : Carriable (.string text)
  | list {elements : List Value} (each : ∀ element ∈ elements, Carriable element) :
      Carriable (.list elements)
  | map {entries : List (String × Value)} (each : ∀ entry ∈ entries, Carriable entry.2) :
      Carriable (.map entries)

/-- A list is carried exactly if all its elements are. -/
theorem carriable_list_iff {elements : List Value} :
    Carriable (.list elements) ↔ ∀ element ∈ elements, Carriable element :=
  ⟨fun | .list each => each, .list⟩

/-- A map is carried exactly if all its values are. -/
theorem carriable_map_iff {entries : List (String × Value)} :
    Carriable (.map entries) ↔ ∀ entry ∈ entries, Carriable entry.2 :=
  ⟨fun | .map each => each, .map⟩

mutual

/-- The test decides which values a document carries. -/
theorem isCarried_iff (value : Value) : value.isCarried = true ↔ value.Carriable := by
  cases value with
  | null => exact iff_of_true rfl .null
  | bool value => exact iff_of_true rfl (.bool value)
  | int value => exact iff_of_true rfl (.int value)
  | float value => exact iff_of_true rfl (.float value)
  | string text => exact iff_of_true rfl (.string text)
  | list elements =>
    rw [carriable_list_iff, ← allCarried_iff, isCarried]
  | map entries =>
    rw [carriable_map_iff, ← allEntriesCarried_iff, isCarried]
  | _ => exact iff_of_false nofun nofun

/-- So does the test of the elements of a list. -/
theorem allCarried_iff (elements : List Value) :
    isCarried.allCarried elements = true ↔ ∀ element ∈ elements, Carriable element := by
  cases elements with
  | nil => simp [isCarried.allCarried]
  | cons element rest =>
    rw [isCarried.allCarried, Bool.and_eq_true, isCarried_iff, allCarried_iff, List.forall_mem_cons]

/-- So does the test of the values of a map. -/
theorem allEntriesCarried_iff (entries : List (String × Value)) :
    isCarried.allEntriesCarried entries = true ↔ ∀ entry ∈ entries, Carriable entry.2 := by
  cases entries with
  | nil => simp [isCarried.allEntriesCarried]
  | cons entry rest =>
    obtain ⟨key, value⟩ := entry
    rw [isCarried.allEntriesCarried, Bool.and_eq_true, isCarried_iff, allEntriesCarried_iff,
      List.forall_mem_cons]

end

/-- One decimal number deep inside is enough for the whole value to give way to its text. -/
example :
    carriedRows [[("tags", list [.list [.int 1], .list [.null]]),
        ("days", list [.list [.int 1], .list [.decimal "2"]])]] =
      [[("tags", list [.list [.int 1], .list [.null]]),
        ("days", string "[[1], [Decimal('2')]]")]] := by
  rfl

end SqlGateway.Value
