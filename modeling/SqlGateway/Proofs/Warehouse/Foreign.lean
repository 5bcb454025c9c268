import SqlGateway.Warehouse.Client

/-!
# Failures from outside the connectors' family

Whatever goes wrong in reading an answer of the warehouse is a fault of the machine: a
value lacks what is asked of it, a text holds no number, a key is missing. None of these
faults belongs to the connectors' family, so none can be taken for what the client itself
tells about a statement.
-/

namespace SqlGateway

/-- Whether a fault is one of the machine's, as reading a value raises them. -/
def Fault.isOfReading : Fault → Bool
  | .invalidValue _ | .missingKey _ | .wrongType _ | .unsupported _ | .overflow _ | .undefined =>
      true
  | _ => false

/-- Such a fault is an ordinary one outside the connectors' family. -/
theorem Fault.outside_of_reading {fault : Fault} (reading : fault.isOfReading = true) :
    fault.isA .ordinary = true ∧ fault.isA .connector = false := by
  cases fault with
  | invalidValue | missingKey | wrongType | unsupported | overflow | undefined => exact ⟨rfl, rfl⟩
  | _ => cases reading

/-- An outcome whose failure, if it is one, is a fault of reading, and so outside the
    connectors' family. -/
def Foreign {α : Type} (outcome : Outcome α) : Prop :=
  ∀ failure, outcome = .error failure → failure.fault.isOfReading = true

namespace Foreign

variable {α β : Type}

/-- A result is no failure. -/
theorem ok (value : α) : Foreign (.ok value : Outcome α) :=
  fun _ fails => nomatch fails

/-- A fault that stands in place of a result. -/
theorem raise {fault : Fault} (reading : fault.isOfReading = true) :
    Foreign (fault.raise : Outcome α) := by
  rintro _ ⟨⟩
  exact reading

/-- A step and what goes on with its value. -/
theorem bind {outcome : Outcome α} {next : α → Outcome β} (first : Foreign outcome)
    (second : ∀ value, Foreign (next value)) : Foreign (outcome >>= next) := by
  cases outcome with
  | error failure =>
    rintro _ ⟨⟩
    exact first failure rfl
  | ok value => exact second value

/-- A step whose value is changed. -/
theorem map {outcome : Outcome α} (change : α → β) (first : Foreign outcome) :
    Foreign (change <$> outcome) := by
  cases outcome with
  | error failure =>
    rintro _ ⟨⟩
    exact first failure rfl
  | ok value => exact ok (change value)

/-- One of two outcomes. -/
theorem ite {condition : Prop} [Decidable condition] {one other : Outcome α} (first : Foreign one)
    (second : Foreign other) : Foreign (if condition then one else other) := by
  split
  · exact first
  · exact second

/-- A step for each element of a list. -/
theorem mapM {step : α → Outcome β} (each : ∀ value, Foreign (step value)) (values : List α) :
    Foreign (values.mapM step) := by
  induction values with
  | nil => exact ok []
  | cons value rest inductionHypothesis =>
    rw [List.mapM_cons]
    apply bind (each value)
    intro first
    apply bind inductionHypothesis
    intro others
    exact ok (first :: others)

end Foreign

open Foreign

namespace Value

/-- Entries are looked for in maps alone. -/
theorem foreign_entries (value : Value) : Foreign value.entries := by
  cases value with
  | map entries => exact ok entries
  | _ => exact raise rfl

/-- A key is looked for in maps alone, and may be missing. -/
theorem foreign_entry (key : String) (value : Value) : Foreign (value.entry key) := by
  cases value with
  | map entries =>
    rw [entry]
    cases entries.lookup key with
    | some found => exact ok found
    | none => exact raise rfl
  | _ => exact raise rfl

/-- Not every value has parts. -/
theorem foreign_parts (value : Value) : Foreign value.parts := by
  cases value with
  | list elements => exact ok elements
  | map entries => exact ok _
  | string text => exact ok _
  | bytes content => exact ok _
  | byteBuffer content => exact ok _
  | _ => exact raise rfl

/-- Parts may be left out. -/
theorem foreign_listed (value : Value) : Foreign value.listed := by
  exact ite (foreign_parts value) (ok [])

/-- Not every value can be a name. -/
theorem foreign_asName (value : Value) : Foreign value.asName := by
  unfold asName
  split
  · exact raise rfl
  · exact raise rfl
  · exact raise rfl
  · exact ite (raise rfl) (ok _)
  · exact ok _

/-- Not every text stands for a whole number. -/
theorem foreign_wholeOfDigits (quoted text : List Char) : Foreign (wholeOfDigits quoted text) := by
  unfold wholeOfDigits
  dsimp only
  split
  all_goals exact ite (raise rfl) (ite (raise rfl) (ite (raise rfl) (ok _)))

/-- Not every value stands for a whole number. -/
theorem foreign_whole (value : Value) : Foreign value.whole := by
  cases value with
  | int number => exact ok number
  | bool truth => exact ok _
  | uuid text => exact ok _
  | float number => cases number <;> first | exact ok _ | exact raise rfl
  | decimal text =>
    rw [whole, Decimal.wholeOfText]
    split
    · exact ok _
    · exact ite (raise rfl) (raise rfl)
  | string text => exact foreign_wholeOfDigits _ _
  | bytes content => exact foreign_wholeOfDigits _ _
  | byteBuffer content => exact foreign_wholeOfDigits _ _
  | _ => exact raise rfl

end Value

namespace Warehouse

/-- Not every value tells a state. -/
theorem foreign_status (value : Value) : Foreign (Status.ofValue value) := by
  unfold Status.ofValue
  split
  · exact ok _
  · split
    · exact ok _
    · exact (Value.foreign_asName _).map _
    · exact (Value.foreign_asName _).map _
    · exact raise rfl

/-- Not every answer describes a statement. -/
theorem foreign_description (answer : Value) : Foreign (Description.ofAnswer answer) := by
  apply bind (Value.foreign_entries answer)
  intro entries
  apply bind (foreign_status _)
  intro status
  dsimp only
  split
  · exact bind (Value.foreign_whole _) fun _ => ok _
  · exact bind (ok 0) fun _ => ok _

/-- Not every answer describes columns. -/
theorem foreign_readColumns (answer : Value.Entries) : Foreign (readColumns answer) := by
  apply bind (Value.foreign_listed _)
  intro parts
  apply bind (mapM Value.foreign_entries parts)
  intro described
  exact (mapM Value.foreign_asName _).map Column.distinct

/-- Not every value is a record. -/
theorem foreign_recordValues (record : Value) : Foreign (recordValues record) := by
  apply bind (Value.foreign_parts record)
  intro fields
  exact mapM (fun field => (Value.foreign_entries field).map fieldValue) fields

/-- Not every answer is a page. -/
theorem foreign_page (columns : List Value) (answer : Value) :
    Foreign (Page.ofAnswer columns answer) := by
  apply bind (Value.foreign_entries answer)
  intro entries
  have records : ∀ columns, Foreign (do
      let records ← (← (entries.get "Records").listed).mapM recordValues
      return ({ columns, rows := records.map (BackendRow.ofRecord columns)
                next := entries.get "NextToken" } : Page)) := by
    intro columns
    apply bind (Value.foreign_listed _)
    intro parts
    exact bind (mapM foreign_recordValues parts) fun _ => ok _
  dsimp only
  split
  · exact bind (foreign_readColumns entries) records
  · exact bind (ok columns) records

end Warehouse

end SqlGateway
