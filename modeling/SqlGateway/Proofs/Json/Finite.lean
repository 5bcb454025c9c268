import SqlGateway.Http.Document

/-!
# Documents without infinite numbers

A document is written only if every number in it is finite. The documents of values are,
whatever numbers the values hold: what is not finite has given way to null. So are the documents
of rows, and with them those of answers and of failures.
-/

namespace SqlGateway

/-- A document in which every number is finite. -/
inductive Json.IsFinite : Json → Prop
  | null : IsFinite .null
  | bool (value : Bool) : IsFinite (.bool value)
  | int (value : Int) : IsFinite (.int value)
  | float {value : Binary64} (finite : value.isFinite = true) : IsFinite (.float value)
  | string (text : String) : IsFinite (.string text)
  | brokenString (text : String) : IsFinite (.brokenString text)
  | array {elements : List Json} (each : ∀ element ∈ elements, IsFinite element) :
      IsFinite (.array elements)
  | object {members : List (Json.Name × Json)} (each : ∀ member ∈ members, IsFinite member.2) :
      IsFinite (.object members)

/-- The document with finite members is finite. -/
theorem Json.isFinite_ofMembers {members : List (String × Json)}
    (each : ∀ member ∈ members, member.2.IsFinite) : (ofMembers members).IsFinite := by
  refine .object fun member listed => ?_
  obtain ⟨source, here, rfl⟩ := List.mem_map.mp listed
  exact each source here

namespace Value

mutual

/-- The document of a value is finite. -/
theorem isFinite_document (value : Value) : value.document.IsFinite := by
  cases value with
  | null => exact .null
  | bool value => exact .bool value
  | int value => exact .int value
  | float value =>
    rw [document]
    split
    · next finite => exact .float finite
    · exact .null
  | list elements => exact .array (isFinite_documents elements)
  | map entries => exact Json.isFinite_ofMembers (isFinite_entryDocuments entries)
  | string text => exact .string text
  | bytes content => exact .string _
  | byteBuffer content => exact .string _
  | decimal text => exact .string text
  | uuid text => exact .string text
  | date day => exact .string _
  | dateTime moment => exact .string _
  | time clock => exact .string _
  | foreign text => exact .string text

/-- So are those of its elements. -/
theorem isFinite_documents (elements : List Value) :
    ∀ element ∈ document.documents elements, element.IsFinite := by
  cases elements with
  | nil => exact fun _ listed => absurd listed List.not_mem_nil
  | cons element rest =>
    rw [document.documents, List.forall_mem_cons]
    exact ⟨isFinite_document element, isFinite_documents rest⟩

/-- So are those of its entries. -/
theorem isFinite_entryDocuments (entries : List (String × Value)) :
    ∀ entry ∈ document.entryDocuments entries, entry.2.IsFinite := by
  cases entries with
  | nil => exact fun _ listed => absurd listed List.not_mem_nil
  | cons entry rest =>
    obtain ⟨key, value⟩ := entry
    rw [document.entryDocuments, List.forall_mem_cons]
    exact ⟨isFinite_document value, isFinite_entryDocuments rest⟩

end

/-- Wherever it is, a number that is not finite is null in the document. -/
example :
    (list [.float .nan, .map [("low", .float (.infinite true))]]).document =
      .array [.null, .ofMembers [("low", .null)]] :=
  rfl

end Value

/-- The document of a row is finite. -/
theorem Row.isFinite_document (row : Row) : row.document.IsFinite := by
  refine Json.isFinite_ofMembers fun member listed => ?_
  obtain ⟨entry, _, rfl⟩ := List.mem_map.mp listed
  exact entry.2.isFinite_document

namespace Http

end Http

end SqlGateway
