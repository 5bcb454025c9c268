import SqlGateway.Json.Basic
import SqlGateway.Value.Basic

/-!
# What checks see

Documents and the values of backends pass the same checks. A check does not ask which of
the two it is given; it asks what is to be seen of it. Bytes are seen as the text that
they spell, and a value that no check takes is seen as nothing at all.
-/

namespace SqlGateway.Validation

/-- What a check sees of a value whose parts are of some type. -/
inductive Seen (α : Type) where
  | null
  | bool (value : Bool)
  | int (value : Int)
  | float (value : Binary64)
  | text (text : String)
  /-- A text in which halves of surrogate pairs stand alone. -/
  | brokenText (text : String)
  /-- Bytes, with the text that they spell if they spell one, and whether their owner may
      change them. -/
  | bytes (spelled : Option String) (changeable : Bool)
  /-- A decimal number, given by its canonical text. -/
  | decimal (text : String)
  | list (elements : List α)
  | object (members : List (Json.Name × α))
  /-- Anything that no check takes. -/
  | other
  deriving Repr

/-- What can be checked. -/
class Input (α : Type) where
  /-- What a check sees. -/
  see : α → Seen α

/-- What a check sees of a document. -/
def seenDocument : Json → Seen Json
  | .null => .null
  | .bool value => .bool value
  | .int value => .int value
  | .float value => .float value
  | .string text => .text text
  | .brokenString text => .brokenText text
  | .array elements => .list elements
  | .object members => .object members

instance : Input Json := ⟨seenDocument⟩

/-- The text that bytes spell. -/
def spelledText? (content : List UInt8) : Option String :=
  String.fromUTF8? ⟨content.toArray⟩

/-- What a check sees of a value of a backend. -/
def seenValue : Value → Seen Value
  | .null => .null
  | .bool value => .bool value
  | .int value => .int value
  | .float value => .float value
  | .string text => .text text
  | .bytes content => .bytes (spelledText? content) false
  | .byteBuffer content => .bytes (spelledText? content) true
  | .decimal text => .decimal text
  | .list elements => .list elements
  | .map entries => .object (entries.map fun entry => ({ text := entry.1 }, entry.2))
  | .uuid _ | .date _ | .dateTime _ | .time _ | .foreign _ => .other

instance : Input Value := ⟨seenValue⟩

variable {α : Type} [Input α]

/-- The member of an object under a name. -/
def member? (name : String) (input : α) : Option α :=
  match Input.see input with
  | .object members => members.lookup { text := name }
  | _ => none

/-- The members of a document are seen as they are. -/
theorem member?_document (name : String) (document : Json) :
    Validation.member? name document = document.member? name := by
  cases document <;> rfl

end SqlGateway.Validation
