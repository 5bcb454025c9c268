import SqlGateway.Binary64.Basic
import SqlGateway.OrderedMap

/-!
# Documents

The values that a JSON text stands for. Whole numbers are exact, all other numbers are
binary floating-point numbers, and the members of an object keep their order.
-/

namespace SqlGateway

/-- The name of a member of an object. Halves of surrogate pairs that stand alone are no
    characters; a name with such halves is broken, and shows each of them by its escape. -/
structure Json.Name where
  /-- The characters. -/
  text : String
  /-- Whether halves of surrogate pairs stand alone in the name. -/
  broken : Bool := false
  deriving DecidableEq, Repr, Inhabited

/-- A JSON value. A string in which halves of surrogate pairs stand alone is broken, and
    shows each of them by its escape. -/
inductive Json where
  | null
  | bool (value : Bool)
  | int (value : Int)
  | float (value : Binary64)
  | string (text : String)
  | brokenString (text : String)
  | array (elements : List Json)
  | object (members : List (Json.Name × Json))
  deriving Repr, Inhabited

namespace Json

/-- The object with these members. -/
def ofMembers (members : List (String × Json)) : Json :=
  .object (members.map fun member => ({ text := member.1 }, member.2))

/-- The value of a member of an object. -/
def member? (name : String) : Json → Option Json
  | object members => members.lookup { text := name }
  | _ => none

/-- A text, or null if there is none. -/
def ofText? : Option String → Json
  | some text => .string text
  | none => .null

end Json

end SqlGateway
