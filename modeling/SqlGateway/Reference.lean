import SqlGateway.Text.CaseFold
import SqlGateway.Text.Word

/-!
# Prefixed table references

A query names the backend of a table by a prefix: `rs.schema.table` is a table of
the warehouse, `ss.schema.table` and `ss.[schema].table` are tables of the
transactional server. References are found in the raw text, so one inside a string
literal or a comment counts like any other.

Letters are compared by their folds. A reference starts at a word boundary: the
character before it is not part of a word.
-/

namespace SqlGateway.Reference

open Text

/-- The three spellings of a reference. -/
inductive Form where
  | warehouse
  | bracketed
  | plain
  deriving DecidableEq, Repr

/-- Letters, digits and underscores, up to case: the characters of plain names. -/
def isNameChar (c : Char) : Bool :=
  let folded := fold c
  ('a' ≤ folded && folded ≤ 'z') || ('0' ≤ folded && folded ≤ '9') || folded == '_'

/-- A reference read at the start of a text, with the text that follows it. -/
structure Found where
  /-- The schema, without the brackets of the bracketed form. -/
  schema : List Char
  /-- The table. -/
  table : List Char
  /-- The text after the reference. -/
  rest : List Char
  deriving DecidableEq, Repr

/-- A non-empty name at the start of a text, and what follows it. -/
def name? (text : List Char) : Option (List Char × List Char) :=
  match text.takeWhile isNameChar with
  | [] => none
  | name => some (name, text.dropWhile isNameChar)

/-- A point at the start of a text is passed over. -/
def point? : List Char → Option (List Char)
  | '.' :: rest => some rest
  | _ => none

/-- The two letters and the point of a prefix are passed over. -/
def marker? (first second : Char) : List Char → Option (List Char)
  | a :: b :: '.' :: rest => if fold a = first ∧ fold b = second then some rest else none
  | _ => none

/-- A non-empty schema in brackets, up to the first closing bracket. -/
def bracket? : List Char → Option (List Char × List Char)
  | '[' :: inside =>
      match inside.takeWhile (· != ']'), inside.dropWhile (· != ']') with
      | schema@(_ :: _), ']' :: rest => some (schema, rest)
      | _, _ => none
  | _ => none

/-- Schema, point and table, where `schema?` reads the schema. -/
def path? (schema? : List Char → Option (List Char × List Char)) (text : List Char) :
    Option Found := do
  let (schema, text) ← schema? text
  let text ← point? text
  let (table, rest) ← name? text
  pure { schema, table, rest }

/-- The reference of a form at the start of a text. -/
def Form.read? : Form → List Char → Option Found
  | warehouse, text => marker? 'r' 's' text >>= path? name?
  | bracketed, text => marker? 's' 's' text >>= path? bracket?
  | plain, text => marker? 's' 's' text >>= path? name?

/-- What a backend understands in place of a reference: the warehouse takes the bare
    path, the transactional server both names in brackets. -/
def Form.render (form : Form) (schema table : List Char) : List Char :=
  match form with
  | warehouse => schema ++ '.' :: table
  | bracketed | plain => '[' :: schema ++ ']' :: '.' :: '[' :: table ++ [']']

/-- The reference of a form at a place of a text, given the character before. -/
def Form.at? (form : Form) (before : Option Char) (text : List Char) : Option Found :=
  if before.any isWord then none else form.read? text

/-- Whether a text holds a reference of the form. -/
def Form.occursFrom (form : Form) (before : Option Char) : List Char → Bool
  | [] => false
  | c :: rest => (form.at? before (c :: rest)).isSome || form.occursFrom (some c) rest

/-- Whether a text holds a reference of the form. -/
def Form.occurs (form : Form) (text : List Char) : Bool :=
  form.occursFrom none text

/-- A name leaves a shorter text. -/
theorem name?_length {text name rest : List Char} (read : name? text = some (name, rest)) :
    rest.length < text.length := by
  have whole := congrArg List.length (List.takeWhile_append_dropWhile (p := isNameChar) (l := text))
  rw [List.length_append] at whole
  simp only [name?] at read
  split at read
  · cases read
  · next nonempty =>
    cases read
    have : 0 < (text.takeWhile isNameChar).length := List.length_pos_iff.mpr nonempty
    omega

/-- A point leaves a shorter text. -/
theorem point?_length {text rest : List Char} (read : point? text = some rest) :
    rest.length < text.length := by
  unfold point? at read
  split at read <;> cases read
  simp

/-- A prefix leaves a shorter text. -/
theorem marker?_length {first second : Char} {text rest : List Char}
    (read : marker? first second text = some rest) : rest.length < text.length := by
  unfold marker? at read
  split at read
  · split at read <;> cases read
    simp; omega
  · cases read

/-- A bracketed schema leaves a shorter text. -/
theorem bracket?_length {text schema rest : List Char}
    (read : bracket? text = some (schema, rest)) : rest.length < text.length := by
  unfold bracket? at read
  split at read
  · next inside =>
    have whole := congrArg List.length
      (List.takeWhile_append_dropWhile (p := (· != ']')) (l := inside))
    rw [List.length_append] at whole
    split at read
    · next closed =>
      cases read
      rw [closed] at whole
      simp only [List.length_cons] at whole ⊢
      omega
    · cases read
  · cases read

/-- A path leaves a shorter text whenever its schema does. -/
theorem path?_length {schema? : List Char → Option (List Char × List Char)} {text : List Char}
    {found : Found} (shorter : ∀ {schema rest}, schema? text = some (schema, rest) →
      rest.length < text.length) (read : path? schema? text = some found) :
    found.rest.length < text.length := by
  simp only [path?, Option.bind_eq_bind, Option.bind_eq_some_iff, Option.pure_def,
    Option.some.injEq] at read
  obtain ⟨⟨schema, afterSchema⟩, schemaRead, afterPoint, pointRead, ⟨table, rest⟩, tableRead,
    rfl⟩ := read
  have := shorter schemaRead
  have := point?_length pointRead
  have := name?_length tableRead
  dsimp only at *
  omega

/-- A reference leaves a shorter text, so a search that goes on behind it ends. -/
theorem Form.read?_length {form : Form} {text : List Char} {found : Found}
    (read : form.read? text = some found) : found.rest.length < text.length := by
  cases form <;> simp only [Form.read?, Option.bind_eq_bind, Option.bind_eq_some_iff] at read <;>
    obtain ⟨afterMarker, marked, pathRead⟩ := read <;>
    have := marker?_length marked
  · have := path?_length name?_length pathRead
    omega
  · have := path?_length bracket?_length pathRead
    omega
  · have := path?_length name?_length pathRead
    omega

/-- A reference found at a place leaves a shorter text. -/
theorem Form.at?_length {form : Form} {before : Option Char} {text : List Char} {found : Found}
    (read : form.at? before text = some found) : found.rest.length < text.length := by
  unfold Form.at? at read
  split at read
  · cases read
  · exact Form.read?_length read

/-- Every reference of the form, from left to right and without overlap, gives way to
    what its backend understands; all other characters are copied. -/
def Form.replaceFrom (form : Form) (before : Option Char) (text : List Char) : List Char :=
  match text with
  | [] => []
  | c :: rest =>
      match _found : form.at? before (c :: rest) with
      | some found =>
          form.render found.schema found.table ++ form.replaceFrom found.table.getLast? found.rest
      | none => c :: form.replaceFrom (some c) rest
termination_by text.length
decreasing_by
  · exact Form.at?_length (by assumption)
  · simp

/-- The text with every reference of the form replaced. -/
def Form.replace (form : Form) (text : List Char) : List Char :=
  form.replaceFrom none text

/-- Whether a text names a table of the warehouse. -/
def namesWarehouse (text : List Char) : Bool :=
  Form.warehouse.occurs text

/-- Whether a text names a table of the transactional server. -/
def namesTransactional (text : List Char) : Bool :=
  Form.bracketed.occurs text || Form.plain.occurs text

end SqlGateway.Reference
