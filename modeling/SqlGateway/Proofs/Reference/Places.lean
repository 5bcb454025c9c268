import SqlGateway.Classification
import SqlGateway.Proofs.Reference.Blanks

/-!
# Where references are

A text holds a reference if one starts at some place of it. This is the view of the search
that a reader of tokens needs, who knows the places of the tokens.

What is read at a place is a prefix, a schema and the start of a table name, with points
between them. A blank next to a point ends a reference, and so does any character of a
schema that is not allowed there.
-/

namespace SqlGateway

open Text

namespace Reference

/-- A reference of the form starts behind so many characters of a text. -/
def Form.StartsAt (form : Form) (text : List Char) (place : Nat) : Prop :=
  ∃ before after, text = before ++ after ∧ before.length = place ∧
    before.getLast?.any isWord = false ∧ (form.read? after).isSome = true

/-- The last of some characters, or else the one before them. -/
theorem getLast?_cons_or (c : Char) (passed : List Char) (before : Option Char) :
    (c :: passed).getLast?.or before = passed.getLast?.or (some c) := by
  rw [List.getLast?_cons]
  cases passed.getLast? with
  | none => rfl
  | some last => rfl

/-- A search finds a reference if one starts behind some of the characters. -/
theorem Form.occursFrom_iff (form : Form) (before : Option Char) (text : List Char) :
    form.occursFrom before text = true ↔ ∃ passed rest, text = passed ++ rest ∧
      (passed.getLast?.or before).any isWord = false ∧ (form.read? rest).isSome = true := by
  induction text generalizing before with
  | nil =>
    have none : form.read? [] = none := form.read?_of_atBlank nofun
    simp [Form.occursFrom, none]
  | cons c rest inductionHypothesis =>
    rw [Form.occursFrom, Form.at?_isSome, Bool.or_eq_true, Bool.and_eq_true, Bool.not_eq_true',
      inductionHypothesis]
    constructor
    · rintro (⟨boundary, found⟩ | ⟨passed, behind, rfl, boundary, found⟩)
      · exact ⟨[], c :: rest, rfl, boundary, found⟩
      · rw [← getLast?_cons_or c passed before] at boundary
        exact ⟨c :: passed, behind, rfl, boundary, found⟩
    · rintro ⟨passed, behind, whole, boundary, found⟩
      cases passed with
      | nil =>
        cases whole
        exact Or.inl ⟨boundary, found⟩
      | cons d passed =>
        cases whole
        rw [getLast?_cons_or] at boundary
        exact Or.inr ⟨passed, behind, rfl, boundary, found⟩

/-- A text holds a reference if one starts at some place. -/
theorem Form.occurs_iff (form : Form) (text : List Char) :
    form.occurs text = true ↔ ∃ place, form.StartsAt text place := by
  rw [Form.occurs, Form.occursFrom_iff]
  constructor
  · rintro ⟨before, after, whole, boundary, found⟩
    exact ⟨_, before, after, whole, rfl, by simpa using boundary, found⟩
  · rintro ⟨_, before, after, whole, rfl, boundary, found⟩
    exact ⟨before, after, whole, by simpa using boundary, found⟩

end Reference

namespace Backend

/-- The forms of references to tables of a backend. -/
def forms : Backend → List Reference.Form
  | warehouse => [.warehouse]
  | transactional => [.bracketed, .plain]

/-- A reference to a table of the backend starts behind so many characters of a text. -/
def StartsAt (backend : Backend) (text : List Char) (place : Nat) : Prop :=
  ∃ form ∈ backend.forms, form.StartsAt text place

/-- Whether a text names a table of the backend. -/
def isNamedIn : Backend → List Char → Bool
  | warehouse => Reference.namesWarehouse
  | transactional => Reference.namesTransactional

/-- A text names a table of a backend if a reference to one starts at some place. Blanks
    may have been unified before. -/
theorem isNamedIn_iff (backend : Backend) (text : List Char) :
    backend.isNamedIn text = true ↔ ∃ place, backend.StartsAt (squeeze text) place := by
  have found : ∀ form : Reference.Form,
      form.occurs text = true ↔ ∃ place, form.StartsAt (squeeze text) place := by
    intro form
    rw [← form.occurs_squeeze, form.occurs_iff]
  cases backend with
  | warehouse => simp [isNamedIn, Reference.namesWarehouse, StartsAt, forms, found]
  | transactional =>
    simp [isNamedIn, Reference.namesTransactional, StartsAt, forms, found, exists_or]

end Backend

/-- A query is cross-source if it names tables of both backends. -/
theorem Classification.ofText_eq_cross (text : List Char) :
    Classification.ofText text = .cross ↔
      ∀ backend : Backend, backend.isNamedIn text = true := by
  unfold Classification.ofText
  constructor
  · intro cross backend
    split at cross <;> cases cross
    cases backend with
    | warehouse => assumption
    | transactional => assumption
  · intro named
    have warehouse : Reference.namesWarehouse text = true := named .warehouse
    have transactional : Reference.namesTransactional text = true := named .transactional
    rw [warehouse, transactional]

end SqlGateway
