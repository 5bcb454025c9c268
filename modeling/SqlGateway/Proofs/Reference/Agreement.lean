import SqlGateway.Dialect
import SqlGateway.Proofs.Reference.Replacement

/-!
# Routing and adapting agree

A query is routed by the references in its text, and the references in its text are replaced
before it is sent. Both look for the same ones: a text is changed for a backend exactly if it
names one of its tables. Points are the measure of this. Every reference that is replaced leaves
one point less, whatever else becomes longer, so nothing that a later pass does can bring the
first text back.

A query for both backends is parsed with its blanks unified. This neither makes a reference nor
breaks one, so the parser works on a text that is routed in the same way.
-/

namespace SqlGateway

namespace Reference.Form

open Text

variable (form : Form)

/-- A schema is written with the points that it has. -/
theorem WritesSchema.count_point {form : Form} {schema written : List Char}
    (writes : form.WritesSchema schema written) : written.count '.' = schema.count '.' := by
  cases form with
  | warehouse => rw [writes.2]
  | plain => rw [writes.2]
  | bracketed => simp [writes.2.2]

/-- A reference has one point more than what its backend understands. -/
theorem Writes.count_point {form : Form} {found : Found} {text : List Char}
    (writes : form.Writes found text) :
    text.count '.' =
      (form.render found.schema found.table).count '.' + found.rest.count '.' + 1 := by
  cases writes with
  | @intro a b written first second schema table ends =>
    have letter {c : Char} (named : isNameChar c = true) : c ≠ '.' := by
      rintro rfl
      have refused : isNameChar '.' = false := by decide
      cases refused.symm.trans named
    have put : (form.render found.schema found.table).count '.' =
        found.schema.count '.' + found.table.count '.' + 1 := by
      cases form <;> simp [render] <;> omega
    rw [List.count_cons_of_ne (letter (form.isNameChar_of_letter first)),
      List.count_cons_of_ne (letter (isNameChar_of_fold (Or.inr second))), List.count_cons_self,
      List.count_append, List.count_cons_self, List.count_append, schema.count_point, put]
    omega

/-- A text has not more points when its references are replaced, and less if there are any. The
    induction follows the pass through the text. -/
theorem count_point_replaceFrom (before : Option Char) (text : List Char) :
    (form.replaceFrom before text).count '.' ≤ text.count '.' ∧
      (form.occursFrom before text = true →
        (form.replaceFrom before text).count '.' < text.count '.') := by
  induction before, text using Form.replaceFrom.induct form with
  | case1 before => simp [replaceFrom, occursFrom]
  | case2 before c rest found read inductionHypothesis =>
    have writes := form.read?_eq_some_iff.mp (form.at?_eq_some_iff.mp read).2
    have points := writes.count_point
    have fewer : (form.replaceFrom before (c :: rest)).count '.' < (c :: rest).count '.' := by
      rw [form.replaceFrom_of_some read, List.count_append]
      have behind := inductionHypothesis.1
      omega
    exact ⟨Nat.le_of_lt fewer, fun _ => fewer⟩
  | case3 before c rest unread inductionHypothesis =>
    obtain ⟨atMost, fewer⟩ := inductionHypothesis
    rw [form.replaceFrom_of_none unread, occursFrom, unread, List.count_cons, List.count_cons]
    refine ⟨by omega, fun occurs => ?_⟩
    have := fewer occurs
    omega

/-- Replacing references adds no point. -/
theorem count_point_replace_le (text : List Char) :
    (form.replace text).count '.' ≤ text.count '.' :=
  (form.count_point_replaceFrom none text).1

/-- Replacing a reference takes a point away. -/
theorem count_point_replace_lt {text : List Char} (occurs : form.occurs text = true) :
    (form.replace text).count '.' < text.count '.' :=
  (form.count_point_replaceFrom none text).2 occurs

end Reference.Form

namespace Backend

open Reference

/-- Adapting a query that names a table of the backend takes a point away. -/
theorem count_point_adapt {backend : Backend} {text : List Char}
    (named : backend.isNamedIn text = true) :
    (backend.adapt text).count '.' < text.count '.' := by
  cases backend with
  | warehouse => exact Form.warehouse.count_point_replace_lt named
  | transactional =>
    have second := Form.plain.count_point_replace_le (Form.bracketed.replace text)
    cases occurs : Form.bracketed.occurs text with
    | true => exact Nat.lt_of_le_of_lt second (Form.bracketed.count_point_replace_lt occurs)
    | false =>
      -- The first pass changes nothing, and the second one finds the plain reference.
      have copied := Form.bracketed.replace_of_not_occurs occurs
      have plain : Form.plain.occurs text = true := by
        simpa [isNamedIn, namesTransactional, occurs] using named
      show (Form.plain.replace (Form.bracketed.replace text)).count '.' < text.count '.'
      rw [copied]
      exact Form.plain.count_point_replace_lt plain

/-- A query that names no table of a backend is left as it is. -/
theorem adapt_of_not_isNamedIn {backend : Backend} {text : List Char}
    (unnamed : backend.isNamedIn text = false) : backend.adapt text = text := by
  cases backend with
  | warehouse => exact Form.warehouse.replace_of_not_occurs unnamed
  | transactional =>
    obtain ⟨bracketed, plain⟩ := Bool.or_eq_false_iff.mp unnamed
    rw [adapt, Form.bracketed.replace_of_not_occurs bracketed,
      Form.plain.replace_of_not_occurs plain]

/-- A query is changed for a backend exactly if it names one of its tables. -/
theorem adapt_ne_iff_isNamedIn (backend : Backend) (text : List Char) :
    backend.adapt text ≠ text ↔ backend.isNamedIn text = true := by
  constructor
  · intro changed
    rw [← Bool.not_eq_false]
    exact fun unnamed => changed (adapt_of_not_isNamedIn unnamed)
  · intro named same
    have fewer := count_point_adapt named
    rw [same] at fewer
    exact Nat.lt_irrefl _ fewer

/-- Unifying blanks leaves the backends that a query names. -/
theorem isNamedIn_squeeze (backend : Backend) (text : List Char) :
    backend.isNamedIn (Text.squeeze text) = backend.isNamedIn text := by
  cases backend with
  | warehouse => exact Form.warehouse.occurs_squeeze text
  | transactional =>
    rw [isNamedIn, namesTransactional, namesTransactional, Form.bracketed.occurs_squeeze,
      Form.plain.occurs_squeeze]

end Backend

/-- A query is routed in the same way when its blanks are unified, also between the brackets of a
    schema, and names the same backends. -/
theorem Classification.ofText_squeeze (text : List Char) :
    Classification.ofText (Text.squeeze text) = Classification.ofText text ∧
      ∀ backend : Backend, backend.isNamedIn (Text.squeeze text) = backend.isNamedIn text := by
  refine ⟨?_, fun backend => backend.isNamedIn_squeeze text⟩
  have warehouse :
      Reference.namesWarehouse (Text.squeeze text) = Reference.namesWarehouse text :=
    Backend.warehouse.isNamedIn_squeeze text
  have transactional :
      Reference.namesTransactional (Text.squeeze text) = Reference.namesTransactional text :=
    Backend.transactional.isNamedIn_squeeze text
  rw [ofText, ofText, warehouse, transactional]

end SqlGateway
