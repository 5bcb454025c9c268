import SqlGateway.Dialect
import SqlGateway.Proofs.Reference.Replacement

/-!
# Nothing is left for the transactional server

A query for the transactional server is adapted in two passes: references with brackets are
replaced first, plain ones in the result. Both passes put names in brackets where references
were. What comes out names no table of the transactional server any more, so adapting it again
changes nothing.

The first closing bracket behind an opening one settles the matter. Within what a pass puts in,
it is followed by a point and another opening bracket, so no schema in brackets with a table
name behind it starts there; and a pass that does not start at a bracket copies all up to it.
A schema in brackets may hold plain references, which is why the plain pass comes second.
-/

namespace SqlGateway

namespace Reference

open Text

/-- A text has one first closing bracket. -/
theorem closing_unique {name other rest behind : List Char} (absent : ']' ∉ name)
    (otherAbsent : ']' ∉ other) (same : name ++ ']' :: rest = other ++ ']' :: behind) :
    name = other ∧ rest = behind := by
  induction name generalizing other with
  | nil =>
    cases other with
    | nil => exact ⟨rfl, (List.cons.inj same).2⟩
    | cons d other =>
      cases same
      exact absurd List.mem_cons_self otherAbsent
  | cons c name inductionHypothesis =>
    cases other with
    | nil =>
      cases same
      exact absurd List.mem_cons_self absent
    | cons d other =>
      obtain ⟨rfl, tails⟩ := List.cons.inj same
      obtain ⟨rfl, rfl⟩ := inductionHypothesis (fun member => absent (List.mem_cons_of_mem _ member))
        (fun member => otherAbsent (List.mem_cons_of_mem _ member)) tails
      exact ⟨rfl, rfl⟩

/-- An end of two texts is an end of the second one, or it begins within the first one. -/
theorem suffix_append_cases {first second rest : List Char} (ends : rest <:+ first ++ second) :
    (∃ part, part <:+ first ∧ rest = part ++ second) ∨ rest <:+ second := by
  obtain ⟨passed, whole⟩ := ends
  rcases List.append_eq_append_iff.mp whole with ⟨part, rfl, rfl⟩ | ⟨gone, rfl, rfl⟩
  · exact Or.inl ⟨part, List.suffix_append _ _, rfl⟩
  · exact Or.inr (List.suffix_append _ _)

namespace Form

variable {form : Form}

/-- What the transactional server understands has both names in brackets. -/
theorem render_of_ne_warehouse (brackets : form ≠ .warehouse) (schema table : List Char) :
    form.render schema table = '[' :: (schema ++ ']' :: '.' :: '[' :: (table ++ [']'])) := by
  cases form with
  | warehouse => exact absurd rfl brackets
  | bracketed => simp [render]
  | plain => simp [render]

/-- A reference at the start gives way to an opening bracket, a schema that holds no closing one,
    and a table in brackets. -/
theorem replaceFrom_brackets (brackets : form ≠ .warehouse) {before : Option Char}
    {text : List Char} {found : Found} (read : form.at? before text = some found) :
    ']' ∉ '[' :: found.schema ∧ ∃ behind, form.replaceFrom before text =
      ('[' :: found.schema) ++ ']' :: '.' :: '[' :: behind := by
  obtain ⟨_, schema⟩ := (form.read?_eq_some_iff.mp (form.at?_eq_some_iff.mp read).2).schema
  refine ⟨by simpa using schema.absent,
    found.table ++ ']' :: form.replaceFrom found.table.getLast? found.rest, ?_⟩
  rw [form.replaceFrom_of_some read, render_of_ne_warehouse brackets]
  simp

/-- What a pass for the transactional server gives has its first closing bracket, and a point
    and a name behind it, only where the text had them: no reference is replaced up to there,
    since two names in brackets have a point and a bracket between them. -/
theorem closing_of_replaceFrom (brackets : form ≠ .warehouse) {before : Option Char}
    {text name out : List Char} (absent : ']' ∉ name) (goes : out.head?.any isNameChar = true)
    (given : form.replaceFrom before text = name ++ ']' :: '.' :: out) :
    ∃ rest, text = name ++ ']' :: '.' :: rest ∧ rest.head?.any isNameChar = true := by
  -- A reference at the start would put a point and a bracket behind the first closing one.
  have unread {before : Option Char} {text name : List Char} (absent : ']' ∉ name)
      (given : form.replaceFrom before text = name ++ ']' :: '.' :: out) :
      form.at? before text = none := by
    rw [Option.eq_none_iff_forall_not_mem]
    intro found read
    obtain ⟨absentThere, behind, put⟩ := replaceFrom_brackets brackets read
    obtain ⟨_, same⟩ := closing_unique absent absentThere (given.symm.trans put)
    cases same
    cases goes
  induction name generalizing before text with
  | nil =>
    obtain ⟨tail, rfl, copied⟩ := form.cons_of_replaceFrom (unread absent given) given
    have unread : form.at? (some ']') tail = none := by
      rw [Option.eq_none_iff_forall_not_mem]
      intro found read
      obtain ⟨_, behind, put⟩ := replaceFrom_brackets brackets read
      cases put.symm.trans copied
    obtain ⟨rest, rfl, rfl⟩ := form.cons_of_replaceFrom unread copied
    exact ⟨rest, rfl, form.head?_of_replaceFrom goes⟩
  | cons c name inductionHypothesis =>
    obtain ⟨tail, rfl, copied⟩ := form.cons_of_replaceFrom (unread absent given) given
    obtain ⟨rest, rfl, named⟩ := inductionHypothesis
      (fun member => absent (List.mem_cons_of_mem c member)) copied
    exact ⟨rest, rfl, named⟩

/-- A pass for the transactional server makes no path with brackets. -/
theorem makesNoPath_bracketed (brackets : form ≠ .warehouse) : form.MakesNoPath .bracketed := by
  intro before text given
  obtain ⟨schema, out, nonempty, absent, whole, goes⟩ := (path?_bracket?_isSome_iff _).mp given
  have absentThere : ']' ∉ '[' :: schema := by simpa using absent
  obtain ⟨rest, rfl, named⟩ := closing_of_replaceFrom brackets absentThere goes whole
  exact (path?_bracket?_isSome_iff _).mpr ⟨schema, rest, nonempty, absent, rfl, named⟩

/-- Characters of a name start no reference if a closing bracket comes next. -/
theorem read?_of_closed (other : Form) {part : List Char}
    (named : ∀ c ∈ part, isNameChar c = true) (behind : List Char) :
    ¬ (other.read? (part ++ ']' :: behind)).isSome = true := by
  intro read
  obtain ⟨a, b, path, first, second, whole, _⟩ := (other.read?_isSome_iff _).mp read
  have letterA := other.isNameChar_of_letter first
  have letterB := isNameChar_of_fold (Or.inr second)
  match part with
  | [] =>
    cases whole
    cases letterA
  | [_] =>
    cases whole
    cases letterB
  | [_, _] => cases whole
  | _ :: _ :: c :: _ =>
    cases whole
    cases named '.' (by simp)

/-- A name that begins within two names in brackets begins within one of them. -/
theorem suffix_of_brackets {schema table rest : List Char}
    (ends : rest <:+ '[' :: (schema ++ ']' :: '.' :: '[' :: (table ++ [']'])))
    (named : rest.head?.any isNameChar = true) :
    (∃ part, part <:+ schema ∧ rest = part ++ ']' :: '.' :: '[' :: (table ++ [']'])) ∨
      ∃ part, part <:+ table ∧ rest = part ++ [']'] := by
  -- None of the marks is a character of a name.
  have inside {c : Char} {text : List Char} (mark : isNameChar c = false)
      (ends : rest <:+ c :: text) : rest <:+ text := by
    rcases List.suffix_cons_iff.mp ends with rfl | within
    · cases mark.symm.trans named
    · exact within
  have opening : isNameChar '[' = false := by decide
  have closing : isNameChar ']' = false := by decide
  have point : isNameChar '.' = false := by decide
  rcases suffix_append_cases (inside opening ends) with within | behind
  · exact Or.inl within
  · rcases suffix_append_cases (inside opening (inside point (inside closing behind))) with
      within | behind
    · exact Or.inr within
    · cases List.suffix_nil.mp (inside closing behind)
      cases named

/-- What a pass for the transactional server puts in uncovers no reference with brackets, and no
    reference at all where the schemas are plain. -/
theorem not_uncovers (brackets : form ≠ .warehouse) {other : Form}
    (settles : other = .bracketed ∨ form = .plain) (before : Option Char) (text : List Char) :
    ¬ form.Uncovers other before text := by
  rintro ⟨found, passed, rest, replaced, rendered, nonempty, _, starts⟩
  obtain ⟨_, writes⟩ := replaced.writes
  obtain ⟨written, schema⟩ := writes.schema
  have named : rest.head?.any isNameChar = true := by
    obtain ⟨c, tail, rfl⟩ := List.exists_cons_of_ne_nil nonempty
    have letter := other.head?_of_read? starts
    exact letter
  have ends : rest <:+ form.render found.schema found.table := ⟨passed, rendered.symm⟩
  rw [render_of_ne_warehouse brackets] at ends
  rcases suffix_of_brackets ends named with ⟨part, within, rfl⟩ | ⟨part, within, rfl⟩
  · simp only [List.append_assoc, List.cons_append] at starts
    rcases settles with rfl | rfl
    · obtain ⟨a, b, path, first, second, whole, found⟩ := (Form.read?_isSome_iff _ _).mp starts
      obtain ⟨name, behind, _, absent, rfl, goes⟩ := (path?_bracket?_isSome_iff _).mp found
      have absentThere : ']' ∉ a :: b :: '.' :: '[' :: name := by
        have plain {c : Char} (letter : isNameChar c = true) : ']' ≠ c := by
          rintro rfl
          cases letter
        have letterA := plain (isNameChar_of_fold (Or.inr first))
        have letterB := plain (isNameChar_of_fold (Or.inr second))
        simpa using ⟨letterA, letterB, absent⟩
      obtain ⟨_, same⟩ := closing_unique (fun member => schema.absent (within.mem member))
        absentThere whole
      cases same
      cases goes
    · exact other.read?_of_closed (fun c member => schema.1.allowed c (within.mem member)) _ starts
  · simp only [List.append_assoc, List.cons_append] at starts
    exact other.read?_of_closed (fun c member => writes.table.allowed c (within.mem member)) _ starts

/-- A reference that a pass for the transactional server leaves was there before, and it is of
    another form. -/
theorem occurs_of_replace (form other : Form) (brackets : form ≠ .warehouse)
    (settles : other = .bracketed ∨ form = .plain) (noPath : form.MakesNoPath other)
    {text : List Char} (occurs : other.occurs (form.replace text) = true) :
    other ≠ form ∧ other.occurs text = true := by
  rcases noPath.occursFrom_replaceFrom (Or.inl rfl) occurs with uncovers | left
  · exact absurd uncovers (not_uncovers brackets settles _ _)
  · exact left

end Form

/-- Adapting a query for the transactional server leaves none of its references, whatever the
    schemas in brackets hold, so adapting it again changes nothing. -/
theorem adapted_transactional_settled (text : List Char) :
    namesTransactional (Backend.transactional.adapt text) = false ∧
      Backend.transactional.adapt (Backend.transactional.adapt text) =
        Backend.transactional.adapt text := by
  have bracketed : Form.bracketed.occurs (Backend.transactional.adapt text) = false := by
    rw [Bool.eq_false_iff]
    intro occurs
    obtain ⟨_, before⟩ := Form.occurs_of_replace .plain .bracketed (by decide) (Or.inl rfl)
      (Form.makesNoPath_bracketed (by decide)) occurs
    obtain ⟨differ, _⟩ := Form.occurs_of_replace .bracketed .bracketed (by decide) (Or.inl rfl)
      (Form.makesNoPath_bracketed (by decide)) before
    exact differ rfl
  have plain : Form.plain.occurs (Backend.transactional.adapt text) = false := by
    rw [Bool.eq_false_iff]
    intro occurs
    obtain ⟨differ, _⟩ := Form.occurs_of_replace .plain .plain (by decide) (Or.inr rfl)
      (Form.plain.makesNoPath_of_plain rfl) occurs
    exact differ rfl
  refine ⟨by rw [namesTransactional, bracketed, plain]; rfl, ?_⟩
  calc Backend.transactional.adapt (Backend.transactional.adapt text)
      = Form.plain.replace (Form.bracketed.replace (Backend.transactional.adapt text)) := rfl
    _ = Form.plain.replace (Backend.transactional.adapt text) := by
      rw [Form.bracketed.replace_of_not_occurs bracketed]
    _ = Backend.transactional.adapt text := Form.plain.replace_of_not_occurs plain

end Reference

end SqlGateway
