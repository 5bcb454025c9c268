import SqlGateway.Proofs.Reference.Blanks
import SqlGateway.Proofs.Token.Layout

/-!
# How references are written

A reference is two letters and a point, a schema as its form writes it, a point, and a table
name that goes on as far as it can. What is read at the start of a text is exactly what is
written there in this way, so other proofs take a reference apart without looking into the
readers of its pieces.
-/

namespace SqlGateway.Reference

open Text

/-- A letter outside ASCII that folds to a letter of ASCII is part of a word. The table of folds
    is checked run by run: a run that leads into ASCII has a single letter. -/
theorem isWord_of_fold {c : Char} (outside : ¬ c.toNat < 128) (positive : 0 < (fold c).toNat)
    (ascii : (fold c).toNat < 128) : isWord c = true := by
  have listed : foldRuns.all (fun run => decide (128 ≤ run.image) ||
      (run.first == run.last && isWord (Char.ofNat run.first))) = true := by decide +kernel
  rw [fold, if_neg outside, mapRuns] at positive ascii
  split at positive
  · next run found =>
    rw [found] at ascii
    have covers := List.find?_some found
    have known := List.all_eq_true.mp listed run (List.mem_of_find?_eq_some found)
    simp only [CaseRun.covers, Bool.and_eq_true, decide_eq_true_eq] at covers
    simp only [Bool.or_eq_true, Bool.and_eq_true, decide_eq_true_eq, beq_iff_eq] at known
    rcases known with large | ⟨single, word⟩
    · dsimp only at positive ascii
      by_cases valid : (c.toNat - run.first + run.image).isValidChar
      · have there : Char.ofNat (c.toNat - run.first + run.image) = Char.ofNatAux _ valid :=
          dif_pos valid
        rw [there] at ascii
        have small : c.toNat - run.first + run.image < 128 := ascii
        omega
      · have absent : Char.ofNat (c.toNat - run.first + run.image) = '\x00' := dif_neg valid
        rw [absent] at positive
        cases positive
    · have only : c.toNat = run.first := by omega
      rw [← only, Char.ofNat_toNat] at word
      exact word
  · next missing =>
    rw [missing] at ascii
    exact absurd ascii outside

/-- The characters of plain names are parts of words. -/
theorem isWord_of_isNameChar {c : Char} (named : isNameChar c = true) : isWord c = true := by
  by_cases ascii : c.toNat < 128
  · have listed : ∀ code < 128, isNameChar (Char.ofNat code) = true →
        isWord (Char.ofNat code) = true := by decide +kernel
    have known := listed c.toNat ascii
    rw [Char.ofNat_toNat] at known
    exact known named
  · simp only [isNameChar, Bool.or_eq_true, Bool.and_eq_true, decide_eq_true_eq, beq_iff_eq,
      Char.le_def] at named
    have bounds : 0 < (fold c).toNat ∧ (fold c).toNat < 128 := by
      rcases named with (⟨first, last⟩ | ⟨first, last⟩) | underscore
      · have first : 97 ≤ (fold c).toNat := first
        have last : (fold c).toNat ≤ 122 := last
        omega
      · have first : 48 ≤ (fold c).toNat := first
        have last : (fold c).toNat ≤ 57 := last
        omega
      · rw [underscore]
        decide
    exact isWord_of_fold ascii bounds.1 bounds.2

/-- The letters of prefixes are characters of plain names. -/
theorem isNameChar_of_fold {c : Char} (letter : fold c = 'r' ∨ fold c = 's') :
    isNameChar c = true := by
  rcases letter with same | same
  · simp [isNameChar, same]
  · simp [isNameChar, same]

/-- Some characters are a plain name. -/
structure IsName (name : List Char) : Prop where
  /-- There is at least one character. -/
  nonempty : name ≠ []
  /-- All of them may stand in a name. -/
  allowed : ∀ c ∈ name, isNameChar c = true

/-- A name ends with a part of a word. -/
theorem IsName.isWord_getLast? {name : List Char} (named : IsName name) :
    name.getLast?.any isWord = true := by
  rw [List.getLast?_eq_some_getLast named.nonempty]
  exact isWord_of_isNameChar (named.allowed _ (List.getLast_mem named.nonempty))

/-- A name is read as far as it goes. -/
theorem name?_eq_some_iff {text name rest : List Char} :
    name? text = some (name, rest) ↔
      IsName name ∧ text = name ++ rest ∧ rest.head?.any isNameChar = false := by
  constructor
  · intro read
    obtain ⟨run, after, rfl, taken, dropped, allowed, stops⟩ := Token.span_eq isNameChar text
    simp only [name?, taken, dropped] at read
    split at read
    · cases read
    · next nonempty =>
      cases read
      refine ⟨⟨nonempty, allowed⟩, rfl, ?_⟩
      cases first : rest.head? with
      | none => rfl
      | some c => exact stops c first
  · rintro ⟨⟨nonempty, allowed⟩, rfl, stops⟩
    have ended : rest.takeWhile isNameChar = [] ∧ rest.dropWhile isNameChar = rest := by
      cases rest with
      | nil => exact ⟨rfl, rfl⟩
      | cons c rest =>
        have refused : isNameChar c = false := stops
        simp [refused]
    have taken : (name ++ rest).takeWhile isNameChar = name := by
      rw [List.takeWhile_append_of_pos allowed, ended.1, List.append_nil]
    have dropped : (name ++ rest).dropWhile isNameChar = rest := by
      rw [List.dropWhile_append_of_pos allowed, ended.2]
    obtain ⟨c, tail, rfl⟩ := List.exists_cons_of_ne_nil nonempty
    simp only [name?, taken, dropped]

/-- There is a plain name where there is one of its characters. -/
theorem name?_isSome (text : List Char) : (name? text).isSome = text.head?.any isNameChar := by
  cases text with
  | nil => rfl
  | cons c rest => cases named : isNameChar c <;> simp [name?, named]

/-- A schema in brackets is read up to the first closing one. -/
theorem bracket?_eq_some_iff {text schema rest : List Char} :
    bracket? text = some (schema, rest) ↔
      schema ≠ [] ∧ ']' ∉ schema ∧ text = '[' :: (schema ++ ']' :: rest) := by
  constructor
  · intro read
    obtain ⟨inside, rfl⟩ : ∃ inside, text = '[' :: inside := by
      unfold bracket? at read
      split at read
      · exact ⟨_, rfl⟩
      · cases read
    by_cases closed : ']' ∈ inside
    · obtain ⟨body, after, rfl, absent⟩ := List.eq_append_cons_of_mem closed
      rw [bracket?_of_closed absent] at read
      split at read
      · cases read
      · next nonempty =>
        cases read
        exact ⟨nonempty, absent, rfl⟩
    · rw [bracket?_of_unclosed closed] at read
      cases read
  · rintro ⟨nonempty, absent, rfl⟩
    rw [bracket?_of_closed absent, if_neg nonempty]

/-- How the schema of a form is read. -/
def Form.schema? : Form → List Char → Option (List Char × List Char)
  | warehouse | plain => name?
  | bracketed => bracket?

/-- Some characters are a schema as the form writes it. -/
def Form.WritesSchema : Form → List Char → List Char → Prop
  | warehouse, schema, written | plain, schema, written => IsName schema ∧ written = schema
  | bracketed, schema, written =>
      schema ≠ [] ∧ ']' ∉ schema ∧ written = '[' :: (schema ++ [']'])

/-- No schema holds a closing bracket. -/
theorem Form.WritesSchema.absent {form : Form} {schema written : List Char}
    (writes : form.WritesSchema schema written) : ']' ∉ schema := by
  have plain : IsName schema → ']' ∉ schema := by
    intro named closing
    have refused : isNameChar ']' = false := by decide
    cases refused.symm.trans (named.allowed _ closing)
  cases form with
  | warehouse => exact plain writes.1
  | bracketed => exact writes.2.1
  | plain => exact plain writes.1

/-- Behind a schema that is read there is a point exactly if it is written so. -/
theorem Form.schema?_eq_some_iff (form : Form) (text schema rest : List Char) :
    form.schema? text = some (schema, '.' :: rest) ↔
      ∃ written, form.WritesSchema schema written ∧ text = written ++ '.' :: rest := by
  have plain : name? text = some (schema, '.' :: rest) ↔
      ∃ written, (IsName schema ∧ written = schema) ∧ text = written ++ '.' :: rest := by
    have stops : isNameChar '.' = false := by decide
    rw [name?_eq_some_iff]
    constructor
    · rintro ⟨named, rfl, _⟩
      exact ⟨schema, ⟨named, rfl⟩, rfl⟩
    · rintro ⟨_, ⟨named, rfl⟩, rfl⟩
      exact ⟨named, rfl, stops⟩
  cases form with
  | warehouse => exact plain
  | plain => exact plain
  | bracketed =>
    show bracket? text = some (schema, '.' :: rest) ↔ _
    rw [bracket?_eq_some_iff]
    constructor
    · rintro ⟨nonempty, absent, rfl⟩
      exact ⟨_, ⟨nonempty, absent, rfl⟩, by simp⟩
    · rintro ⟨_, ⟨nonempty, absent, rfl⟩, rfl⟩
      exact ⟨nonempty, absent, by simp⟩

/-- The first letter of the prefix of a form. -/
def Form.letter : Form → Char
  | warehouse => 'r'
  | bracketed | plain => 's'

/-- A prefix, a schema, a point and a table name are read one after the other. -/
theorem Form.read?_eq_bind (form : Form) (text : List Char) :
    form.read? text = letter? form.letter text >>= fun behind => letter? 's' behind >>=
      fun behind => point? behind >>= path? form.schema? := by
  cases form with
  | warehouse => simp [Form.read?, marker?_eq_bind, letter, schema?, Option.bind_assoc]
  | bracketed => simp [Form.read?, marker?_eq_bind, letter, schema?, Option.bind_assoc]
  | plain => simp [Form.read?, marker?_eq_bind, letter, schema?, Option.bind_assoc]

/-- A letter is passed over where it stands. -/
theorem letter?_eq_some_iff {letter : Char} {text rest : List Char} :
    letter? letter text = some rest ↔ ∃ c, fold c = letter ∧ text = c :: rest := by
  cases text with
  | nil => simp [letter?]
  | cons c tail =>
    simp only [letter?, Option.ite_none_right_eq_some, Option.some.injEq, List.cons.injEq]
    constructor
    · rintro ⟨same, rfl⟩
      exact ⟨c, same, rfl, rfl⟩
    · rintro ⟨_, same, rfl, rfl⟩
      exact ⟨same, rfl⟩

/-- A point is passed over where it stands. -/
theorem point?_eq_some_iff {text rest : List Char} :
    point? text = some rest ↔ text = '.' :: rest := by
  unfold point?
  split
  · simp
  · next other =>
    refine iff_of_false nofun ?_
    rintro rfl
    exact other _ rfl

/-- A schema and the point behind it are read up to some rest. -/
def Form.Passes (form : Form) (text rest : List Char) : Prop :=
  ∃ schema behind, form.schema? text = some (schema, behind) ∧ point? behind = some rest

/-- A path is found where a schema and a point are passed and a table name comes next. -/
theorem path?_isSome_iff (form : Form) (text : List Char) :
    (path? form.schema? text).isSome = true ↔
      ∃ rest, form.Passes text rest ∧ rest.head?.any isNameChar = true := by
  constructor
  · intro found
    simp only [path?] at found
    cases schema : form.schema? text with
    | none => simp [schema] at found
    | some read =>
      obtain ⟨name, behind⟩ := read
      cases point : point? behind with
      | none => simp [schema, point] at found
      | some rest =>
        refine ⟨rest, ⟨name, behind, schema, point⟩, ?_⟩
        rw [← name?_isSome]
        cases table : name? rest with
        | none => simp [schema, point, table] at found
        | some _ => rfl
  · rintro ⟨rest, ⟨schema, behind, read, point⟩, named⟩
    rw [← name?_isSome] at named
    obtain ⟨table, found⟩ := Option.isSome_iff_exists.mp named
    simp [path?, read, point, found]

/-- A schema and a point are passed where they are written. -/
theorem Form.passes_iff (form : Form) {text rest : List Char} :
    form.Passes text rest ↔
      ∃ schema written, form.WritesSchema schema written ∧ text = written ++ '.' :: rest := by
  simp only [Passes, point?_eq_some_iff]
  constructor
  · rintro ⟨schema, _, read, rfl⟩
    exact ⟨schema, (form.schema?_eq_some_iff _ _ _).mp read⟩
  · rintro ⟨schema, written⟩
    exact ⟨schema, _, (form.schema?_eq_some_iff _ _ _).mpr written, rfl⟩

/-- A plain path is found where a name, a point and another name start. -/
theorem path?_name?_isSome_iff (text : List Char) :
    (path? name? text).isSome = true ↔
      ∃ name rest, IsName name ∧ text = name ++ '.' :: rest ∧
        rest.head?.any isNameChar = true := by
  refine (path?_isSome_iff .plain text).trans ?_
  simp only [Form.passes_iff]
  constructor
  · rintro ⟨rest, ⟨_, name, ⟨named, rfl⟩, whole⟩, goes⟩
    exact ⟨name, rest, named, whole, goes⟩
  · rintro ⟨name, rest, named, whole, goes⟩
    exact ⟨rest, ⟨name, name, ⟨named, rfl⟩, whole⟩, goes⟩

/-- A path with brackets is found where a schema in brackets, a point and a name start. -/
theorem path?_bracket?_isSome_iff (text : List Char) :
    (path? bracket? text).isSome = true ↔
      ∃ schema rest, schema ≠ [] ∧ ']' ∉ schema ∧ text = '[' :: (schema ++ ']' :: '.' :: rest) ∧
        rest.head?.any isNameChar = true := by
  refine (path?_isSome_iff .bracketed text).trans ?_
  simp only [Form.passes_iff]
  constructor
  · rintro ⟨rest, ⟨schema, _, ⟨nonempty, absent, rfl⟩, rfl⟩, goes⟩
    exact ⟨schema, rest, nonempty, absent, by simp, goes⟩
  · rintro ⟨schema, rest, nonempty, absent, rfl, goes⟩
    exact ⟨rest, ⟨schema, _, ⟨nonempty, absent, rfl⟩, by simp⟩, goes⟩

/-- A name has a first character, and it may stand in a name. -/
theorem IsName.head?_any {name : List Char} (named : IsName name) (rest : List Char) :
    (name ++ rest).head?.any isNameChar = true := by
  obtain ⟨c, tail, rfl⟩ := List.exists_cons_of_ne_nil named.nonempty
  exact named.allowed c List.mem_cons_self

/-- A text starts with a reference, written piece by piece. -/
inductive Form.Writes (form : Form) (found : Found) : List Char → Prop where
  | intro {a b : Char} {written : List Char} (first : fold a = form.letter) (second : fold b = 's')
      (schema : form.WritesSchema found.schema written) (table : IsName found.table)
      (ends : found.rest.head?.any isNameChar = false) :
      Writes form found (a :: b :: '.' :: (written ++ '.' :: (found.table ++ found.rest)))

namespace Form.Writes

variable {form : Form} {found : Found} {text : List Char} (writes : form.Writes found text)

include writes

/-- The table of a reference is a plain name. -/
theorem table : IsName found.table := by
  cases writes
  assumption

/-- The schema of a reference is written in some way. -/
theorem schema : ∃ written, form.WritesSchema found.schema written := by
  cases writes
  exact ⟨_, by assumption⟩

/-- A table name goes on as far as it can. -/
theorem ends : found.rest.head?.any isNameChar = false := by
  cases writes
  assumption

end Form.Writes

/-- A reference is read exactly where it is written. -/
theorem Form.read?_eq_some_iff (form : Form) {text : List Char} {found : Found} :
    form.read? text = some found ↔ form.Writes found text := by
  rw [form.read?_eq_bind]
  simp only [path?, Option.bind_eq_bind, Option.bind_eq_some_iff, letter?_eq_some_iff,
    point?_eq_some_iff, Option.pure_def, Option.some.injEq]
  constructor
  · rintro ⟨_, ⟨a, first, rfl⟩, _, ⟨b, second, rfl⟩, _, rfl, ⟨schema, _⟩, schemaRead, behind, rfl,
      ⟨table, rest⟩, tableRead, rfl⟩
    obtain ⟨written, writes, rfl⟩ := (form.schema?_eq_some_iff _ _ _).mp schemaRead
    obtain ⟨named, rfl, ends⟩ := name?_eq_some_iff.mp tableRead
    exact .intro first second writes named ends
  · rintro ⟨first, second, writes, named, ends⟩
    exact ⟨_, ⟨_, first, rfl⟩, _, ⟨_, second, rfl⟩, _, rfl, _,
      (form.schema?_eq_some_iff _ _ _).mpr ⟨_, writes, rfl⟩, _, rfl, _,
      name?_eq_some_iff.mpr ⟨named, rfl, ends⟩, rfl⟩

/-- Some reference starts a text if two letters, a point and a path do. -/
theorem Form.read?_isSome_iff (form : Form) (text : List Char) :
    (form.read? text).isSome = true ↔ ∃ a b path, fold a = form.letter ∧ fold b = 's' ∧
      text = a :: b :: '.' :: path ∧ (path? form.schema? path).isSome = true := by
  rw [form.read?_eq_bind]
  simp only [Option.bind_eq_bind, Option.isSome_iff_exists, Option.bind_eq_some_iff,
    letter?_eq_some_iff, point?_eq_some_iff]
  constructor
  · rintro ⟨found, _, ⟨a, first, rfl⟩, _, ⟨b, second, rfl⟩, path, rfl, read⟩
    exact ⟨a, b, path, first, second, rfl, found, read⟩
  · rintro ⟨a, b, path, first, second, rfl, found, read⟩
    exact ⟨found, _, ⟨a, first, rfl⟩, _, ⟨b, second, rfl⟩, path, rfl, read⟩

/-- The first letter of a prefix is a character of plain names. -/
theorem Form.isNameChar_of_letter (form : Form) {c : Char} (letter : fold c = form.letter) :
    isNameChar c = true := by
  cases form with
  | warehouse => exact isNameChar_of_fold (Or.inl letter)
  | bracketed => exact isNameChar_of_fold (Or.inr letter)
  | plain => exact isNameChar_of_fold (Or.inr letter)

/-- A reference starts with a character of plain names. -/
theorem Form.head?_of_read? (form : Form) {text : List Char}
    (read : (form.read? text).isSome = true) : text.head?.any isNameChar = true := by
  obtain ⟨a, b, path, first, _, rfl, _⟩ := (form.read?_isSome_iff text).mp read
  exact form.isNameChar_of_letter first

end SqlGateway.Reference
