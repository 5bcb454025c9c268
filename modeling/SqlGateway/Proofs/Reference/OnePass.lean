import SqlGateway.Proofs.Reference.Pass
import SqlGateway.Proofs.Reference.Settled
import SqlGateway.Proofs.Reference.Uncovered

/-!
# Two passes as one

A query for the transactional server is adapted in two passes, and the second one goes through
what the first one has put in. Here both are shown to be a single pass from left to right.

In this pass a reference with brackets goes before a plain one that overlaps it, and what stands
between brackets is gone through as well, since a reference counts wherever it stands. Where
neither happens, it is the pass that takes the leftmost reference first and copies the schemas as
they are.

The two passes can be told apart from the inside: a plain reference holds neither brackets nor
blanks, so it stays on its side of every such mark, and the pass for references with brackets
copies it up to its table.
-/

namespace SqlGateway

namespace Reference

open Text

/-- No point is part of a plain name. -/
theorem IsName.noPoint {name : List Char} (named : IsName name) : '.' ∉ name := by
  intro point
  have refused : isNameChar '.' = false := by decide
  cases refused.symm.trans (named.allowed _ point)

namespace Form

/-- Every reference has a point. -/
theorem occursFrom_of_noPoint (form : Form) {text : List Char} (absent : '.' ∉ text)
    (before : Option Char) : form.occursFrom before text = false := by
  rw [Bool.eq_false_iff]
  intro occurs
  obtain ⟨passed, rest, rfl, _, starts⟩ := (form.occursFrom_iff _ _).mp occurs
  obtain ⟨a, b, path, _, _, rfl, _⟩ := (form.read?_isSome_iff _).mp starts
  simp at absent

/-- Of the character before a text only matters whether a word goes on, and not even this where
    no reference can start. -/
theorem replaceFrom_congr (form : Form) {before other : Option Char} {text : List Char}
    (agree : before.any isWord = other.any isWord ∨ text.head?.any isNameChar = false) :
    form.replaceFrom before text = form.replaceFrom other text := by
  have same : form.at? before text = form.at? other text := by
    rcases agree with word | refused
    · rw [at?, at?, word]
    · rw [form.at?_of_head refused, form.at?_of_head refused]
  cases text with
  | nil => rw [replaceFrom, replaceFrom]
  | cons c rest =>
    cases read : form.at? before (c :: rest) with
    | some found =>
      rw [form.replaceFrom_of_some read, form.replaceFrom_of_some (same.symm.trans read)]
    | none => rw [form.replaceFrom_of_none read, form.replaceFrom_of_none (same.symm.trans read)]

/-- A reference with more text behind it is the same reference if its table does not go on. -/
theorem Writes.append {form : Form} {found : Found} {text tail : List Char}
    (writes : form.Writes found text) (ends : (found.rest ++ tail).head?.any isNameChar = false) :
    form.Writes { found with rest := found.rest ++ tail } (text ++ tail) := by
  cases writes with
  | @intro a b written first second schema table _ =>
    have whole := @Writes.intro form { found with rest := found.rest ++ tail } a b written first
      second schema table ends
    simpa using whole

/-- The table of a reference does not go on in what becomes of the text behind it. -/
theorem Writes.ends_replaceFrom {form : Form} {found : Found} {text : List Char}
    (writes : form.Writes found text) (pass : Form) (before : Option Char) :
    (pass.replaceFrom before found.rest).head?.any isNameChar = false := by
  rw [Bool.eq_false_iff]
  intro goes
  cases writes.ends.symm.trans (pass.head?_of_replaceFrom goes)

/-- A plain reference before a mark that is neither a point nor part of a name ends before it. -/
theorem Writes.of_append {found : Found} {front behind : List Char} {mark : Char}
    (outside : isNameChar mark = false) (other : mark ≠ '.')
    (writes : plain.Writes found (front ++ mark :: behind)) :
    ∃ rest, found.rest = rest ++ mark :: behind ∧ plain.Writes { found with rest } front := by
  generalize whole : front ++ mark :: behind = text at writes
  cases writes with
  | @intro a b written first second schema table ends =>
    obtain ⟨named, rfl⟩ := schema
    have inName : ∀ name : List Char, IsName name → mark ∉ name := fun name named member => by
      cases outside.symm.trans (named.allowed mark member)
    have inLetter : ∀ letter, fold letter = 's' → mark ≠ letter := by
      rintro letter same rfl
      cases outside.symm.trans (isNameChar_of_fold (Or.inr same))
    have absent : mark ∉ a :: b :: '.' :: (found.schema ++ '.' :: found.table) := by
      simp only [List.mem_cons, List.mem_append, not_or]
      exact ⟨inLetter a first, inLetter b second, other, inName _ named, other, inName _ table⟩
    have split : front ++ mark :: behind =
        (a :: b :: '.' :: (found.schema ++ '.' :: found.table)) ++ found.rest := by
      rw [whole]
      simp
    rcases List.append_eq_append_iff.mp split with ⟨inner, reference, tail⟩ | ⟨rest, rfl, tail⟩
    · cases inner with
      | nil =>
        refine ⟨[], tail.symm, ?_⟩
        have written := @Writes.intro plain { found with rest := [] } a b _ first second
          ⟨named, rfl⟩ table rfl
        rw [List.append_nil] at reference
        rw [← reference]
        simpa using written
      | cons c inner =>
        cases tail
        exact absurd (by rw [reference]; simp) absent
    · refine ⟨rest, tail, ?_⟩
      have stops : rest.head?.any isNameChar = false := by
        cases rest with
        | nil => rfl
        | cons c rest =>
          rw [tail] at ends
          exact ends
      have written := @Writes.intro plain { found with rest } a b _ first second ⟨named, rfl⟩ table
        stops
      simpa using written

/-- Before a mark that is neither a point nor part of a name, plain references are the same with
    and without the text from the mark on. -/
theorem plain_at?_append {mark : Char} (outside : isNameChar mark = false) (other : mark ≠ '.')
    (before : Option Char) (front behind : List Char) :
    plain.at? before (front ++ mark :: behind) =
      (plain.at? before front).map fun found =>
        { found with rest := found.rest ++ mark :: behind } := by
  cases read : plain.at? before front with
  | some found =>
    obtain ⟨started, read⟩ := plain.at?_eq_some_iff.mp read
    have writes := plain.read?_eq_some_iff.mp read
    have stops : (found.rest ++ mark :: behind).head?.any isNameChar = false := by
      have ends := writes.ends
      cases rest : found.rest with
      | nil => exact outside
      | cons c tail =>
        rw [rest] at ends
        exact ends
    exact plain.at?_eq_some_iff.mpr ⟨started, plain.read?_eq_some_iff.mpr (writes.append stops)⟩
  | none =>
    rw [Option.map_none, Option.eq_none_iff_forall_not_mem]
    intro found present
    obtain ⟨started, there⟩ := plain.at?_eq_some_iff.mp present
    obtain ⟨rest, _, writes⟩ := (plain.read?_eq_some_iff.mp there).of_append outside other
    have here := plain.at?_eq_some_iff.mpr ⟨started, plain.read?_eq_some_iff.mpr writes⟩
    cases read.symm.trans here

/-- Plain references before and behind a mark that is neither a point nor part of a name are
    replaced on their own. -/
theorem plain_replaceFrom_append {mark : Char} (outside : isNameChar mark = false)
    (other : mark ≠ '.') (before : Option Char) (front behind : List Char) :
    plain.replaceFrom before (front ++ mark :: behind) =
      plain.replaceFrom before front ++ mark :: plain.replaceFrom (some mark) behind := by
  induction before, front using Form.replaceFrom.induct plain with
  | case1 before =>
    have unread : plain.at? before (mark :: behind) = none := plain.at?_of_head outside
    rw [List.nil_append, plain.replaceFrom_of_none unread, replaceFrom, List.nil_append]
  | case2 before c rest found read inductionHypothesis =>
    have whole := plain_at?_append outside other before (c :: rest) behind
    rw [read, Option.map_some] at whole
    rw [plain.replaceFrom_of_some whole, plain.replaceFrom_of_some read, inductionHypothesis,
      List.append_assoc]
  | case3 before c rest unread inductionHypothesis =>
    have whole := plain_at?_append outside other before (c :: rest) behind
    rw [unread, Option.map_none] at whole
    rw [List.cons_append] at whole ⊢
    rw [plain.replaceFrom_of_none whole, plain.replaceFrom_of_none unread, inductionHypothesis]
    rfl

/-- A plain name is left as it is. -/
theorem replaceFrom_name (form : Form) {name : List Char} (named : IsName name)
    (before : Option Char) : form.replaceFrom before name = name :=
  form.replaceFrom_of_not_occurs (form.occursFrom_of_noPoint named.noPoint before)

/-- No reference with brackets starts at a name with a point and a name behind it. -/
theorem bracketed_at?_of_name {before : Option Char} {name rest : List Char} (named : IsName name)
    (goes : rest.head?.any isNameChar = true) :
    bracketed.at? before (name ++ '.' :: rest) = none := by
  rw [Option.eq_none_iff_forall_not_mem]
  intro found read
  have present := Option.isSome_of_eq_some (bracketed.at?_eq_some_iff.mp read).2
  obtain ⟨a, b, path, first, second, whole, schema⟩ := (bracketed.read?_isSome_iff _).mp present
  have letters : IsName [a, b] := ⟨nofun, by
    simp [bracketed.isNameChar_of_letter first, isNameChar_of_fold (Or.inr second)]⟩
  have point : ('.' :: rest).head?.any isNameChar = false := rfl
  obtain ⟨_, behind⟩ := (named.append_eq_iff point letters).mp whole
  obtain ⟨_, _, _, _, rfl, _⟩ := (path?_bracket?_isSome_iff path).mp schema
  cases behind
  cases goes

/-- The pass for references with brackets copies a plain one up to its table. Only there can a
    reference with brackets start: within a word none does, and the schema has the table behind
    it. -/
theorem bracketed_replaceFrom_of_plain {before : Option Char} {text : List Char} {found : Found}
    (writes : plain.Writes found text) (unread : bracketed.at? before text = none) :
    ∃ a b, fold a = 's' ∧ fold b = 's' ∧
      bracketed.replaceFrom before text = a :: b :: '.' :: (found.schema ++ '.' ::
        bracketed.replaceFrom (some '.') (found.table ++ found.rest)) := by
  cases writes with
  | @intro a b written first second schema table ends =>
    obtain ⟨named, rfl⟩ := schema
    have letterA : isWord a = true := isWord_of_isNameChar (isNameChar_of_fold (Or.inr first))
    have letterB : isWord b = true := isWord_of_isNameChar (isNameChar_of_fold (Or.inr second))
    have point {before : Option Char} (rest : List Char) :
        bracketed.replaceFrom before ('.' :: rest) =
          '.' :: bracketed.replaceFrom (some '.') rest :=
      bracketed.replaceFrom_of_none (bracketed.at?_of_head rfl)
    have prefixed := bracketed.replaceFrom_run
      (by simp [letterA, letterB] : ∀ c ∈ [a, b], isWord c = true)
      ('.' :: (found.schema ++ '.' :: (found.table ++ found.rest))) unread
    have unmet : bracketed.at? (some '.') (found.schema ++ '.' :: (found.table ++ found.rest)) =
        none := bracketed_at?_of_name named (table.head?_any found.rest)
    have schema := bracketed.replaceFrom_run
      (fun c member => isWord_of_isNameChar (named.allowed c member)) _ unmet
    refine ⟨a, b, first, second, ?_⟩
    calc bracketed.replaceFrom before
          (a :: b :: '.' :: (found.schema ++ '.' :: (found.table ++ found.rest)))
        = [a, b] ++ bracketed.replaceFrom _
            ('.' :: (found.schema ++ '.' :: (found.table ++ found.rest))) := prefixed
      _ = a :: b :: '.' :: bracketed.replaceFrom (some '.')
            (found.schema ++ '.' :: (found.table ++ found.rest)) := by
        rw [point]
        rfl
      _ = _ := by rw [schema, point]

/-- A reference with brackets is adapted as a whole, its schema on its own, and the text behind
    it on its own. -/
theorem plain_replaceFrom_bracketed {before : Option Char} {text : List Char} {found : Found}
    (read : bracketed.at? before text = some found) :
    plain.replaceFrom before (bracketed.replaceFrom before text) =
      schemaAdapted .bracketed found ++
        plain.replaceFrom found.table.getLast?
          (bracketed.replaceFrom found.table.getLast? found.rest) := by
  have writes := bracketed.read?_eq_some_iff.mp (bracketed.at?_eq_some_iff.mp read).2
  have mark {c : Char} (outside : isNameChar c = false) (before : Option Char)
      (rest : List Char) :
      plain.replaceFrom before (c :: rest) = c :: plain.replaceFrom (some c) rest :=
    plain.replaceFrom_of_none (plain.at?_of_head outside)
  have closed := @plain_replaceFrom_append ']' (by decide) (by decide)
  have schema : plain.replaceFrom (some '[') found.schema = plain.replace found.schema :=
    plain.replaceFrom_congr (Or.inl (by decide))
  have stops := writes.ends_replaceFrom bracketed found.table.getLast?
  rw [bracketed.replaceFrom_of_some read, schemaAdapted, render_of_ne_warehouse (by decide),
    render_of_ne_warehouse (by decide)]
  simp only [List.cons_append, List.append_assoc, List.nil_append]
  rw [mark (by decide), closed, schema, mark (by decide), mark (by decide), closed,
    plain.replaceFrom_name writes.table, plain.replaceFrom_congr (Or.inr stops)]

/-- A plain reference is adapted on its own, and the text behind it on its own, unless its table
    begins a reference with brackets. -/
theorem plain_replaceFrom_plain {before : Option Char} {text : List Char} {found : Found}
    (unread : bracketed.at? before text = none) (read : plain.at? before text = some found)
    (free : found.opens = false) :
    plain.replaceFrom before (bracketed.replaceFrom before text) =
      schemaAdapted .plain found ++
        plain.replaceFrom found.table.getLast?
          (bracketed.replaceFrom found.table.getLast? found.rest) := by
  obtain ⟨started, reads⟩ := plain.at?_eq_some_iff.mp read
  have writes := plain.read?_eq_some_iff.mp reads
  obtain ⟨_, named, _⟩ := writes.schema
  obtain ⟨a, b, first, second, passed⟩ := bracketed_replaceFrom_of_plain writes unread
  have tableUnread : bracketed.at? (some '.') (found.table ++ found.rest) = none := by
    simpa [Found.opens] using free
  have last : found.table.getLast?.or (some '.') = found.table.getLast? := by
    rw [List.getLast?_eq_some_getLast writes.table.nonempty, Option.some_or]
  have table := bracketed.replaceFrom_run
    (fun c member => isWord_of_isNameChar (writes.table.allowed c member)) _ tableUnread
  rw [last] at table
  have stops := writes.ends_replaceFrom bracketed found.table.getLast?
  have again : plain.at? before (bracketed.replaceFrom before text) =
      some { found with rest := bracketed.replaceFrom found.table.getLast? found.rest } := by
    rw [passed, table]
    exact plain.at?_eq_some_iff.mpr ⟨started,
      plain.read?_eq_some_iff.mpr (.intro first second ⟨named, rfl⟩ writes.table stops)⟩
  have schema : plain.replace found.schema = found.schema := plain.replaceFrom_name named none
  rw [plain.replaceFrom_of_some again, schemaAdapted, schema]

/-- Where neither a reference with brackets is nor a plain one that keeps its table, the character
    is copied by both passes. -/
theorem plain_replaceFrom_copied {before : Option Char} {c : Char} {rest : List Char}
    (unread : bracketed.at? before (c :: rest) = none)
    (opens : ∀ found, plain.at? before (c :: rest) = some found → found.opens = true) :
    plain.replaceFrom before (bracketed.replaceFrom before (c :: rest)) =
      c :: plain.replaceFrom (some c) (bracketed.replaceFrom (some c) rest) := by
  rw [bracketed.replaceFrom_of_none unread]
  refine plain.replaceFrom_of_none ?_
  rw [Option.eq_none_iff_forall_not_mem]
  intro found again
  obtain ⟨started, reads⟩ := plain.at?_eq_some_iff.mp again
  -- A plain reference that comes out was there before, so its table began one with brackets.
  have noPath : bracketed.MakesNoPath .plain := bracketed.makesNoPath_of_plain rfl
  obtain ⟨earlier, read⟩ := Option.isSome_iff_exists.mp
    (noPath.read? (Option.isSome_of_eq_some reads))
  have opened := opens earlier (plain.at?_eq_some_iff.mpr ⟨started, read⟩)
  obtain ⟨inner, found⟩ := Option.isSome_iff_exists.mp opened
  have writes := plain.read?_eq_some_iff.mp read
  obtain ⟨_, named, _⟩ := writes.schema
  obtain ⟨a, b, _, _, passed⟩ := bracketed_replaceFrom_of_plain writes unread
  obtain ⟨_, behind, put⟩ := replaceFrom_brackets (by decide) found
  rw [← bracketed.replaceFrom_of_none unread, passed, put, List.cons_append] at reads
  obtain ⟨_, _, path, _, _, whole, path?⟩ :=
    (plain.read?_isSome_iff _).mp (Option.isSome_of_eq_some reads)
  cases whole
  obtain ⟨_, bracket, goes⟩ := (named.path?_isSome_iff rfl).mp path?
  cases bracket
  cases goes

end Form

/-- Both passes for the transactional server are one: it passes over a plain reference whose table
    begins one with brackets, and goes through the schemas as well. The induction follows this
    pass. -/
theorem plain_replaceFrom_replaceFrom (before : Option Char) (text : List Char) :
    Form.plain.replaceFrom before (Form.bracketed.replaceFrom before text) =
      bracketsFirst.passFrom schemaAdapted before text := by
  induction before, text using Finder.piecesFrom.induct bracketsFirst with
  | case1 before => rw [Form.replaceFrom, Form.replaceFrom, Finder.passFrom_nil]
  | case2 before c rest form found read inductionHypothesis =>
    rw [bracketsFirst.passFrom_of_some schemaAdapted read, ← inductionHypothesis]
    obtain ⟨first, free⟩ := bracketsFirst_eq_some_iff.mp read
    rcases leftmost_eq_some_iff.mp first with ⟨rfl, here⟩ | ⟨rfl, unread, here⟩
    · exact Form.plain_replaceFrom_bracketed here
    · exact Form.plain_replaceFrom_plain unread here (free rfl)
  | case3 before c rest unread inductionHypothesis =>
    obtain ⟨unbracketed, opens⟩ := bracketsFirst_eq_none_iff.mp unread
    rw [bracketsFirst.passFrom_of_none schemaAdapted unread, ← inductionHypothesis,
      Form.plain_replaceFrom_copied unbracketed opens]

/-- A reference has nothing to do with others: no plain one is in its schema, and if it is plain
    itself it does not run into one with brackets. -/
structure Alone (form : Form) (found : Found) : Prop where
  /-- No plain reference is in the schema. -/
  schema : Form.plain.occurs found.schema = false
  /-- The table of a plain reference begins no reference with brackets. -/
  table : form = .plain → found.opens = false

/-- Replacing a plain reference can be seen at its first character. -/
theorem plain_replaceFrom_ne {before : Option Char} {text : List Char}
    (occurs : Form.plain.occursFrom before text = true) (behind other : List Char) :
    Form.plain.replaceFrom before text ++ behind ≠ text ++ other := by
  induction text generalizing before with
  | nil => cases occurs
  | cons c rest inductionHypothesis =>
    cases read : Form.plain.at? before (c :: rest) with
    | some found =>
      obtain ⟨_, reads⟩ := Form.plain.at?_eq_some_iff.mp read
      have letter : isNameChar c = true :=
        Form.plain.head?_of_read? (Option.isSome_of_eq_some reads)
      rw [Form.plain.replaceFrom_of_some read]
      intro same
      cases (List.cons.inj same).1
      cases letter
    | none =>
      rw [Form.occursFrom, read] at occurs
      rw [Form.plain.replaceFrom_of_none read]
      intro same
      exact inductionHypothesis occurs (List.cons.inj same).2

/-- A reference to the transactional server starts with a letter, and is put in brackets. -/
theorem leftmost_starts {before : Option Char} {c : Char} {rest : List Char} {form : Form}
    {found : Found} (read : leftmost.at? before (c :: rest) = some (form, found)) :
    isNameChar c = true ∧ form ≠ .warehouse := by
  rcases leftmost_eq_some_iff.mp read with ⟨rfl, here⟩ | ⟨rfl, _, here⟩
  · have reads := (Form.bracketed.at?_eq_some_iff.mp here).2
    exact ⟨Form.bracketed.head?_of_read? (Option.isSome_of_eq_some reads), by decide⟩
  · have reads := (Form.plain.at?_eq_some_iff.mp here).2
    exact ⟨Form.plain.head?_of_read? (Option.isSome_of_eq_some reads), by decide⟩

/-- Whether the schema of a reference is copied can be seen in what is put for the reference. -/
theorem schemaAdapted_append_eq_iff {form : Form} (brackets : form ≠ .warehouse) (found : Found)
    (behind other : List Char) :
    schemaAdapted form found ++ behind = schemaKept form found ++ other ↔
      Form.plain.occurs found.schema = false ∧ behind = other := by
  rw [schemaAdapted, schemaKept]
  cases occurs : Form.plain.occurs found.schema with
  | false =>
    rw [Form.plain.replace_of_not_occurs occurs, List.append_cancel_left_eq]
    exact (and_iff_right rfl).symm
  | true =>
    rw [Form.render_of_ne_warehouse brackets, Form.render_of_ne_warehouse brackets]
    refine iff_of_false ?_ nofun
    simp only [List.cons_append, List.append_assoc, List.cons.injEq, true_and]
    exact plain_replaceFrom_ne occurs _ _

/-- All references of a pass are alone if the first one is, and those behind it are. -/
theorem alone_piecesFrom_of_some {before : Option Char} {text : List Char} {form : Form}
    {found : Found} (read : leftmost.at? before text = some (form, found)) :
    (∀ other inner, .reference other inner ∈ leftmost.piecesFrom before text →
        Alone other inner) ↔
      Alone form found ∧ ∀ other inner, .reference other inner ∈
        leftmost.piecesFrom found.table.getLast? found.rest → Alone other inner := by
  rw [leftmost.piecesFrom_of_some read]
  simp [or_imp, forall_and]

/-- The pass that copies the schemas and takes the leftmost reference first gives the same exactly
    if every reference that it finds is alone. The first one that is not can be seen in what comes
    out: a plain reference in a schema, or the first letter of a plain one that is passed over. -/
theorem passFrom_eq_iff (before : Option Char) (text : List Char) :
    bracketsFirst.passFrom schemaAdapted before text = leftmost.passFrom schemaKept before text ↔
      ∀ form found, .reference form found ∈ leftmost.piecesFrom before text →
        Alone form found := by
  induction before, text using Finder.piecesFrom.induct leftmost with
  | case1 before =>
    rw [Finder.passFrom_nil, Finder.passFrom_nil, Finder.piecesFrom]
    simp
  | case2 before c rest form found read inductionHypothesis =>
    obtain ⟨letter, brackets⟩ := leftmost_starts read
    rw [alone_piecesFrom_of_some read, leftmost.passFrom_of_some schemaKept read]
    by_cases passed : form = .plain ∧ found.opens = true
    · obtain ⟨rfl, opens⟩ := passed
      have unread : bracketsFirst.at? before (c :: rest) = none := by
        simp [bracketsFirst, read, opens]
      rw [bracketsFirst.passFrom_of_none schemaAdapted unread]
      refine iff_of_false ?_ ?_
      · intro same
        cases (List.cons.inj same).1
        cases letter
      · rintro ⟨alone, _⟩
        cases opens.symm.trans (alone.table rfl)
    · have free : form = .plain → found.opens = false := by simpa using passed
      have taken := bracketsFirst_eq_some_iff.mpr ⟨read, free⟩
      rw [bracketsFirst.passFrom_of_some schemaAdapted taken, schemaAdapted_append_eq_iff brackets,
        inductionHypothesis]
      exact and_congr_left' ⟨fun schema => ⟨schema, free⟩, Alone.schema⟩
  | case3 before c rest unread inductionHypothesis =>
    have passed : bracketsFirst.at? before (c :: rest) = none := by
      simp [bracketsFirst, unread]
    rw [bracketsFirst.passFrom_of_none schemaAdapted passed,
      leftmost.passFrom_of_none schemaKept unread, leftmost.piecesFrom_of_none unread,
      List.cons.injEq, inductionHypothesis]
    simp

/-- Adapting a query for the transactional server is one pass from left to right: it puts both
    names of every reference in brackets, the schema with its plain references replaced in turn,
    and passes over a plain reference whose table begins one with brackets. It is the pass that
    takes the leftmost reference first and copies every schema exactly if no reference of that
    pass has a plain one in its schema, or is plain and runs into one with brackets. -/
theorem adapted_in_one_pass (text : List Char) :
    Backend.transactional.adapt text = bracketsFirst.pass schemaAdapted text ∧
      (Backend.transactional.adapt text = leftmost.pass schemaKept text ↔
        ∀ form found, .reference form found ∈ leftmost.piecesFrom none text →
          Alone form found) := by
  have onePass : Backend.transactional.adapt text = bracketsFirst.pass schemaAdapted text :=
    plain_replaceFrom_replaceFrom none text
  refine ⟨onePass, ?_⟩
  rw [onePass]
  exact passFrom_eq_iff none text

/-- A plain reference between brackets is replaced, and one that runs into a reference with
    brackets is not. -/
theorem nested_and_overlapping_adapted :
    Backend.transactional.adapt "ss.[ss.a.b].c".toList = "[[a].[b]].[c]".toList ∧
      Backend.transactional.adapt "ss.[ss.a.b].c".toList ≠
        leftmost.pass schemaKept "ss.[ss.a.b].c".toList ∧
      Backend.transactional.adapt "ss.a.ss.[b].c".toList = "ss.a.[b].[c]".toList ∧
      Backend.transactional.adapt "ss.a.ss.[b].c".toList ≠
        leftmost.pass schemaKept "ss.a.ss.[b].c".toList := by
  decide +kernel

end Reference

end SqlGateway
