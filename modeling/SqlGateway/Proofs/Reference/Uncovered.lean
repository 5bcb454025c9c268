import SqlGateway.Dialect
import SqlGateway.Proofs.Reference.Replacement

/-!
# References uncovered for the warehouse

A query for the warehouse is adapted in one pass that takes the prefix from every reference.
The path that is left stands in the text as it did, with the same text behind it. If its schema
or its table is called like the prefix and the text goes on with further names, a reference to
the warehouse is left: `rs.rs.a.b` becomes `rs.a.b`. Nothing else can leave one.

Every reference makes the text shorter when it is replaced, so a text is left as it is exactly
if no reference is in it.
-/

namespace SqlGateway

namespace Reference

open Text

/-- With its prefix taken away, a reference leaves another one at its schema or its table: the
    path and the text behind it read as a reference. -/
def Found.Continues (found : Found) : Prop :=
  (Form.warehouse.read? (found.schema ++ '.' :: (found.table ++ found.rest))).isSome = true ∨
    (Form.warehouse.read? (found.table ++ found.rest)).isSome = true

/-- A name ends where the characters of names do. -/
theorem IsName.append_eq_iff {name other tail out : List Char} (named : IsName name)
    (ends : tail.head?.any isNameChar = false) (otherNamed : IsName other) :
    name ++ tail = other ++ '.' :: out ↔ name = other ∧ tail = '.' :: out := by
  constructor
  · intro same
    have point : isNameChar '.' = false := by decide
    have here : name? (name ++ tail) = some (name, tail) :=
      name?_eq_some_iff.mpr ⟨named, rfl, ends⟩
    have there : name? (name ++ tail) = some (other, '.' :: out) :=
      name?_eq_some_iff.mpr ⟨otherNamed, same, point⟩
    cases here.symm.trans there
    exact ⟨rfl, rfl⟩
  · rintro ⟨rfl, rfl⟩
    rfl

/-- No reference starts within a name, since a word goes on there. -/
theorem IsName.eq_nil_of_boundary {passed part : List Char} (named : IsName (passed ++ part))
    (boundary : passed.getLast?.any isWord = false) : passed = [] := by
  by_cases nonempty : passed = []
  · exact nonempty
  · have begins : IsName passed :=
      ⟨nonempty, fun c member => named.allowed c (List.mem_append_left part member)⟩
    cases boundary.symm.trans begins.isWord_getLast?

/-- Behind a name that goes no further, a plain path is found where a point and a name are. -/
theorem IsName.path?_isSome_iff {name tail : List Char} (named : IsName name)
    (ends : tail.head?.any isNameChar = false) :
    (path? name? (name ++ tail)).isSome = true ↔
      ∃ rest, tail = '.' :: rest ∧ rest.head?.any isNameChar = true := by
  rw [path?_name?_isSome_iff]
  constructor
  · rintro ⟨other, rest, otherNamed, same, goes⟩
    exact ⟨rest, ((named.append_eq_iff ends otherNamed).mp same).2, goes⟩
  · rintro ⟨rest, rfl, goes⟩
    exact ⟨name, rest, named, rfl, goes⟩

/-- A name that goes no further starts a reference to the warehouse if it is the prefix, and a
    point and a path are behind it. -/
theorem IsName.read?_isSome_iff {name tail : List Char} (named : IsName name)
    (ends : tail.head?.any isNameChar = false) :
    (Form.warehouse.read? (name ++ tail)).isSome = true ↔
      (∃ a b, fold a = 'r' ∧ fold b = 's' ∧ name = [a, b]) ∧
        ∃ path, tail = '.' :: path ∧ (path? name? path).isSome = true := by
  rw [Form.read?_isSome_iff]
  constructor
  · rintro ⟨a, b, path, first, second, same, found⟩
    have letters : IsName [a, b] := ⟨nofun, by
      simp [isNameChar_of_fold (Or.inl first), isNameChar_of_fold (Or.inr second)]⟩
    obtain ⟨whole, behind⟩ := (named.append_eq_iff ends letters).mp same
    exact ⟨⟨a, b, first, second, whole⟩, path, behind, found⟩
  · rintro ⟨⟨a, b, first, second, rfl⟩, path, rfl, found⟩
    exact ⟨a, b, path, first, second, rfl, found⟩

namespace Form

/-- Adapting a text for the warehouse keeps whether it starts with a character of names. -/
theorem head?_replaceFrom_warehouse (before : Option Char) (text : List Char) :
    (warehouse.replaceFrom before text).head?.any isNameChar = text.head?.any isNameChar := by
  cases read : warehouse.at? before text with
  | some found =>
    have reads := (warehouse.at?_eq_some_iff.mp read).2
    obtain ⟨_, named, _⟩ := (warehouse.read?_eq_some_iff.mp reads).schema
    rw [warehouse.replaceFrom_of_some read, render, List.append_assoc, named.head?_any,
      warehouse.head?_of_read? (Option.isSome_of_eq_some reads)]
  | none =>
    cases text with
    | nil => rw [replaceFrom]
    | cons c rest =>
      rw [warehouse.replaceFrom_of_none read]
      rfl

/-- Adapting a text for the warehouse keeps whether it starts with a path. -/
theorem path?_replaceFrom_warehouse (before : Option Char) (text : List Char) :
    (path? name? (warehouse.replaceFrom before text)).isSome = true ↔
      (path? name? text).isSome = true := by
  constructor
  · have noPath : warehouse.MakesNoPath .warehouse := warehouse.makesNoPath_of_plain rfl
    exact noPath before text
  · intro found
    obtain ⟨name, rest, named, rfl, goes⟩ := (path?_name?_isSome_iff text).mp found
    rw [path?_name?_isSome_iff]
    cases read : warehouse.at? before (name ++ '.' :: rest) with
    | some found =>
      have writes := warehouse.read?_eq_some_iff.mp (warehouse.at?_eq_some_iff.mp read).2
      obtain ⟨_, schema, _⟩ := writes.schema
      rw [warehouse.replaceFrom_of_some read]
      exact ⟨found.schema, found.table ++ warehouse.replaceFrom found.table.getLast? found.rest,
        schema, by simp [render], writes.table.head?_any _⟩
    | none =>
      have word : ∀ c ∈ name, isWord c = true :=
        fun c member => isWord_of_isNameChar (named.allowed c member)
      have point : warehouse.at? (name.getLast?.or before) ('.' :: rest) = none :=
        warehouse.at?_of_head rfl
      rw [warehouse.replaceFrom_run word _ read, warehouse.replaceFrom_of_none point]
      exact ⟨name, _, named, rfl, by rw [head?_replaceFrom_warehouse, goes]⟩

/-- Behind a name, a point comes out exactly where there was one, and what adapting the text
    behind it keeps does not matter. -/
theorem replaceFrom_point_iff {name : List Char} (named : IsName name) (rest : List Char)
    {holds : List Char → Prop}
    (kept : ∀ behind, holds (warehouse.replaceFrom (some '.') behind) ↔ holds behind) :
    (∃ path, warehouse.replaceFrom name.getLast? rest = '.' :: path ∧ holds path) ↔
      ∃ path, rest = '.' :: path ∧ holds path := by
  have unread : warehouse.at? name.getLast? rest = none := if_pos named.isWord_getLast?
  constructor
  · rintro ⟨path, given, held⟩
    obtain ⟨behind, rfl, rfl⟩ := warehouse.cons_of_replaceFrom unread given
    exact ⟨behind, rfl, (kept behind).mp held⟩
  · rintro ⟨behind, rfl, held⟩
    exact ⟨_, warehouse.replaceFrom_of_none unread, (kept behind).mpr held⟩

/-- Whether a reference begins at the schema or the table of a path can be seen in the text
    behind it as it was, before references in that text are replaced. -/
theorem continues_iff {found : Found} {reference : List Char}
    (writes : warehouse.Writes found reference) :
    found.Continues ↔
      (warehouse.read? (found.schema ++ '.' :: (found.table ++
          warehouse.replaceFrom found.table.getLast? found.rest))).isSome = true ∨
        (warehouse.read? (found.table ++
          warehouse.replaceFrom found.table.getLast? found.rest)).isSome = true := by
  obtain ⟨_, schema, _⟩ := writes.schema
  have ends := writes.ends
  have endsThere : (warehouse.replaceFrom found.table.getLast? found.rest).head?.any isNameChar =
      false := by
    rw [head?_replaceFrom_warehouse, ends]
  have point (text : List Char) : ('.' :: text).head?.any isNameChar = false := rfl
  refine or_congr ?_ ?_
  · rw [schema.read?_isSome_iff (point _), schema.read?_isSome_iff (point _)]
    simp only [List.cons.injEq, true_and, exists_eq_left']
    rw [writes.table.path?_isSome_iff ends, writes.table.path?_isSome_iff endsThere,
      replaceFrom_point_iff writes.table found.rest
        fun behind => by rw [head?_replaceFrom_warehouse]]
  · rw [writes.table.read?_isSome_iff ends, writes.table.read?_isSome_iff endsThere,
      replaceFrom_point_iff writes.table found.rest
        fun behind => path?_replaceFrom_warehouse (some '.') behind]

/-- A reference that is read within a bare path begins at its schema or at its table. -/
theorem starts_of_boundary {found : Found} {reference passed rest : List Char}
    (writes : warehouse.Writes found reference)
    (bare : warehouse.render found.schema found.table = passed ++ rest)
    (boundary : passed.getLast?.any isWord = false)
    (named : rest.head?.any isNameChar = true) :
    rest = warehouse.render found.schema found.table ∨ rest = found.table := by
  obtain ⟨_, schema, _⟩ := writes.schema
  rcases List.append_eq_append_iff.mp bare with ⟨gone, rfl, behind⟩ | ⟨part, begins, rfl⟩
  · cases gone with
    | nil =>
      cases behind
      cases named
    | cons c gone =>
      obtain ⟨rfl, table⟩ := List.cons.inj behind
      have unbroken : gone.getLast?.any isWord = false := by
        cases gone with
        | nil => rfl
        | cons d gone =>
          rw [List.getLast?_append, List.getLast?_cons_cons, List.getLast?_cons,
            Option.some_or] at boundary
          rw [List.getLast?_cons]
          exact boundary
      have tableNamed := writes.table
      rw [table] at tableNamed
      cases tableNamed.eq_nil_of_boundary unbroken
      exact Or.inr table.symm
  · rw [begins] at schema
    cases schema.eq_nil_of_boundary boundary
    exact Or.inl (by simp [render, begins])

/-- What a replaced reference uncovers can be seen in its path and the text behind it. -/
theorem uncovers_warehouse_iff (before : Option Char) (text : List Char) :
    warehouse.Uncovers .warehouse before text ↔
      ∃ found, warehouse.Replaces before text found ∧ found.Continues := by
  constructor
  · rintro ⟨found, passed, rest, replaced, rendered, nonempty, boundary, starts⟩
    obtain ⟨_, writes⟩ := replaced.writes
    have named : rest.head?.any isNameChar = true := by
      obtain ⟨c, tail, rfl⟩ := List.exists_cons_of_ne_nil nonempty
      have letter := warehouse.head?_of_read? starts
      exact letter
    refine ⟨found, replaced, (continues_iff writes).mpr ?_⟩
    rcases starts_of_boundary writes rendered boundary named with rfl | rfl
    · exact Or.inl (by simpa [render] using starts)
    · exact Or.inr starts
  · rintro ⟨found, replaced, continues⟩
    obtain ⟨_, writes⟩ := replaced.writes
    rcases (continues_iff writes).mp continues with reads | reads
    · exact ⟨found, [], _, replaced, rfl, by simp, rfl, by simpa using reads⟩
    · exact ⟨found, found.schema ++ ['.'], found.table, replaced, by simp [render],
        writes.table.nonempty, by simp; decide, reads⟩

/-- A text gets no longer when its references to the warehouse are replaced, and shorter if
    there is one. -/
theorem length_replaceFrom (before : Option Char) (text : List Char) :
    (warehouse.replaceFrom before text).length ≤ text.length ∧
      (warehouse.occursFrom before text = true →
        (warehouse.replaceFrom before text).length < text.length) := by
  induction before, text using Form.replaceFrom.induct warehouse with
  | case1 before =>
    rw [replaceFrom]
    refine ⟨Nat.le_refl _, fun occurs => ?_⟩
    cases (occurs : false = true)
  | case2 before c tail found read inductionHypothesis =>
    have shorter : (warehouse.replaceFrom before (c :: tail)).length < (c :: tail).length := by
      rw [warehouse.replaceFrom_of_some read]
      have writes := warehouse.read?_eq_some_iff.mp (warehouse.at?_eq_some_iff.mp read).2
      obtain ⟨behind, _⟩ := inductionHypothesis
      cases writes with
      | @intro a b written first second schema table ends =>
        obtain ⟨_, rfl⟩ := schema
        simp only [render, List.length_append, List.length_cons]
        omega
    exact ⟨Nat.le_of_lt shorter, fun _ => shorter⟩
  | case3 before c tail unread inductionHypothesis =>
    rw [warehouse.replaceFrom_of_none unread, occursFrom, unread]
    simpa using inductionHypothesis

end Form

/-- Adapting a query for the warehouse once more changes nothing exactly if the adapted query
    names no table of the warehouse. It names one exactly if a replaced reference continues:
    with its prefix taken away, its schema or its table begins another reference with the text
    that follows. -/
theorem adapted_warehouse_settled_iff (text : List Char) :
    (Backend.warehouse.adapt (Backend.warehouse.adapt text) = Backend.warehouse.adapt text ↔
        namesWarehouse (Backend.warehouse.adapt text) = false) ∧
      (namesWarehouse (Backend.warehouse.adapt text) = true ↔
        ∃ found, Form.warehouse.Replaces none text found ∧ found.Continues) := by
  constructor
  · constructor
    · intro same
      rw [Bool.eq_false_iff]
      intro named
      have shorter := (Form.length_replaceFrom none (Backend.warehouse.adapt text)).2 named
      have unchanged : Form.warehouse.replaceFrom none (Backend.warehouse.adapt text) =
          Backend.warehouse.adapt text := same
      rw [unchanged] at shorter
      exact Nat.lt_irrefl _ shorter
    · exact Form.warehouse.replace_of_not_occurs
  · rw [← Form.uncovers_warehouse_iff]
    constructor
    · intro named
      have noPath : Form.warehouse.MakesNoPath .warehouse :=
        Form.warehouse.makesNoPath_of_plain rfl
      rcases noPath.occursFrom_replaceFrom (Or.inl rfl) named with uncovers | ⟨differ, _⟩
      · exact uncovers
      · exact absurd rfl differ
    · intro uncovers
      exact uncovers.occursFrom_replaceFrom (Or.inl rfl)

/-- A schema called like the prefix is read as one when its own prefix has been taken away. -/
theorem adapted_warehouse_uncovers :
    Backend.warehouse.adapt (Backend.warehouse.adapt "rs.rs.a.b".toList) ≠
        Backend.warehouse.adapt "rs.rs.a.b".toList ∧
      namesWarehouse (Backend.warehouse.adapt "rs.rs.a.b".toList) = true := by
  have read : Form.warehouse.at? none "rs.rs.a.b".toList =
      some ⟨"rs".toList, "a".toList, ".b".toList⟩ := by decide
  have once : Backend.warehouse.adapt "rs.rs.a.b".toList = "rs.a.b".toList := by
    rw [Backend.adapt, Form.replace, Form.warehouse.replaceFrom_of_some read,
      Form.warehouse.replaceFrom_of_not_occurs (by decide)]
    rfl
  have readAgain : Form.warehouse.at? none "rs.a.b".toList =
      some ⟨"a".toList, "b".toList, []⟩ := by decide
  have twice : Backend.warehouse.adapt "rs.a.b".toList = "a.b".toList := by
    rw [Backend.adapt, Form.replace, Form.warehouse.replaceFrom_of_some readAgain,
      Form.warehouse.replaceFrom_of_not_occurs (by decide)]
    rfl
  rw [once, twice]
  decide

end Reference

end SqlGateway
