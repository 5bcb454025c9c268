import SqlGateway.Reference

/-!
# Passes through a text

A pass goes through a text from left to right, writes every reference that it finds once and copies
all other characters. What it finds at a place is up to a finder, and what it writes for a
reference up to its caller.

There are two finders for the transactional server, whose references have two forms. One takes the
leftmost reference first. The other one passes over a plain reference whose table begins a reference
with brackets: only there can references of the two forms overlap.
-/

namespace SqlGateway.Reference

/-- A way to look for references: the one at a place of a text, given the character before. -/
structure Finder where
  /-- The reference at a place, with its form. -/
  at? : Option Char → List Char → Option (Form × Found)
  /-- A reference leaves a shorter text. -/
  shorter : ∀ {before text form found}, at? before text = some (form, found) →
    found.rest.length < text.length

/-- A piece of a text: a reference, or a character outside of references. -/
inductive Piece where
  | reference (form : Form) (found : Found)
  | other (c : Char)
  deriving DecidableEq, Repr

/-- A piece is written: something is put for a reference, and another character is copied. -/
def Piece.write (put : Form → Found → List Char) : Piece → List Char
  | reference form found => put form found
  | other c => [c]

namespace Finder

/-- The pieces of a text from left to right. The search goes on behind a reference. -/
def piecesFrom (finder : Finder) (before : Option Char) (text : List Char) : List Piece :=
  match text with
  | [] => []
  | c :: rest =>
      match _found : finder.at? before (c :: rest) with
      | some (form, found) =>
          .reference form found :: finder.piecesFrom found.table.getLast? found.rest
      | none => .other c :: finder.piecesFrom (some c) rest
termination_by text.length
decreasing_by
  · exact finder.shorter (by assumption)
  · simp

/-- One pass through a text: its pieces are written one after the other. -/
def passFrom (finder : Finder) (put : Form → Found → List Char) (before : Option Char)
    (text : List Char) : List Char :=
  (finder.piecesFrom before text).flatMap (Piece.write put)

/-- One pass through a whole text. -/
def pass (finder : Finder) (put : Form → Found → List Char) (text : List Char) : List Char :=
  finder.passFrom put none text

end Finder

/-- The leftmost reference to the transactional server comes first, whatever its form. No place
    has references of both forms. -/
def leftmost : Finder where
  at? before text :=
    ((Form.bracketed.at? before text).map (Form.bracketed, ·)).or
      ((Form.plain.at? before text).map (Form.plain, ·))
  shorter read := by
    rcases Option.or_eq_some_iff.mp read with read | ⟨_, read⟩
    · obtain ⟨_, read, same⟩ := Option.map_eq_some_iff.mp read
      cases same
      exact Form.at?_length read
    · obtain ⟨_, read, same⟩ := Option.map_eq_some_iff.mp read
      cases same
      exact Form.at?_length read

/-- The table of a reference begins a reference with brackets. -/
def Found.opens (found : Found) : Bool :=
  (Form.bracketed.at? (some '.') (found.table ++ found.rest)).isSome

/-- A reference with brackets goes before a plain one that ends within it. -/
def bracketsFirst : Finder where
  at? before text := (leftmost.at? before text).filter fun (form, found) =>
    form == .bracketed || !found.opens
  shorter read := leftmost.shorter (Option.filter_eq_some_iff.mp read).1

/-- A reference as the transactional server understands it, with its schema as it is. -/
def schemaKept (form : Form) (found : Found) : List Char :=
  form.render found.schema found.table

/-- A reference as the transactional server understands it, with the plain references in its
    schema replaced in turn. -/
def schemaAdapted (form : Form) (found : Found) : List Char :=
  form.render (Form.plain.replace found.schema) found.table

namespace Finder

variable (finder : Finder) (put : Form → Found → List Char)

/-- There is no reference behind the end of a text. -/
theorem at?_nil (before : Option Char) : finder.at? before [] = none := by
  rw [Option.eq_none_iff_forall_not_mem]
  rintro ⟨form, found⟩ read
  exact Nat.not_lt_zero _ (finder.shorter read)

/-- The first piece of a text is the reference that is found at its start. -/
theorem piecesFrom_of_some {before : Option Char} {text : List Char} {form : Form} {found : Found}
    (read : finder.at? before text = some (form, found)) :
    finder.piecesFrom before text =
      .reference form found :: finder.piecesFrom found.table.getLast? found.rest := by
  cases text with
  | nil => cases (finder.at?_nil before).symm.trans read
  | cons c rest =>
    rw [piecesFrom]
    split
    · next _ _ same =>
      cases same.symm.trans read
      rfl
    · next unread => cases unread.symm.trans read

/-- A character that starts no reference is a piece of its own. -/
theorem piecesFrom_of_none {before : Option Char} {c : Char} {rest : List Char}
    (unread : finder.at? before (c :: rest) = none) :
    finder.piecesFrom before (c :: rest) = .other c :: finder.piecesFrom (some c) rest := by
  rw [piecesFrom]
  split
  · next same => cases unread.symm.trans same
  · rfl

/-- Nothing comes out where nothing was. -/
theorem passFrom_nil (before : Option Char) : finder.passFrom put before [] = [] := by
  rw [passFrom, piecesFrom]
  rfl

/-- What is put for a reference comes out, and the pass goes on behind it. -/
theorem passFrom_of_some {before : Option Char} {text : List Char} {form : Form} {found : Found}
    (read : finder.at? before text = some (form, found)) :
    finder.passFrom put before text =
      put form found ++ finder.passFrom put found.table.getLast? found.rest := by
  rw [passFrom, finder.piecesFrom_of_some read, List.flatMap_cons]
  rfl

/-- A character that starts no reference comes out as it is. -/
theorem passFrom_of_none {before : Option Char} {c : Char} {rest : List Char}
    (unread : finder.at? before (c :: rest) = none) :
    finder.passFrom put before (c :: rest) = c :: finder.passFrom put (some c) rest := by
  rw [passFrom, finder.piecesFrom_of_none unread, List.flatMap_cons]
  rfl

end Finder

/-- What is found leftmost is a reference with brackets, or else a plain one. -/
theorem leftmost_eq_some_iff {before : Option Char} {text : List Char} {form : Form}
    {found : Found} :
    leftmost.at? before text = some (form, found) ↔
      (form = .bracketed ∧ Form.bracketed.at? before text = some found) ∨
        (form = .plain ∧ Form.bracketed.at? before text = none ∧
          Form.plain.at? before text = some found) := by
  simp only [leftmost, Option.or_eq_some_iff, Option.map_eq_some_iff, Option.map_eq_none_iff,
    Prod.mk.injEq]
  constructor
  · rintro (⟨_, read, rfl, rfl⟩ | ⟨unread, _, read, rfl, rfl⟩)
    · exact Or.inl ⟨rfl, read⟩
    · exact Or.inr ⟨rfl, unread, read⟩
  · rintro (⟨rfl, read⟩ | ⟨rfl, unread, read⟩)
    · exact Or.inl ⟨found, read, rfl, rfl⟩
    · exact Or.inr ⟨unread, found, read, rfl, rfl⟩

/-- A plain reference is passed over if its table begins a reference with brackets. -/
theorem bracketsFirst_eq_some_iff {before : Option Char} {text : List Char} {form : Form}
    {found : Found} :
    bracketsFirst.at? before text = some (form, found) ↔
      leftmost.at? before text = some (form, found) ∧ (form = .plain → found.opens = false) := by
  simp only [bracketsFirst, Option.filter_eq_some_iff]
  refine and_congr_right fun read => ?_
  rcases leftmost_eq_some_iff.mp read with ⟨rfl, _⟩ | ⟨rfl, _⟩
  · simp
  · simp

/-- Where nothing is found there is no reference at all, or one that is passed over. -/
theorem bracketsFirst_eq_none_iff {before : Option Char} {text : List Char} :
    bracketsFirst.at? before text = none ↔
      Form.bracketed.at? before text = none ∧
        ∀ found, Form.plain.at? before text = some found → found.opens = true := by
  simp only [bracketsFirst, Option.filter_eq_none_iff, Bool.not_eq_true]
  constructor
  · intro none
    have unread : Form.bracketed.at? before text = .none := by
      rw [Option.eq_none_iff_forall_not_mem]
      intro found read
      cases none _ (leftmost_eq_some_iff.mpr (Or.inl ⟨rfl, read⟩))
    refine ⟨unread, fun found read => ?_⟩
    simpa using none _ (leftmost_eq_some_iff.mpr (Or.inr ⟨rfl, unread, read⟩))
  · rintro ⟨unread, opens⟩ ⟨form, found⟩ read
    rcases leftmost_eq_some_iff.mp read with ⟨_, read⟩ | ⟨rfl, _, read⟩
    · cases unread.symm.trans read
    · simp [opens found read]

end SqlGateway.Reference
