import SqlGateway.Text.Blank
import SqlGateway.Text.CaseFold
import SqlGateway.Text.Word

/-!
# Conditions

The WHERE text of a cross-source join is split at every AND between blanks, and each
piece goes to the side whose alias it mentions. The split is textual: parentheses, OR
and BETWEEN are not understood. A piece that mentions both sides goes left.
-/

namespace SqlGateway.Condition

open Text

/-- What follows an alias and its point at the start of a text. -/
def afterQualifier? : (qualifier : List Char) → List Char → Option (List Char)
  | [], '.' :: rest => some rest
  | a :: qualifier, c :: rest => if sameLetter a c then afterQualifier? qualifier rest else none
  | _, _ => none

/-- What follows the qualifier of an alias at a place of a text, given the character
    before. A qualifier starts at a word boundary. -/
def qualifierAt? (qualifier : List Char) (before : Option Char) (text : List Char) :
    Option (List Char) :=
  if isBoundary before text.head? then afterQualifier? qualifier text else none

/-- A qualifier leaves a shorter text. -/
theorem afterQualifier?_length {qualifier text rest : List Char}
    (read : afterQualifier? qualifier text = some rest) : rest.length < text.length := by
  fun_induction afterQualifier? qualifier text with
  | case1 => cases read; simp
  | case2 _ _ _ _ _ ih =>
    have := ih read
    simp only [List.length_cons]
    omega
  | case3 => cases read
  | case4 => cases read

/-- A qualifier found at a place leaves a shorter text. -/
theorem qualifierAt?_length {qualifier text rest : List Char} {before : Option Char}
    (read : qualifierAt? qualifier before text = some rest) : rest.length < text.length := by
  unfold qualifierAt? at read
  split at read
  · exact afterQualifier?_length read
  · cases read

/-- Whether a text mentions the alias, followed by a point. -/
def mentionsFrom (qualifier : List Char) (before : Option Char) : List Char → Bool
  | [] => false
  | c :: rest =>
      (qualifierAt? qualifier before (c :: rest)).isSome || mentionsFrom qualifier (some c) rest

/-- Whether a text mentions the alias, followed by a point. -/
def mentions (qualifier text : List Char) : Bool :=
  mentionsFrom qualifier none text

/-- The text without the qualifiers of the alias. Boundaries are judged in the text as
    it was, so a removal does not create a new qualifier. -/
def withoutQualifierFrom (qualifier : List Char) (before : Option Char) (text : List Char) :
    List Char :=
  match text with
  | [] => []
  | c :: rest =>
      match _read : qualifierAt? qualifier before (c :: rest) with
      | some after => withoutQualifierFrom qualifier (some '.') after
      | none => c :: withoutQualifierFrom qualifier (some c) rest
termination_by text.length
decreasing_by
  · exact qualifierAt?_length (by assumption)
  · simp

/-- The text without the qualifiers of the alias. -/
def withoutQualifier (qualifier text : List Char) : List Char :=
  withoutQualifierFrom qualifier none text

/-- What follows an AND between blanks at the start of a text. All blanks around the
    word belong to it. -/
def afterAnd? : List Char → Option (List Char)
  | [] => none
  | c :: rest =>
      if isBlank c then
        match rest.dropWhile isBlank with
        | a :: n :: d :: after =>
            if fold a = 'a' ∧ fold n = 'n' ∧ fold d = 'd' ∧ after.head?.any isBlank then
              some (after.dropWhile isBlank)
            else none
        | _ => none
      else none

/-- Skipping characters does not lengthen a text. -/
theorem length_dropWhile_le {α : Type} (skipped : α → Bool) (text : List α) :
    (text.dropWhile skipped).length ≤ text.length := by
  induction text with
  | nil => exact Nat.le_refl 0
  | cons c rest ih =>
    rw [List.dropWhile_cons]
    split
    · exact Nat.le_succ_of_le ih
    · exact Nat.le_refl _

/-- A separator leaves a shorter text. -/
theorem afterAnd?_length {text after : List Char} (read : afterAnd? text = some after) :
    after.length < text.length := by
  unfold afterAnd? at read
  split at read
  · cases read
  · next c rest =>
    split at read
    · split at read
      · next a n d behind skipped =>
        split at read <;> cases read
        have := length_dropWhile_le isBlank rest
        have := length_dropWhile_le isBlank behind
        rw [skipped] at *
        simp only [List.length_cons] at *
        omega
      · cases read
    · cases read

/-- The pieces between the separators: the first one and the others. -/
def pieces (text : List Char) : List Char × List (List Char) :=
  match text with
  | [] => ([], [])
  | c :: rest =>
      match _read : afterAnd? (c :: rest) with
      | some after =>
          let later := pieces after
          ([], later.1 :: later.2)
      | none =>
          let later := pieces rest
          (c :: later.1, later.2)
termination_by text.length
decreasing_by
  · exact afterAnd?_length (by assumption)
  · simp

/-- The conditions that a WHERE text joins by AND, without blanks at their ends. -/
def conjuncts (text : List Char) : List (List Char) :=
  let all := pieces (trim text)
  ((all.1 :: all.2).map trim).filter (!·.isEmpty)

/-- The side to which a condition goes. -/
inductive Side where
  | left
  | right
  | neither
  deriving DecidableEq, Repr

/-- A condition goes to the side whose alias it mentions, left before right. -/
def side (leftAlias rightAlias conjunct : List Char) : Side :=
  if mentions leftAlias conjunct then .left
  else if mentions rightAlias conjunct then .right
  else .neither

/-- The conditions of a WHERE text by side. -/
structure Split where
  /-- Conditions for the left side, without the qualifiers of its alias. -/
  left : List (List Char) := []
  /-- Conditions for the right side, without the qualifiers of its alias. -/
  right : List (List Char) := []
  /-- Conditions that mention neither side, as they were written. -/
  dropped : List (List Char) := []
  deriving DecidableEq, Repr

/-- One more condition, in front of those already split. -/
def Split.add (leftAlias rightAlias conjunct : List Char) (split : Split) : Split :=
  match side leftAlias rightAlias conjunct with
  | .left => { split with left := withoutQualifier leftAlias conjunct :: split.left }
  | .right => { split with right := withoutQualifier rightAlias conjunct :: split.right }
  | .neither => { split with dropped := conjunct :: split.dropped }

/-- Every condition of a WHERE text on its side, in written order. -/
def split (leftAlias rightAlias text : List Char) : Split :=
  (conjuncts text).foldr (Split.add leftAlias rightAlias) {}

/-- The split of a text in which every condition must mention a side; otherwise the
    first condition that mentions neither. -/
def splitStrict (leftAlias rightAlias text : List Char) : Except (List Char) Split :=
  let all := split leftAlias rightAlias text
  match all.dropped with
  | [] => .ok all
  | conjunct :: _ => .error conjunct

end SqlGateway.Condition
