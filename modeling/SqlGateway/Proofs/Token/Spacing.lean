import Mathlib.Data.List.Forall2
import SqlGateway.Proofs.Reference.Blanks
import SqlGateway.Proofs.Token.Layout

/-!
# Tokens of a text that is spaced anew

Blanks separate tokens, and it does not matter which and how many of them stand between two
tokens or behind the last one. A text in which every run of blanks is unified has the same
tokens, and so has one without the blanks at its ends. Only inside a string or a delimited
name blanks are part of a token, and there they are unified as well.
-/

namespace SqlGateway.Token

open Text Reference

/-- A blank is none of the other characters. -/
theorem ne_of_isBlank {c other : Char} (blank : isBlank c = true)
    (visible : isBlank other = false) : c ≠ other := by
  rintro rfl
  rw [blank] at visible
  cases visible

/-- No blank is a digit. -/
theorem isDigit_of_isBlank {c : Char} (blank : isBlank c = true) : isDigit c = false := by
  simpa using mt isBlank_of_isDigit (by simp [blank])

/-- No blank is part of a plain name. -/
theorem isWordPart_of_isBlank {c : Char} (blank : isBlank c = true) : isWordPart c = false := by
  simpa using mt isBlank_of_isWordPart (by simp [blank])

/-- There is no plain name if a blank or nothing is behind the digits. -/
theorem wordExtent?_of_atBlank {text : List Char} (atBlank : AtBlank (text.dropWhile isDigit)) :
    wordExtent? text = none := by
  rw [wordExtent?]
  split
  · next c rest behind =>
    have part := isWordPart_of_isBlank (atBlank c (by rw [behind]; rfl))
    have starts : isWordStart c = false := by
      simpa using mt isWordPart_of_isWordStart (by simp [part])
    rw [starts, if_neg Bool.false_ne_true]
  · rfl

/-- There is no fraction if a blank or nothing is behind the digits. -/
theorem numberExtent?_of_atBlank {text : List Char} (atBlank : AtBlank (text.dropWhile isDigit)) :
    numberExtent? text =
      if (text.takeWhile isDigit).length = 0 then none
      else some (text.takeWhile isDigit).length := by
  simp only [numberExtent?]
  split
  · rfl
  · split
    · next rest behind =>
      exact absurd (atBlank '.' (by rw [behind]; rfl)) (by decide)
    · rfl

/-- A way to write the blanks of a text anew. -/
structure Spacing where
  /-- What stands for a blank. The flag says that another blank stands just before. -/
  write : Bool → Char → List Char
  /-- What is put behind the text. -/
  ending : List Char
  /-- Only blanks are written for a blank. -/
  blankWritten : ∀ inRun c, ∀ d ∈ write inRun c, isBlank d = true
  /-- A run of blanks does not vanish. -/
  keepsApart : ∀ c, write false c ≠ []
  /-- Only blanks are put behind the text. -/
  blankEnding : ∀ d ∈ ending, isBlank d = true

namespace Spacing

/-- The text with its blanks written anew. -/
def apply (spacing : Spacing) (inRun : Bool) : List Char → List Char
  | [] => spacing.ending
  | c :: rest =>
      if isBlank c then spacing.write inRun c ++ spacing.apply true rest
      else c :: spacing.apply false rest

/-- The same way inside a text, with nothing behind it. -/
def inside (spacing : Spacing) : Spacing :=
  { spacing with ending := [], blankEnding := nofun }

/-- Every run of blanks becomes one space. -/
def unified : Spacing where
  write inRun _ := if inRun then [] else [' ']
  ending := []
  blankWritten inRun _ d member := by
    cases inRun with
    | true => cases member
    | false =>
      cases List.mem_singleton.mp member
      decide
  keepsApart _ := List.cons_ne_nil _ _
  blankEnding := nofun

/-- Blanks are put behind the text. -/
def followedBy (gap : List Char) (blank : ∀ c ∈ gap, isBlank c = true) : Spacing where
  write _ c := if isBlank c then [c] else [' ']
  ending := gap
  blankWritten _ c := by
    intro d member
    split at member
    · next same => rwa [List.mem_singleton.mp member]
    · rw [List.mem_singleton.mp member]
      decide
  keepsApart c := by split <;> exact List.cons_ne_nil _ _
  blankEnding := blank

variable (spacing : Spacing)

/-- Inside a text blanks are written the same. -/
@[simp]
theorem inside_write : spacing.inside.write = spacing.write := rfl

/-- Nothing is put behind what is inside a text. -/
@[simp]
theorem inside_apply_nil (inRun : Bool) : spacing.inside.apply inRun [] = [] := rfl

/-- A blank is written anew. -/
theorem apply_blank (inRun : Bool) {c : Char} (blank : isBlank c = true) (rest : List Char) :
    spacing.apply inRun (c :: rest) = spacing.write inRun c ++ spacing.apply true rest := by
  rw [apply, if_pos blank]

/-- What is no blank is copied. -/
theorem apply_visible (inRun : Bool) {c : Char} (visible : isBlank c = false) (rest : List Char) :
    spacing.apply inRun (c :: rest) = c :: spacing.apply false rest := by
  rw [apply, visible, if_neg Bool.false_ne_true]

/-- What is before a character that is no blank, and what is behind it, is spaced anew. -/
theorem apply_append (inRun : Bool) {c : Char} (visible : isBlank c = false)
    (before after : List Char) :
    spacing.apply inRun (before ++ c :: after) =
      spacing.inside.apply inRun before ++ c :: spacing.apply false after := by
  induction before generalizing inRun with
  | nil => exact spacing.apply_visible inRun visible after
  | cons d rest inductionHypothesis =>
    cases blank : isBlank d with
    | true =>
      rw [List.cons_append, spacing.apply_blank inRun blank, spacing.inside.apply_blank inRun blank,
        inductionHypothesis, List.append_assoc]
      rfl
    | false =>
      rw [List.cons_append, spacing.apply_visible inRun blank,
        spacing.inside.apply_visible inRun blank, inductionHypothesis, List.cons_append]

/-- A text without blanks stays as it is. -/
theorem inside_apply_of_solid {text : List Char} (solid : ∀ c ∈ text, isBlank c = false)
    (inRun : Bool) : spacing.inside.apply inRun text = text := by
  induction text generalizing inRun with
  | nil => rfl
  | cons c rest inductionHypothesis =>
    rw [spacing.inside.apply_visible inRun (solid c List.mem_cons_self),
      inductionHypothesis (fun d member => solid d (List.mem_cons_of_mem c member))]

/-- Where a text comes to a blank or to its end, it still does. -/
theorem atBlank_apply {text : List Char} (atBlank : AtBlank text) :
    AtBlank (spacing.apply false text) := by
  intro d first
  cases text with
  | nil => exact spacing.blankEnding d (List.mem_of_head? first)
  | cons c rest =>
    rw [spacing.apply_blank false (atBlank c rfl)] at first
    obtain ⟨e, others, written⟩ := List.exists_cons_of_ne_nil (spacing.keepsApart c)
    rw [written] at first
    cases first
    exact spacing.blankWritten false c d (written ▸ List.mem_cons_self)

/-- Runs of characters that are no blanks are copied. -/
theorem span_apply {belongs : Char → Bool} (solid : ∀ c, isBlank c = true → belongs c = false)
    (text : List Char) :
    (spacing.apply false text).takeWhile belongs = text.takeWhile belongs ∧
      (spacing.apply false text).dropWhile belongs =
        spacing.apply false (text.dropWhile belongs) := by
  have stops : ∀ {text : List Char}, AtBlank text →
      text.takeWhile belongs = [] ∧ text.dropWhile belongs = text := by
    intro text atBlank
    cases text with
    | nil => exact ⟨rfl, rfl⟩
    | cons c rest => simp [solid c (atBlank c rfl)]
  induction text with
  | nil =>
    have ended := stops (@atBlank_apply spacing [] nofun)
    exact ⟨ended.1, ended.2⟩
  | cons c rest inductionHypothesis =>
    rcases atBlank_or_cons (c :: rest) with atBlank | ⟨d, others, same, visible⟩
    · have one := stops atBlank
      have other := stops (spacing.atBlank_apply atBlank)
      rw [one.1, one.2, other.1, other.2]
      exact ⟨rfl, rfl⟩
    · cases same
      rw [spacing.apply_visible false visible]
      cases inClass : belongs c with
      | true => simp [inClass, inductionHypothesis]
      | false => simp [inClass, spacing.apply_visible false visible]

/-- The first character that is no blank stays the first one. -/
theorem head?_apply {c : Char} (visible : isBlank c = false) (text : List Char) :
    (spacing.apply false text).head? = some c ↔ text.head? = some c := by
  rcases atBlank_or_cons text with atBlank | ⟨d, others, rfl, plain⟩
  · have absent : ∀ {text : List Char}, AtBlank text → text.head? ≠ some c := by
      intro text atBlank first
      exact ne_of_isBlank (atBlank c first) visible rfl
    exact iff_of_false (absent (spacing.atBlank_apply atBlank)) (absent atBlank)
  · rw [spacing.apply_visible false plain, List.head?_cons, List.head?_cons]

/-- Blanks before a text only move the end of the string. -/
theorem stringExtent?_append {gap : List Char} (blank : ∀ c ∈ gap, isBlank c = true)
    (text : List Char) :
    stringExtent? (gap ++ text) = (stringExtent? text).map (gap.length + ·) := by
  induction gap with
  | nil => simp
  | cons c rest inductionHypothesis =>
    have other : c ≠ '\'' := ne_of_isBlank (blank c List.mem_cons_self) (by decide)
    have later := inductionHypothesis fun d member => blank d (List.mem_cons_of_mem c member)
    rw [List.cons_append, stringExtent?, later, Option.map_map]
    · congr 1
      funext extent
      simp only [Function.comp_apply, List.length_cons]
      omega
    · exact fun _ same => absurd same other
    · exact other

/-- A quote behind which there is no other one closes a string. -/
theorem stringExtent?_of_single {text : List Char} (single : text.head? ≠ some '\'') :
    stringExtent? ('\'' :: text) = some 1 := by
  rw [stringExtent?]
  rintro rest rfl
  exact single rfl

/-- A text without quotes closes no string. -/
theorem stringExtent?_of_absent {text : List Char} (absent : '\'' ∉ text) :
    stringExtent? text = none := by
  cases read : stringExtent? text with
  | none => rfl
  | some extent =>
    obtain ⟨body, after, rfl, _⟩ := stringExtent?_eq_some read
    exact absurd (by simp) absent

/-- A string that is spaced anew ends where it did. The induction follows the search for its
    closing quote. -/
theorem stringExtent?_apply (inRun : Bool) (text : List Char) :
    stringExtent? (spacing.apply inRun text) =
      (stringExtent? text).map fun extent =>
        (spacing.inside.apply inRun (text.take extent)).length := by
  have quote : isBlank '\'' = false := by decide
  fun_induction stringExtent? text generalizing inRun with
  | case1 rest extent found inductionHypothesis =>
    rw [spacing.apply_visible inRun quote, spacing.apply_visible false quote, stringExtent?,
      inductionHypothesis, found]
    simp [spacing.inside.apply_visible _ quote]
  | case2 rest unclosed inductionHypothesis =>
    rw [spacing.apply_visible inRun quote, spacing.apply_visible false quote, stringExtent?,
      inductionHypothesis, unclosed]
    simp [spacing.inside.apply_visible _ quote]
  | case3 rest single =>
    have alone : rest.head? ≠ some '\'' := by
      intro first
      obtain ⟨others, rfl⟩ := List.head?_eq_some_iff.mp first
      exact single others rfl
    rw [spacing.apply_visible inRun quote,
      stringExtent?_of_single (mt (spacing.head?_apply quote rest).mp alone)]
    simp [spacing.inside.apply_visible _ quote]
  | case4 c rest _ other inductionHypothesis =>
    cases blank : isBlank c with
    | true =>
      rw [spacing.apply_blank inRun blank,
        stringExtent?_append (spacing.blankWritten inRun c), inductionHypothesis, Option.map_map,
        Option.map_map]
      congr 1
      funext extent
      simp [spacing.inside.apply_blank inRun blank]
    | false =>
      rw [spacing.apply_visible inRun blank, stringExtent?, inductionHypothesis, Option.map_map,
        Option.map_map]
      · congr 1
        funext extent
        simp [spacing.inside.apply_visible inRun blank]
      · exact fun _ same => absurd same other
      · exact other
  | case5 =>
    rw [Option.map_none]
    apply stringExtent?_of_absent
    intro member
    exact ne_of_isBlank (spacing.blankEnding '\'' member) quote rfl

/-- A delimiter is the first character or stands behind it. -/
theorem closeExtent?_cons (mark c : Char) (rest : List Char) :
    closeExtent? mark (c :: rest) =
      if c = mark then some 1 else (closeExtent? mark rest).map (· + 1) := by
  by_cases same : c = mark
  · simp [closeExtent?, List.idxOf?_cons, same]
  · simp [closeExtent?, List.idxOf?_cons, same]

/-- Blanks before a text only move a delimiter. -/
theorem closeExtent?_append {mark : Char} (visible : isBlank mark = false) {gap : List Char}
    (blank : ∀ c ∈ gap, isBlank c = true) (text : List Char) :
    closeExtent? mark (gap ++ text) = (closeExtent? mark text).map (gap.length + ·) := by
  induction gap with
  | nil => simp
  | cons c rest inductionHypothesis =>
    have other : c ≠ mark := ne_of_isBlank (blank c List.mem_cons_self) visible
    rw [List.cons_append, closeExtent?_cons, if_neg other,
      inductionHypothesis fun d member => blank d (List.mem_cons_of_mem c member), Option.map_map]
    congr 1
    funext extent
    simp only [Function.comp_apply, List.length_cons]
    omega

/-- A delimiter that is no blank stays where it is in a text that is spaced anew. -/
theorem closeExtent?_apply {mark : Char} (visible : isBlank mark = false) (inRun : Bool)
    (text : List Char) :
    closeExtent? mark (spacing.apply inRun text) =
      (closeExtent? mark text).map fun extent =>
        (spacing.inside.apply inRun (text.take extent)).length := by
  induction text generalizing inRun with
  | nil =>
    have none := closeExtent?_append visible spacing.blankEnding []
    rw [List.append_nil] at none
    exact none
  | cons c rest inductionHypothesis =>
    cases blank : isBlank c with
    | true =>
      have other : c ≠ mark := ne_of_isBlank blank visible
      rw [spacing.apply_blank inRun blank,
        closeExtent?_append visible (spacing.blankWritten inRun c), inductionHypothesis,
        closeExtent?_cons, if_neg other, Option.map_map, Option.map_map]
      congr 1
      funext extent
      simp [spacing.inside.apply_blank inRun blank]
    | false =>
      rw [spacing.apply_visible inRun blank, closeExtent?_cons, closeExtent?_cons,
        inductionHypothesis]
      split
      · simp [spacing.inside.apply_visible inRun blank]
      · rw [Option.map_map, Option.map_map]
        congr 1
        funext extent
        simp [spacing.inside.apply_visible inRun blank]

/-- A plain name is read from the text that is spaced anew as well. -/
theorem wordExtent?_apply (text : List Char) :
    wordExtent? (spacing.apply false text) = wordExtent? text := by
  have digits := spacing.span_apply (fun _ => isDigit_of_isBlank) text
  rcases atBlank_or_cons (text.dropWhile isDigit) with atBlank | ⟨c, rest, behind, visible⟩
  · rw [wordExtent?_of_atBlank atBlank, wordExtent?_of_atBlank]
    rw [digits.2]
    exact spacing.atBlank_apply atBlank
  · have parts := spacing.span_apply (fun _ => isWordPart_of_isBlank) rest
    simp only [wordExtent?, digits, behind, spacing.apply_visible false visible, parts]

/-- A number is read from the text that is spaced anew as well. -/
theorem numberExtent?_apply (text : List Char) :
    numberExtent? (spacing.apply false text) = numberExtent? text := by
  have digits := spacing.span_apply (fun _ => isDigit_of_isBlank) text
  rcases atBlank_or_cons (text.dropWhile isDigit) with atBlank | ⟨c, rest, behind, visible⟩
  · rw [numberExtent?_of_atBlank atBlank, numberExtent?_of_atBlank, digits.1]
    rw [digits.2]
    exact spacing.atBlank_apply atBlank
  · have fraction := spacing.span_apply (fun _ => isDigit_of_isBlank) rest
    simp only [numberExtent?, digits, behind, spacing.apply_visible false visible]
    by_cases point : c = '.'
    · subst point
      simp only [fraction]
    · simp [point]

/-- What a text begins with, if it has no blanks, the text begins with when it is spaced
    anew. -/
theorem isPrefixOf_apply {unit : List Char} (solid : ∀ c ∈ unit, isBlank c = false)
    (text : List Char) : unit.isPrefixOf (spacing.apply false text) = unit.isPrefixOf text := by
  induction unit generalizing text with
  | nil => simp
  | cons c others inductionHypothesis =>
    have visible := solid c List.mem_cons_self
    have absent : ∀ {text : List Char}, AtBlank text → (c :: others).isPrefixOf text = false := by
      intro text atBlank
      cases text with
      | nil => rfl
      | cons d rest =>
        have other : c ≠ d := (ne_of_isBlank (atBlank d rfl) visible).symm
        simp [List.isPrefixOf, other]
    rcases atBlank_or_cons text with atBlank | ⟨d, rest, rfl, plain⟩
    · rw [absent atBlank, absent (spacing.atBlank_apply atBlank)]
    · rw [spacing.apply_visible false plain, List.isPrefixOf, List.isPrefixOf,
        inductionHypothesis fun e member => solid e (List.mem_cons_of_mem c member)]

/-- An operator is read from the text that is spaced anew as well. -/
theorem operatorExtent?_apply {c : Char} (visible : isBlank c = false) (rest : List Char) :
    operatorExtent? (spacing.apply false (c :: rest)) = operatorExtent? (c :: rest) := by
  have long : longOperators.any (·.isPrefixOf (spacing.apply false (c :: rest))) =
      longOperators.any (·.isPrefixOf (c :: rest)) := by
    rw [Bool.eq_iff_iff, List.any_eq_true, List.any_eq_true]
    refine exists_congr fun unit => and_congr_right fun listed => ?_
    have spells : Kind.operator.Spells unit := Or.inl listed
    rw [spacing.isPrefixOf_apply (spells.solid rfl).2]
  rw [operatorExtent?, operatorExtent?, long, spacing.apply_visible false visible]
  rfl

/-- A unit between delimiters is read from the text that is spaced anew as well. -/
theorem delimited_apply (c : Char) (rest : List Char) :
    lexeme.delimited c (spacing.apply false rest) =
      (lexeme.delimited c rest).map
        (Prod.map id fun extent => (spacing.inside.apply false (rest.take extent)).length) := by
  unfold lexeme.delimited
  split
  · rw [spacing.stringExtent?_apply, Option.map_map, Option.map_map]
    rfl
  · rw [spacing.closeExtent?_apply (by decide), Option.map_map, Option.map_map]
    rfl
  · rw [spacing.closeExtent?_apply (by decide), Option.map_map, Option.map_map]
    rfl
  · rfl

/-- A unit without delimiters is as long as it was. -/
theorem length_apply_take {kind : Kind} (plain : kind.isDelimited = false)
    {text unit after : List Char} (whole : text = unit ++ after) (spells : kind.Spells unit) :
    (spacing.inside.apply false (text.take unit.length)).length = unit.length := by
  rw [whole, List.take_left, spacing.inside_apply_of_solid (spells.solid plain).2]

/-- At a character that is no blank a unit of the same kind is read from the text that is
    spaced anew. It is as long as the unit becomes. -/
theorem lexeme_apply {c : Char} (visible : isBlank c = false) (rest : List Char) :
    lexeme c (spacing.apply false rest) =
      ((lexeme c rest).1,
        (spacing.inside.apply false ((c :: rest).take (lexeme c rest).2)).length) := by
  have copied := spacing.apply_visible false visible rest
  simp only [lexeme, visible, Bool.false_eq_true, if_false, spacing.delimited_apply, ← copied,
    spacing.wordExtent?_apply, spacing.numberExtent?_apply, spacing.operatorExtent?_apply visible]
  cases lexeme.delimited c rest with
  | some unit => simp [Nat.add_comm 1, spacing.inside.apply_visible false visible]
  | none =>
    simp only [Option.map_none]
    cases word : wordExtent? (c :: rest) with
    | some extent =>
      obtain ⟨unit, after, whole, rfl, reads⟩ := wordExtent?_eq_some word
      simp only [spacing.length_apply_take (by rfl) whole reads.spells]
    | none =>
      cases number : numberExtent? (c :: rest) with
      | some extent =>
        obtain ⟨unit, after, whole, rfl, spells⟩ := numberExtent?_eq_some number
        simp only [spacing.length_apply_take (by rfl) whole spells]
      | none =>
        cases operator : operatorExtent? (c :: rest) with
        | some extent =>
          obtain ⟨unit, after, whole, rfl, spells⟩ := operatorExtent?_eq_some operator
          simp only [spacing.length_apply_take (by rfl) whole spells]
        | none => simp [spacing.inside.apply_visible false visible]

end Spacing

/-- A unit at the start of a text is its first token. -/
theorem scanFrom_of_some (start : Nat) {c : Char} {rest : List Char} {kind : Kind} {extent : Nat}
    (read : lexeme c rest = (some kind, extent)) :
    scanFrom start (c :: rest) =
      { kind, text := (c :: rest).take extent, start } ::
        scanFrom (start + extent) ((c :: rest).drop extent) := by
  rw [scanFrom.eq_def]
  simp only [read]

/-- Blanks at the start of a text are passed over. -/
theorem scanFrom_of_none (start : Nat) {c : Char} {rest : List Char} {extent : Nat}
    (read : lexeme c rest = (none, extent)) :
    scanFrom start (c :: rest) = scanFrom (start + extent) ((c :: rest).drop extent) := by
  rw [scanFrom.eq_def]
  simp only [read]

/-- The tokens of a text without their places. -/
def units (text : List Char) : List (Kind × List Char) :=
  (scan text).map fun token => (token.kind, token.text)

/-- The tokens of a text are the same wherever it begins. The induction follows the scanner. -/
theorem units_eq_scanFrom (start : Nat) (text : List Char) :
    units text = (scanFrom start text).map fun token => (token.kind, token.text) := by
  have same : ∀ other, (scanFrom start text).map (fun token => (token.kind, token.text)) =
      (scanFrom other text).map fun token => (token.kind, token.text) := by
    fun_induction scanFrom start text with
    | case1 =>
      intro other
      rw [scanFrom.eq_def other]
    | case2 start c rest unit later kind found inductionHypothesis =>
      intro other
      have read : lexeme c rest = (some kind, unit.2) := Prod.ext found rfl
      rw [scanFrom_of_some other read, List.map_cons, List.map_cons]
      exact congrArg _ (inductionHypothesis _)
    | case3 start c rest unit later found inductionHypothesis =>
      intro other
      have read : lexeme c rest = (none, unit.2) := Prod.ext found rfl
      rw [scanFrom_of_none other read]
      exact inductionHypothesis _
  exact (same 0).symm

/-- The first unit of a text is a token before those of the text behind it. -/
theorem units_of_some {c : Char} {rest : List Char} {kind : Kind} {extent : Nat}
    (read : lexeme c rest = (some kind, extent)) :
    units (c :: rest) =
      (kind, (c :: rest).take extent) :: units ((c :: rest).drop extent) := by
  rw [units, scan, scanFrom_of_some 0 read, List.map_cons, ← units_eq_scanFrom]

/-- Blanks before a text are no tokens. -/
theorem units_append {gap : List Char} (blank : ∀ c ∈ gap, isBlank c = true) (text : List Char) :
    units (gap ++ text) = units text := by
  have skipped : ∀ text, units text = units (text.dropWhile isBlank) := by
    intro text
    cases text with
    | nil => rfl
    | cons c rest =>
      cases blank : isBlank c with
      | true =>
        have read : lexeme c rest = (none, 1 + (rest.takeWhile isBlank).length) := by
          rw [lexeme, if_pos blank]
        have dropped : (c :: rest).drop (1 + (rest.takeWhile isBlank).length) =
            rest.dropWhile isBlank := by
          obtain ⟨run, after, whole, taken, remaining, _⟩ := span_eq isBlank rest
          rw [taken, remaining, Nat.add_comm, List.drop_succ_cons, whole, List.drop_left]
        rw [units, scan, scanFrom_of_none 0 read, dropped, List.dropWhile_cons_of_pos blank,
          ← units_eq_scanFrom]
      | false => rw [List.dropWhile_cons_of_neg (by simp [blank])]
  rw [skipped, List.dropWhile_append_of_pos blank, ← skipped]

/-- A text of blanks has no tokens. -/
theorem units_of_blank {gap : List Char} (blank : ∀ c ∈ gap, isBlank c = true) :
    units gap = [] := by
  have same := units_append blank []
  rw [List.append_nil] at same
  rw [same, units, scan, scanFrom.eq_def]
  rfl

/-- At a character that is no blank a unit is read. -/
theorem exists_lexeme {c : Char} (visible : isBlank c = false) (rest : List Char) :
    ∃ kind extent, lexeme c rest = (some kind, extent) := by
  cases read : lexeme c rest with
  | mk kind extent =>
    cases kind with
    | some kind => exact ⟨kind, extent, rfl⟩
    | none =>
      obtain ⟨gap, after, whole, rfl, blank⟩ := lexeme_eq_none read
      have positive := lexeme_pos c rest
      rw [read] at positive
      obtain ⟨d, others, rfl⟩ := List.exists_cons_of_length_pos positive
      cases whole
      rw [blank c List.mem_cons_self] at visible
      cases visible

/-- A text is spaced anew before and behind the end of a unit. -/
theorem Spacing.apply_unit (spacing : Spacing) {unit : List Char} (visible : Visible unit)
    (after : List Char) :
    spacing.apply false (unit ++ after) =
      spacing.inside.apply false unit ++ spacing.apply false after := by
  have last := List.getLast?_eq_some_getLast visible.nonempty
  have whole := List.dropLast_concat_getLast visible.nonempty
  generalize unit.getLast visible.nonempty = c at last whole
  have plain := visible.last c last
  rw [← whole, List.append_assoc, List.singleton_append, spacing.apply_append false plain,
    spacing.inside.apply_append false plain, List.append_assoc]
  rfl

/-- Spacing a text anew leaves its tokens, in which the blanks are spaced anew. The induction
    is on the text: a blank is passed over, and a unit is read in both texts. -/
theorem units_apply (spacing : Spacing) (inRun : Bool) (text : List Char) :
    units (spacing.apply inRun text) =
      (units text).map (Prod.map id (spacing.inside.apply false)) := by
  induction length : text.length using Nat.strongRecOn generalizing text inRun with
  | _ many inductionHypothesis =>
    subst length
    cases text with
    | nil =>
      rw [Spacing.apply, units_of_blank spacing.blankEnding, @units_of_blank [] nofun]
      rfl
    | cons c rest =>
      cases blank : isBlank c with
      | true =>
        have single : ∀ d ∈ [c], isBlank d = true := by simpa using blank
        rw [spacing.apply_blank inRun blank, units_append (spacing.blankWritten inRun c),
          inductionHypothesis rest.length (Nat.lt_succ_self _) _ _ rfl, ← units_append single rest]
        rfl
      | false =>
        obtain ⟨kind, extent, read⟩ := exists_lexeme blank rest
        obtain ⟨unit, after, whole, rfl, reads⟩ := lexeme_eq_some read
        have visible := reads.spells.visible
        have copied := spacing.apply_visible false blank rest
        have respaced := spacing.lexeme_apply blank rest
        simp only [read, whole, List.take_left] at respaced
        have shorter : after.length < (c :: rest).length := by
          have positive := List.length_pos_iff.mpr visible.nonempty
          rw [whole, List.length_append]
          omega
        rw [units_of_some read, spacing.apply_visible inRun blank, units_of_some respaced, ← copied,
          whole, spacing.apply_unit visible, List.take_left, List.drop_left, List.take_left,
          List.drop_left, inductionHypothesis after.length shorter _ _ rfl]
        rfl

/-- Unifying blanks is one way to space a text anew. -/
theorem Spacing.unified_apply (inRun : Bool) (text : List Char) :
    Spacing.unified.apply inRun text = squeezeFrom inRun text := by
  induction text generalizing inRun with
  | nil => rfl
  | cons c rest inductionHypothesis =>
    rw [Spacing.apply, squeezeFrom, inductionHypothesis, inductionHypothesis]
    cases inRun <;> rfl

/-- Putting blanks behind a text is one way to space it anew. -/
theorem Spacing.followedBy_apply {gap : List Char} (blank : ∀ c ∈ gap, isBlank c = true)
    (inRun : Bool) (text : List Char) :
    (Spacing.followedBy gap blank).apply inRun text = text ++ gap := by
  induction text generalizing inRun with
  | nil => rfl
  | cons c rest inductionHypothesis =>
    rw [Spacing.apply, inductionHypothesis, inductionHypothesis]
    split
    · next isBlank =>
      rw [show (Spacing.followedBy gap blank).write inRun c = [c] from if_pos isBlank]
      rfl
    · rfl

/-- Blanks behind a text are no tokens. -/
theorem units_concat (text : List Char) {gap : List Char} (blank : ∀ c ∈ gap, isBlank c = true) :
    units (text ++ gap) = units text := by
  have copied : (Spacing.followedBy gap blank).inside.apply false = id := by
    funext unit
    have same := @Spacing.followedBy_apply [] nofun false unit
    rw [List.append_nil] at same
    exact same
  have same := units_apply (Spacing.followedBy gap blank) false text
  rw [Spacing.followedBy_apply, copied] at same
  simpa using same

/-- A text whose blanks are unified has the tokens of the text, in which the blanks are
    unified. -/
theorem units_squeeze (text : List Char) :
    units (squeeze text) = (units text).map (Prod.map id (squeezeFrom false)) := by
  obtain ⟨before, after, whole, blankBefore, blankAfter⟩ := exists_trim (squeezeFrom false text)
  have inside : Spacing.unified.inside.apply false = squeezeFrom false :=
    funext (Spacing.unified_apply false)
  calc units (squeeze text)
      = units (before ++ (trim (squeezeFrom false text) ++ after)) := by
        rw [units_append blankBefore, units_concat _ blankAfter, squeeze]
    _ = units (Spacing.unified.apply false text) := by
        rw [← whole, Spacing.unified_apply]
    _ = (units text).map (Prod.map id (squeezeFrom false)) := by
        rw [units_apply, inside]

/-- What becomes of a token when the blanks of the text are unified. -/
structure Unified (raw token : Token) : Prop where
  /-- It keeps its kind. -/
  kind : token.kind = raw.kind
  /-- Its own blanks are unified, if it has any. -/
  text : token.text = squeezeFrom false raw.text
  /-- It is spelled as its kind demands. -/
  spells : raw.kind.Spells raw.text

/-- A text without blanks has none to unify. -/
theorem squeezeFrom_of_solid {text : List Char} (solid : ∀ c ∈ text, isBlank c = false) :
    squeezeFrom false text = text := by
  rw [← Spacing.unified_apply]
  exact Spacing.unified.inside_apply_of_solid solid false

/-- Behind a text without blanks they are unified as if it was not there. -/
theorem squeezeFrom_of_solid_append {front : List Char} (solid : ∀ c ∈ front, isBlank c = false)
    (rest : List Char) : squeezeFrom false (front ++ rest) = front ++ squeezeFrom false rest := by
  induction front with
  | nil => rfl
  | cons c front inductionHypothesis =>
    have visible : isBlank c = false := solid c List.mem_cons_self
    have later := inductionHypothesis fun d member => solid d (List.mem_cons_of_mem c member)
    rw [List.cons_append, squeezeFrom, visible, later]
    rfl

/-- A token without delimiters stays as it is. -/
theorem Unified.text_eq {raw token : Token} (unified : Unified raw token)
    (plain : raw.kind.isDelimited = false) : token.text = raw.text :=
  unified.text.trans (squeezeFrom_of_solid (unified.spells.solid plain).2)

/-- The tokens of a text whose blanks are unified are those of the text, one by one. -/
theorem scan_squeeze (text : List Char) :
    List.Forall₂ Unified (scan text) (scan (squeeze text)) := by
  have same := units_squeeze text
  rw [units, units, List.map_map, ← List.forall₂_eq_eq_eq, List.forall₂_map_left_iff,
    List.forall₂_map_right_iff] at same
  have spelled := (List.forall₂_and_left _ _).mpr ⟨(scan_layout text).spells, same.flip⟩
  refine spelled.imp fun raw token pair => ?_
  obtain ⟨spells, units⟩ := pair
  exact ⟨congrArg Prod.fst units, congrArg Prod.snd units, spells⟩

end SqlGateway.Token
