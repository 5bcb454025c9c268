import SqlGateway.JoinQuery.Parser
import SqlGateway.Proofs.Condition.Literals
import SqlGateway.Proofs.Token.Layout

/-!
# Conditions as a partition

The split of a WHERE text loses nothing and invents nothing. The text is its conditions with
an AND between blanks after each but the last one, where each AND is the first one that is
left. Every condition goes to one side or is dropped, in the order of the text.

The split is computed at once, and the condition that a strict split refuses is looked up in
its result. The program takes the conditions one after the other and stops at the first one
that it cannot send anywhere. Both are proved equal for either strictness.
-/

namespace SqlGateway.Condition

open Text Token

/-- A text is some pieces with an AND between blanks after each but the last one. Up to the
    word that ends a piece there is no other AND between blanks. -/
inductive JoinedByAnd : List Char → List (List Char) → Prop
  /-- Without AND between blanks, the text is one piece. -/
  | alone {piece : List Char} (whole : ¬ HoldsAnd piece) : JoinedByAnd piece [piece]
  /-- The first AND between blanks ends the first piece. -/
  | joined (piece : List Char) {before word after text : List Char} {later : List (List Char)}
      (first : ¬ HoldsAnd (piece ++ before)) (blankBefore : Blanks before)
      (spells : SpellsAnd word) (blankAfter : Blanks after) (others : JoinedByAnd text later) :
      JoinedByAnd (piece ++ (before ++ (word ++ (after ++ text)))) (piece :: later)

/-- No letter is a blank, in particular not the first one of AND. -/
theorem fold_of_isBlank {c : Char} (blank : isBlank c = true) : fold c ≠ 'a' := by
  simpa using @of_isBlank (fun c => fold c != 'a') (by decide +kernel) c blank

/-- Among blanks alone there is no AND. -/
theorem not_holdsAnd_of_blank {gap : List Char} (blank : ∀ c ∈ gap, isBlank c = true) :
    ¬ HoldsAnd gap := by
  rintro ⟨before, after, b, a, n, d, e, rfl, _, isA, _⟩
  exact fold_of_isBlank (blank a (by simp)) isA

/-- At an AND between single blanks a separator is read. -/
theorem afterAnd?_of_spelled {b a n d e : Char} (rest : List Char) (blankBefore : isBlank b = true)
    (isA : fold a = 'a') (isN : fold n = 'n') (isD : fold d = 'd') (blankAfter : isBlank e = true) :
    ∃ after, afterAnd? (b :: a :: n :: d :: e :: rest) = some after := by
  have visible : isBlank a = false := by
    cases blank : isBlank a with
    | false => rfl
    | true => exact absurd isA (fold_of_isBlank blank)
  exact ⟨rest.dropWhile isBlank, by
    simp [afterAnd?, blankBefore, visible, isA, isN, isD, blankAfter]⟩

/-- A character where no separator is read adds no AND between blanks to what follows, however
    the text goes on. -/
theorem not_holdsAnd_cons {c : Char} {text more : List Char} (none : ¬ HoldsAnd text)
    (read : afterAnd? (c :: (text ++ more)) = Option.none) : ¬ HoldsAnd (c :: text) := by
  rintro ⟨before, after, b, a, n, d, e, whole, blankBefore, isA, isN, isD, blankAfter⟩
  cases before with
  | nil =>
    cases whole
    obtain ⟨behind, found⟩ := afterAnd?_of_spelled (after ++ more) blankBefore isA isN isD blankAfter
    rw [List.cons_append, List.cons_append, List.cons_append, List.cons_append, found] at read
    cases read
  | cons first before =>
    cases whole
    exact none ⟨before, after, b, a, n, d, e, rfl, blankBefore, isA, isN, isD, blankAfter⟩

/-- A text is its pieces, joined by AND. The induction follows the split. -/
theorem joinedByAnd_allPieces (text : List Char) : JoinedByAnd text (allPieces text) := by
  unfold allPieces
  fun_induction pieces text with
  | case1 => exact .alone (not_holdsAnd_of_blank (List.forall_mem_nil _))
  | case2 c rest after read later inductionHypothesis =>
    obtain ⟨before, word, gap, whole, blankBefore, spells, blankAfter, _⟩ :=
      separator_of_afterAnd? read
    rw [whole]
    exact .joined [] (not_holdsAnd_of_blank blankBefore.all) blankBefore spells blankAfter
      inductionHypothesis
  | case3 c rest read later inductionHypothesis =>
    -- The character stands before the first piece of what follows it.
    change JoinedByAnd (c :: rest) ((c :: (pieces rest).1) :: (pieces rest).2)
    clear later
    generalize (pieces rest).1 = piece, (pieces rest).2 = others at inductionHypothesis ⊢
    cases inductionHypothesis with
    | alone whole =>
      rw [← List.append_nil rest] at read
      exact .alone (not_holdsAnd_cons whole read)
    | joined piece first blankBefore spells blankAfter behind =>
      rw [← List.append_assoc] at read
      exact .joined (c :: piece) (not_holdsAnd_cons first read) blankBefore spells blankAfter behind

/-- A piece begins as the text does, if the text begins with no blank. -/
theorem head?_pieces {text : List Char}
    (starts : ∀ c, text.head? = some c → isBlank c = false) :
    (pieces text).1.head? = text.head? := by
  cases text with
  | nil => rw [pieces_nil]
  | cons c rest =>
    have visible := starts c rfl
    rw [pieces_of_none (by simp [afterAnd?, visible])]
    rfl

/-- A separator has all blanks before its word, so one more makes it longer. -/
theorem afterAnd?_cons_of_blank {c : Char} {text after : List Char} (blank : isBlank c = true)
    (read : afterAnd? text = some after) : afterAnd? (c :: text) = some after := by
  cases text with
  | nil => cases read
  | cons d rest =>
    cases blankToo : isBlank d with
    | true => simpa [afterAnd?, blank, blankToo] using read
    | false =>
      rw [afterAnd?, blankToo] at read
      cases read

/-- Where a piece ends at once, a separator is read. -/
theorem afterAnd?_of_pieces_eq_nil {c : Char} {rest : List Char}
    (ended : (pieces (c :: rest)).1 = []) : ∃ after, afterAnd? (c :: rest) = some after := by
  cases read : afterAnd? (c :: rest) with
  | some after => exact ⟨after, rfl⟩
  | none =>
    rw [pieces_of_none read] at ended
    cases ended

/-- If a text ends with no blank, then neither does its first piece, and the others are empty
    neither and begin with no blank either. The induction follows the split. -/
theorem pieces_visible {text : List Char}
    (ends : ∀ c, text.getLast? = some c → isBlank c = false) :
    (∀ c, (pieces text).1.getLast? = some c → isBlank c = false) ∧
      ∀ piece ∈ (pieces text).2, Visible piece := by
  fun_induction pieces text with
  | case1 =>
    constructor
    · intro c last
      cases last
    · exact List.forall_mem_nil _
  | case2 c rest after read later inductionHypothesis =>
    obtain ⟨before, word, gap, whole, _, _, blanks, starts⟩ := separator_of_afterAnd? read
    -- Blanks alone cannot follow the word, or the text would end with one of them.
    have goesOn : after ≠ [] := by
      rintro rfl
      have last := List.getLast?_eq_some_getLast blanks.nonempty
      have closing := ends (gap.getLast blanks.nonempty) (by
        rw [whole, List.append_nil, List.getLast?_append, List.getLast?_append, last,
          Option.some_or, Option.some_or])
      rw [blanks.all _ (List.getLast_mem blanks.nonempty)] at closing
      cases closing
    have endsToo : ∀ d, after.getLast? = some d → isBlank d = false := by
      intro d last
      refine ends d ?_
      rw [whole, List.getLast?_append, List.getLast?_append, List.getLast?_append, last,
        Option.some_or, Option.some_or, Option.some_or]
    obtain ⟨first, others⟩ := inductionHypothesis endsToo
    have head := head?_pieces starts
    refine ⟨?_, List.forall_mem_cons.mpr ⟨⟨?_, ?_, first⟩, others⟩⟩
    · intro d last
      cases last
    · intro nothing
      rw [nothing, List.head?_eq_some_head goesOn] at head
      cases head
    · intro d found
      exact starts d (head ▸ found)
  | case3 c rest read later inductionHypothesis =>
    have endsToo : ∀ d, rest.getLast? = some d → isBlank d = false := by
      intro d last
      exact ends d (by rw [List.getLast?_cons, last, Option.getD_some])
    obtain ⟨first, others⟩ := inductionHypothesis endsToo
    refine ⟨?_, others⟩
    change ∀ d, (c :: (pieces rest).1).getLast? = some d → isBlank d = false
    intro d last
    rw [List.getLast?_cons] at last
    cases closing : (pieces rest).1.getLast? with
    | some e =>
      rw [closing, Option.getD_some] at last
      cases last
      exact first d closing
    | none =>
      rw [closing, Option.getD_none] at last
      cases last
      cases rest with
      | nil => exact ends c rfl
      | cons e rest =>
        obtain ⟨after, found⟩ := afterAnd?_of_pieces_eq_nil (List.getLast?_eq_none_iff.mp closing)
        cases blank : isBlank c with
        | false => rfl
        | true =>
          rw [afterAnd?_cons_of_blank blank found] at read
          cases read

/-- All pieces of a visible text are visible. -/
theorem visible_of_mem_allPieces {text piece : List Char} (visible : Visible text)
    (member : piece ∈ allPieces text) : Visible piece := by
  obtain ⟨ends, others⟩ := pieces_visible visible.last
  have head := head?_pieces visible.first
  rcases List.mem_cons.mp member with rfl | later
  · refine ⟨?_, ?_, ends⟩
    · intro nothing
      rw [nothing, List.head?_eq_some_head visible.nonempty] at head
      cases head
    · intro c found
      exact visible.first c (head ▸ found)
  · exact others piece later

/-- The conditions of a text that is not blank are its pieces: there is nothing to trim from a
    piece, and none is empty. -/
theorem conjuncts_eq_allPieces {text : List Char} (nonempty : trim text ≠ []) :
    conjuncts text = allPieces (trim text) := by
  have visible : ∀ piece ∈ allPieces (trim text), Visible piece :=
    fun piece => visible_of_mem_allPieces (visible_trim nonempty)
  have trimmed : (allPieces (trim text)).map trim = allPieces (trim text) :=
    List.map_congr_left (fun piece member => (visible piece member).trim_eq)
      |>.trans (List.map_id _)
  change ((allPieces (trim text)).map trim).filter (!·.isEmpty) = _
  rw [trimmed, List.filter_eq_self]
  intro piece member
  simpa using (visible piece member).nonempty

/-- At a place of a text, given the character before, an alias stands at a word boundary with a
    point behind it, in large or small letters. The last text follows the point. -/
def QualifiedAt (qualifier : List Char) (before : Option Char) (text rest : List Char) : Prop :=
  isBoundary before text.head? = true ∧
    ∃ name, text = name ++ '.' :: rest ∧ name.map fold = qualifier.map fold

/-- A text names an alias: somewhere in it the alias stands with a point behind it. -/
def Names (qualifier text : List Char) : Prop :=
  ∃ front behind rest, text = front ++ behind ∧ QualifiedAt qualifier front.getLast? behind rest

/-- A text without the qualifiers of an alias, given the character before it. -/
inductive Unqualified (qualifier : List Char) : Option Char → List Char → List Char → Prop
  /-- In nothing there is nothing to remove. -/
  | nothing {before : Option Char} : Unqualified qualifier before [] []
  /-- The alias and its point are removed. -/
  | removed {before : Option Char} {text rest result : List Char}
      (here : QualifiedAt qualifier before text rest)
      (others : Unqualified qualifier (some '.') rest result) :
      Unqualified qualifier before text result
  /-- Any other character is kept. -/
  | kept {before : Option Char} {c : Char} {rest result : List Char}
      (elsewhere : ∀ after, ¬ QualifiedAt qualifier before (c :: rest) after)
      (others : Unqualified qualifier (some c) rest result) :
      Unqualified qualifier before (c :: rest) (c :: result)

/-- The alias and its point are read letter by letter. -/
theorem afterQualifier?_eq_some_iff {qualifier text rest : List Char} :
    afterQualifier? qualifier text = some rest ↔
      ∃ name, text = name ++ '.' :: rest ∧ name.map fold = qualifier.map fold := by
  fun_induction afterQualifier? qualifier text with
  | case1 behind =>
    constructor
    · intro read
      cases read
      exact ⟨[], rfl, rfl⟩
    · rintro ⟨name, whole, same⟩
      rw [List.map_nil, List.map_eq_nil_iff] at same
      subst same
      cases whole
      rfl
  | case2 a qualifier c behind same inductionHypothesis =>
    rw [inductionHypothesis]
    have letter : fold a = fold c := beq_iff_eq.mp same
    constructor
    · rintro ⟨name, rfl, spelled⟩
      exact ⟨c :: name, rfl, by rw [List.map_cons, List.map_cons, spelled, letter]⟩
    · rintro ⟨name, whole, spelled⟩
      cases name with
      | nil => cases spelled
      | cons d name =>
        cases whole
        exact ⟨name, rfl, (List.cons.inj spelled).2⟩
  | case3 a qualifier c behind other =>
    constructor
    · intro read
      cases read
    · rintro ⟨name, whole, spelled⟩
      cases name with
      | nil => cases spelled
      | cons d name =>
        cases whole
        exact absurd (beq_iff_eq.mpr (List.cons.inj spelled).1.symm) other
  | case4 qualifier text noPoint noLetter =>
    constructor
    · intro read
      cases read
    · rintro ⟨name, rfl, spelled⟩
      cases name with
      | nil =>
        rw [List.map_nil, eq_comm, List.map_eq_nil_iff] at spelled
        exact absurd rfl (noPoint rest spelled)
      | cons d name =>
        cases qualifier with
        | nil => cases spelled
        | cons a others => exact absurd rfl (noLetter a others d _ rfl)

/-- A qualifier is read exactly where one stands. -/
theorem qualifierAt?_eq_some_iff {qualifier text rest : List Char} {before : Option Char} :
    qualifierAt? qualifier before text = some rest ↔ QualifiedAt qualifier before text rest := by
  rw [qualifierAt?, QualifiedAt]
  split
  · next boundary => rw [afterQualifier?_eq_some_iff, and_iff_right boundary]
  · next inside =>
    constructor
    · intro read
      cases read
    · intro stands
      exact absurd stands.1 inside

/-- No qualifier is read exactly where none stands. -/
theorem qualifierAt?_eq_none_iff {qualifier text : List Char} {before : Option Char} :
    qualifierAt? qualifier before text = none ↔
      ∀ rest, ¬ QualifiedAt qualifier before text rest := by
  rw [Option.eq_none_iff_forall_ne_some]
  exact forall_congr' fun rest => not_congr qualifierAt?_eq_some_iff

/-- Nothing is left where no character is. -/
theorem not_qualifiedAt_nil {qualifier rest : List Char} {before : Option Char} :
    ¬ QualifiedAt qualifier before [] rest := by
  rintro ⟨_, name, whole, _⟩
  cases name <;> cases whole

/-- Behind a character it does not matter what stands before that character. -/
theorem getLast?_cons_or (c : Char) (front : List Char) (before : Option Char) :
    (c :: front).getLast?.or before = front.getLast?.or (some c) := by
  rw [List.getLast?_cons]
  cases front.getLast? <;> rfl

/-- An alias is mentioned exactly if the text names it. The induction moves the place at which
    the text is looked at. -/
theorem mentions_iff {qualifier text : List Char} :
    mentions qualifier text = true ↔ Names qualifier text := by
  have anywhere : ∀ before, mentionsFrom qualifier before text = true ↔
      ∃ front behind rest, text = front ++ behind ∧
        QualifiedAt qualifier (front.getLast?.or before) behind rest := by
    induction text with
    | nil =>
      intro before
      refine ⟨nofun, ?_⟩
      rintro ⟨front, behind, rest, whole, stands⟩
      rw [(List.append_eq_nil_iff.mp whole.symm).2] at stands
      exact absurd stands not_qualifiedAt_nil
    | cons c text inductionHypothesis =>
      intro before
      rw [mentionsFrom, Bool.or_eq_true, Option.isSome_iff_exists, inductionHypothesis (some c)]
      constructor
      · rintro (⟨rest, read⟩ | ⟨front, behind, rest, rfl, stands⟩)
        · exact ⟨[], c :: text, rest, rfl, qualifierAt?_eq_some_iff.mp read⟩
        · refine ⟨c :: front, behind, rest, rfl, ?_⟩
          rwa [getLast?_cons_or]
      · rintro ⟨front, behind, rest, whole, stands⟩
        cases front with
        | nil =>
          cases whole
          exact Or.inl ⟨rest, qualifierAt?_eq_some_iff.mpr stands⟩
        | cons d front =>
          cases whole
          refine Or.inr ⟨front, behind, rest, rfl, ?_⟩
          rwa [← getLast?_cons_or]
  rw [mentions, anywhere none]
  simp only [Option.or_none]
  rfl

/-- What is left of a text is the text without the qualifiers that stand in it. -/
theorem unqualified_withoutQualifierFrom (qualifier : List Char) (before : Option Char)
    (text : List Char) :
    Unqualified qualifier before text (withoutQualifierFrom qualifier before text) := by
  fun_induction withoutQualifierFrom qualifier before text with
  | case1 before => exact .nothing
  | case2 before c rest after read inductionHypothesis =>
    exact .removed (qualifierAt?_eq_some_iff.mp read) inductionHypothesis
  | case3 before c rest read inductionHypothesis =>
    exact .kept (qualifierAt?_eq_none_iff.mp read) inductionHypothesis

/-- Conditions at their sides, one after the other. -/
inductive Routed (leftAlias rightAlias : List Char) : List (List Char) → Split → Prop
  /-- Without conditions there is nothing at any side. -/
  | nothing : Routed leftAlias rightAlias [] {}
  /-- A condition that names the left alias goes left. -/
  | left {conjunct stripped : List Char} {later : List (List Char)} {split : Split}
      (names : Names leftAlias conjunct) (strips : Unqualified leftAlias none conjunct stripped)
      (others : Routed leftAlias rightAlias later split) :
      Routed leftAlias rightAlias (conjunct :: later) { split with left := stripped :: split.left }
  /-- A condition that names only the right alias goes right. -/
  | right {conjunct stripped : List Char} {later : List (List Char)} {split : Split}
      (other : ¬ Names leftAlias conjunct) (names : Names rightAlias conjunct)
      (strips : Unqualified rightAlias none conjunct stripped)
      (others : Routed leftAlias rightAlias later split) :
      Routed leftAlias rightAlias (conjunct :: later)
        { split with right := stripped :: split.right }
  /-- A condition that names neither alias is dropped as it is. -/
  | dropped {conjunct : List Char} {later : List (List Char)} {split : Split}
      (notLeft : ¬ Names leftAlias conjunct) (notRight : ¬ Names rightAlias conjunct)
      (others : Routed leftAlias rightAlias later split) :
      Routed leftAlias rightAlias (conjunct :: later)
        { split with dropped := conjunct :: split.dropped }

/-- The conditions of a text are at their sides in its split. The induction goes over the
    conditions. -/
theorem routed_split (leftAlias rightAlias text : List Char) :
    Routed leftAlias rightAlias (conjuncts text) (split leftAlias rightAlias text) := by
  rw [split]
  induction conjuncts text with
  | nil => exact .nothing
  | cons conjunct later inductionHypothesis =>
    rw [List.foldr_cons, Split.add, side]
    by_cases left : mentions leftAlias conjunct = true
    · rw [if_pos left]
      exact .left (mentions_iff.mp left) (unqualified_withoutQualifierFrom _ _ _)
        inductionHypothesis
    · rw [if_neg left]
      by_cases right : mentions rightAlias conjunct = true
      · rw [if_pos right]
        exact .right (fun names => left (mentions_iff.mpr names)) (mentions_iff.mp right)
          (unqualified_withoutQualifierFrom _ _ _) inductionHypothesis
      · rw [if_neg right]
        exact .dropped (fun names => left (mentions_iff.mpr names))
          (fun names => right (mentions_iff.mpr names)) inductionHypothesis

/-- The pieces of a WHERE text taken one after the other, each behind what is already split.
    When `strict`, the pass stops at the first condition that names neither alias. -/
def pass (strict : Bool) (leftAlias rightAlias : List Char) (before : Split) :
    List (List Char) → Except (List Char) Split
  | [] => .ok before
  | piece :: later =>
      let conjunct := trim piece
      if conjunct.isEmpty then pass strict leftAlias rightAlias before later
      else match side leftAlias rightAlias conjunct with
        | .left =>
            pass strict leftAlias rightAlias
              { before with left := before.left ++ [withoutQualifier leftAlias conjunct] } later
        | .right =>
            pass strict leftAlias rightAlias
              { before with right := before.right ++ [withoutQualifier rightAlias conjunct] } later
        | .neither =>
            if strict then .error conjunct
            else
              pass strict leftAlias rightAlias
                { before with dropped := before.dropped ++ [conjunct] } later

/-- A split, and the conditions behind it. -/
def Split.append (before later : Split) : Split where
  left := before.left ++ later.left
  right := before.right ++ later.right
  dropped := before.dropped ++ later.dropped

/-- A split, unless it is strict and drops a condition: then the first one that it drops. -/
def Split.accepted (split : Split) (strict : Bool) (before : Split) : Except (List Char) Split :=
  match if strict then split.dropped else [] with
  | [] => .ok (before.append split)
  | conjunct :: _ => .error conjunct

/-- A pass over pieces makes of them what their split is at once, or stops at the first
    condition that the split drops. The induction goes over the pieces and keeps what stands
    before them open, because every step of the pass adds to it. -/
theorem pass_eq (strict : Bool) (leftAlias rightAlias : List Char) (before : Split)
    (parts : List (List Char)) :
    pass strict leftAlias rightAlias before parts =
      Split.accepted (((parts.map trim).filter (!·.isEmpty)).foldr
        (Split.add leftAlias rightAlias) {}) strict before := by
  induction parts generalizing before with
  | nil => cases strict <;> simp [pass, Split.accepted, Split.append]
  | cons piece later inductionHypothesis =>
    rw [pass]
    by_cases empty : (trim piece).isEmpty = true
    · rw [if_pos empty, inductionHypothesis, List.map_cons,
        List.filter_cons_of_neg (by simpa using empty)]
    · rw [if_neg empty, List.map_cons, List.filter_cons_of_pos (by simpa using empty),
        List.foldr_cons]
      generalize ((later.map trim).filter (!·.isEmpty)).foldr (Split.add leftAlias rightAlias) {} =
        others at inductionHypothesis
      rw [Split.add]
      cases side leftAlias rightAlias (trim piece) with
      | left =>
        dsimp only
        rw [inductionHypothesis]
        simp [Split.accepted, Split.append]
      | right =>
        dsimp only
        rw [inductionHypothesis]
        simp [Split.accepted, Split.append]
      | neither =>
        dsimp only
        cases strict with
        | true => rfl
        | false =>
          rw [if_neg Bool.false_ne_true, inductionHypothesis]
          simp [Split.accepted, Split.append]

/-- The split of a WHERE text is what one pass over its pieces makes of them, at either
    strictness. -/
theorem splitConditions_eq_pass (strict : Bool) (leftAlias rightAlias text : List Char) :
    JoinQuery.splitConditions strict leftAlias rightAlias text =
      (pass strict leftAlias rightAlias {} (allPieces (trim text))).mapError
        fun conjunct => .unroutable (.ofList conjunct) := by
  have alone : ∀ split : Split, Split.append {} split = split := fun _ => rfl
  have computed : ((allPieces (trim text)).map trim).filter (!·.isEmpty) = conjuncts text := rfl
  rw [pass_eq, computed, ← split, JoinQuery.splitConditions, Split.accepted, alone, splitStrict]
  cases strict with
  | false => rfl
  | true =>
    cases (split leftAlias rightAlias text).dropped with
    | nil => rfl
    | cons conjunct others => rfl

/-- A strict split refuses the first condition that is dropped otherwise, and is the split
    itself if none is. -/
theorem splitConditions_strict (leftAlias rightAlias text : List Char) :
    ((split leftAlias rightAlias text).dropped = [] ∧
        JoinQuery.splitConditions true leftAlias rightAlias text =
          .ok (split leftAlias rightAlias text)) ∨
      ∃ conjunct others, (split leftAlias rightAlias text).dropped = conjunct :: others ∧
        JoinQuery.splitConditions true leftAlias rightAlias text =
          .error (.unroutable (.ofList conjunct)) := by
  rw [JoinQuery.splitConditions, if_pos rfl, splitStrict]
  cases (split leftAlias rightAlias text).dropped with
  | nil => exact Or.inl ⟨rfl, rfl⟩
  | cons conjunct others => exact Or.inr ⟨conjunct, others, rfl, rfl⟩

/-- The conditions of a WHERE text are a partition of it, and both strictnesses agree on it. -/
structure Partition (leftAlias rightAlias text : List Char) : Prop where
  /-- Without the blanks at its ends, the text is its conditions, joined by AND. -/
  joined : JoinedByAnd (trim text) (conjuncts text)
  /-- No condition is empty or has blanks at its ends. -/
  visible : ∀ conjunct ∈ conjuncts text, Visible conjunct
  /-- Without strictness, every condition is at its side or dropped, in the order of the text. -/
  routed : ∃ split, JoinQuery.splitConditions false leftAlias rightAlias text = .ok split ∧
    Routed leftAlias rightAlias (conjuncts text) split
  /-- With strictness the split is the same one if it drops nothing, and the first condition
      that it drops is refused otherwise. -/
  strict : ∀ split, JoinQuery.splitConditions false leftAlias rightAlias text = .ok split →
    (split.dropped = [] ∧
        JoinQuery.splitConditions true leftAlias rightAlias text = .ok split) ∨
      ∃ conjunct others, split.dropped = conjunct :: others ∧
        JoinQuery.splitConditions true leftAlias rightAlias text =
          .error (.unroutable (.ofList conjunct))
  /-- At either strictness the split is what one pass from left to right makes of the pieces. -/
  inOrder : ∀ strict, JoinQuery.splitConditions strict leftAlias rightAlias text =
    (pass strict leftAlias rightAlias {} (allPieces (trim text))).mapError
      fun conjunct => .unroutable (.ofList conjunct)

/-- Every text that is not blank is partitioned into its conditions, whatever the two aliases
    are. -/
theorem partition_of_nonblank {text : List Char} (nonblank : ∃ c ∈ text, isBlank c = false)
    (leftAlias rightAlias : List Char) : Partition leftAlias rightAlias text := by
  have nonempty : trim text ≠ [] := by
    intro nothing
    obtain ⟨before, after, whole, blankBefore, blankAfter⟩ := exists_trim text
    obtain ⟨c, member, visible⟩ := nonblank
    rw [nothing, List.nil_append] at whole
    rw [whole] at member
    have blank : isBlank c = true := (List.mem_append.mp member).elim (blankBefore c) (blankAfter c)
    rw [visible] at blank
    cases blank
  have computed := conjuncts_eq_allPieces nonempty
  refine ⟨?_, ?_, ⟨_, rfl, routed_split leftAlias rightAlias text⟩, ?_, ?_⟩
  · rw [computed]
    exact joinedByAnd_allPieces (trim text)
  · rw [computed]
    exact fun conjunct => visible_of_mem_allPieces (visible_trim nonempty)
  · rintro _ ⟨⟩
    exact splitConditions_strict leftAlias rightAlias text
  · exact fun strict => splitConditions_eq_pass strict leftAlias rightAlias text

/-- Of three conditions in a text, one goes left, one is dropped and one goes right. -/
theorem partition_mixed :
    (∃ c ∈ "a.x = 1  AND 1 = 1 and B.y = 2 ".toList, isBlank c = false) ∧
      Partition "a".toList "b".toList "a.x = 1  AND 1 = 1 and B.y = 2 ".toList ∧
      split "a".toList "b".toList "a.x = 1  AND 1 = 1 and B.y = 2 ".toList =
        { left := ["x = 1".toList], right := ["y = 2".toList], dropped := ["1 = 1".toList] } := by
  have nonblank : ∃ c ∈ "a.x = 1  AND 1 = 1 and B.y = 2 ".toList, isBlank c = false :=
    ⟨'a', List.mem_cons_self, rfl⟩
  exact ⟨nonblank, partition_of_nonblank nonblank _ _, by decide +kernel⟩

end SqlGateway.Condition
