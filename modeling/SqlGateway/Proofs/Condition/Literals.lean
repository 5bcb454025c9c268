import SqlGateway.Condition
import SqlGateway.Proofs.Text.Blank

/-!
# Quoted texts in conditions

Neither the split at AND nor the removal of qualifiers knows of quotes. But no AND and no
qualifier has a single quote in it, so both treat what stands between two quotes as if it
stood alone. What the split and the removal make of a quoted text by itself is therefore
found in the conditions of every text that holds it.
-/

namespace SqlGateway.Condition

open Text

/-- Only a single quote is the same letter as a single quote: no other character of ASCII
    becomes one in small letters, and no run of letters outside ASCII has it as an image. -/
theorem sameLetter_quote {c : Char} (other : c ≠ '\'') : sameLetter c '\'' = false := by
  have ascii : ∀ code < 128, fold (Char.ofNat code) = '\'' → code = 39 := by decide +kernel
  have far : ∀ run ∈ foldRuns, 39 < run.image := by decide +kernel
  have code : ∀ n, Char.ofNat n = '\'' → n = 39 := by
    intro n same
    by_cases valid : n.isValidChar
    · have value : (Char.ofNat n).toNat = n := by
        have here : Char.ofNat n = Char.ofNatAux n valid := dif_pos valid
        rw [here]
        rfl
      rw [← value, same]
      rfl
    · have nothing : Char.ofNat n = Char.ofNat 0 := dif_neg valid
      rw [nothing] at same
      exact absurd same (by decide)
  have folded : fold c ≠ '\'' := by
    intro same
    by_cases near : c.toNat < 128
    · have place := ascii c.toNat near (by rw [Char.ofNat_toNat]; exact same)
      exact other (by rw [← Char.ofNat_toNat c, place])
    · rw [fold, if_neg near, mapRuns] at same
      split at same
      · next run found =>
        have beyond := far run (List.mem_of_find?_eq_some found)
        have image := code _ same
        omega
      · exact other same
  have quote : fold '\'' = '\'' := by decide
  rw [sameLetter, quote]
  exact beq_eq_false_iff_ne.mpr folded

/-- A text is a part of another one, and at every end at which the other one goes on it has a
    single quote. -/
def Fenced (part whole : List Char) : Prop :=
  ∃ before after, whole = before ++ (part ++ after) ∧
    (before = [] ∨ part.head? = some '\'') ∧ (after = [] ∨ part.getLast? = some '\'')

/-- A single quote is no blank. -/
theorem isBlank_quote : isBlank '\'' = false := by decide

/-- Blanks before a single quote are those of the text before it. -/
theorem dropWhile_append_quote (before after : List Char) :
    (before ++ '\'' :: after).dropWhile isBlank = before.dropWhile isBlank ++ '\'' :: after := by
  induction before with
  | nil => simp [isBlank_quote]
  | cons c rest inductionHypothesis =>
    simp only [List.cons_append, List.dropWhile_cons]
    split
    · exact inductionHypothesis
    · rfl

/-- No AND goes over a single quote. -/
theorem afterAnd?_append (c : Char) (rest later : List Char) :
    afterAnd? (c :: (rest ++ '\'' :: later)) =
      (afterAnd? (c :: rest)).map (· ++ '\'' :: later) := by
  have a : fold '\'' ≠ 'a' := by decide
  have n : fold '\'' ≠ 'n' := by decide
  have d : fold '\'' ≠ 'd' := by decide
  simp only [afterAnd?]
  split
  · rw [dropWhile_append_quote]
    rcases rest.dropWhile isBlank with _ | ⟨first, _ | ⟨second, _ | ⟨third, after⟩⟩⟩
    · rcases later with _ | ⟨_, _ | ⟨_, _⟩⟩ <;> simp [a]
    · rcases later with _ | ⟨_, _⟩ <;> simp [n]
    · simp [d]
    · have edge : (after ++ '\'' :: later).head?.any isBlank = after.head?.any isBlank := by
        cases after <;> simp [isBlank_quote]
      simp only [List.cons_append, edge, dropWhile_append_quote]
      split <;> rfl
  · rfl

/-- Nothing is one piece without characters. -/
theorem pieces_nil : pieces [] = ([], []) := by
  rw [pieces.eq_def]

/-- At a separator the first piece ends. -/
theorem pieces_of_some {c : Char} {rest after : List Char}
    (read : afterAnd? (c :: rest) = some after) :
    pieces (c :: rest) = ([], (pieces after).1 :: (pieces after).2) := by
  rw [pieces.eq_def]
  dsimp only
  split
  · next found =>
    rw [read] at found
    cases found
    rfl
  · next found =>
    rw [read] at found
    cases found

/-- Any other character belongs to the first piece. -/
theorem pieces_of_none {c : Char} {rest : List Char} (read : afterAnd? (c :: rest) = none) :
    pieces (c :: rest) = (c :: (pieces rest).1, (pieces rest).2) := by
  rw [pieces.eq_def]
  dsimp only
  split
  · next found =>
    rw [read] at found
    cases found
  · rfl

/-- A single quote belongs to the first piece. -/
theorem pieces_quote (rest : List Char) :
    pieces ('\'' :: rest) = ('\'' :: (pieces rest).1, (pieces rest).2) :=
  pieces_of_none (by simp [afterAnd?, isBlank_quote])

/-- All pieces of a text. -/
def allPieces (text : List Char) : List (List Char) :=
  (pieces text).1 :: (pieces text).2

/-- Before a single quote only the piece that holds it grows. The induction follows the split
    of the text before the quote. -/
theorem pieces_behind (before after : List Char) :
    (∃ front, front ++ (pieces ('\'' :: after)).1 ∈ allPieces (before ++ '\'' :: after)) ∧
      ∀ piece ∈ (pieces ('\'' :: after)).2, piece ∈ (pieces (before ++ '\'' :: after)).2 := by
  fun_induction pieces before with
  | case1 => exact ⟨⟨[], List.mem_cons_self⟩, fun _ => id⟩
  | case2 c rest behind read later inductionHypothesis =>
    have separates := afterAnd?_append c rest after
    rw [read, Option.map_some] at separates
    obtain ⟨⟨front, first⟩, others⟩ := inductionHypothesis
    rw [List.cons_append, allPieces, pieces_of_some separates]
    exact ⟨⟨front, List.mem_cons_of_mem _ first⟩,
      fun piece member => List.mem_cons_of_mem _ (others piece member)⟩
  | case3 c rest read later inductionHypothesis =>
    have separates := afterAnd?_append c rest after
    rw [read, Option.map_none] at separates
    obtain ⟨⟨front, first⟩, others⟩ := inductionHypothesis
    rw [List.cons_append, allPieces, pieces_of_none separates]
    refine ⟨?_, others⟩
    rcases List.mem_cons.mp first with same | later
    · exact ⟨c :: front, by simp [← same]⟩
    · exact ⟨front, List.mem_cons_of_mem _ later⟩

/-- Behind a single quote only the piece that holds it grows. The induction follows the split
    of the text before the quote. -/
theorem pieces_before (before after : List Char) :
    (∃ back, (pieces (before ++ '\'' :: after)).1 = (pieces (before ++ ['\''])).1 ++ back ∧
        (back = [] ∨ (pieces (before ++ ['\''])).1.getLast? = some '\'')) ∧
      ∀ piece ∈ (pieces (before ++ ['\''])).2, ∃ back,
        piece ++ back ∈ (pieces (before ++ '\'' :: after)).2 ∧
          (back = [] ∨ piece.getLast? = some '\'') := by
  fun_induction pieces before with
  | case1 =>
    simp only [List.nil_append, pieces_quote, pieces_nil]
    exact ⟨⟨(pieces after).1, rfl, Or.inr rfl⟩, nofun⟩
  | case2 c rest behind read later inductionHypothesis =>
    have separates := afterAnd?_append c rest
    simp only [read, Option.map_some] at separates
    rw [List.cons_append, List.cons_append, pieces_of_some (separates []),
      pieces_of_some (separates after)]
    obtain ⟨⟨back, first, closed⟩, others⟩ := inductionHypothesis
    refine ⟨⟨[], rfl, Or.inl rfl⟩, fun piece member => ?_⟩
    rcases List.mem_cons.mp member with rfl | member
    · exact ⟨back, by simp [first], closed⟩
    · obtain ⟨back, inside, closed⟩ := others piece member
      exact ⟨back, List.mem_cons_of_mem _ inside, closed⟩
  | case3 c rest read later inductionHypothesis =>
    have separates := afterAnd?_append c rest
    simp only [read, Option.map_none] at separates
    rw [List.cons_append, List.cons_append, pieces_of_none (separates []),
      pieces_of_none (separates after)]
    obtain ⟨⟨back, first, closed⟩, others⟩ := inductionHypothesis
    refine ⟨⟨back, by simp [first], closed.imp_right fun last => ?_⟩, others⟩
    rw [List.getLast?_cons, last]
    rfl

/-- A text between single quotes. -/
def quoted (content : List Char) : List Char :=
  '\'' :: (content ++ ['\''])

/-- A text between single quotes has its pieces in those of every text that holds it. -/
theorem exists_fenced_piece (before content after : List Char) :
    ∀ piece ∈ allPieces (quoted content),
      ∃ whole ∈ allPieces (before ++ '\'' :: (content ++ '\'' :: after)), Fenced piece whole := by
  obtain ⟨⟨front, firstInside⟩, othersInside⟩ := pieces_behind before (content ++ '\'' :: after)
  obtain ⟨⟨back, first, closed⟩, others⟩ := pieces_before ('\'' :: content) after
  rw [List.cons_append, List.cons_append] at first others
  unfold quoted
  intro piece member
  rcases List.mem_cons.mp member with rfl | member
  · refine ⟨_, firstInside, front, back, by rw [first], Or.inr ?_, closed⟩
    rw [pieces_quote]
    rfl
  · obtain ⟨back, inside, closed⟩ := others piece member
    exact ⟨piece ++ back, List.mem_cons_of_mem _ (othersInside _ inside), [], back, rfl,
      Or.inl rfl, closed⟩

/-- What has a part that is not empty is not empty. -/
theorem Fenced.nonempty {part whole : List Char} (fenced : Fenced part whole)
    (nonempty : part ≠ []) : whole ≠ [] := by
  obtain ⟨before, after, rfl, _, _⟩ := fenced
  simp [nonempty]

/-- If a text begins with a single quote, so does what is behind its first blanks. -/
theorem head?_of_blanks {gap text : List Char} (blank : ∀ c ∈ gap, isBlank c = true)
    (quote : (gap ++ text).head? = some '\'') : text.head? = some '\'' := by
  cases gap with
  | nil => exact quote
  | cons c rest =>
    cases quote
    exact absurd (blank '\'' List.mem_cons_self) (by decide)

/-- Trimming leaves a part between its quotes. -/
theorem Fenced.trim {part whole : List Char} (fenced : Fenced part whole)
    (nonempty : trim part ≠ []) : Fenced (trim part) (trim whole) := by
  obtain ⟨before, after, rfl, opened, closed⟩ := fenced
  obtain ⟨blanks, others, split, blank, blankToo⟩ := exists_trim part
  have visible := trim_visible part
  generalize Text.trim part = middle at *
  subst split
  have around : before ++ (blanks ++ (middle ++ others) ++ after) =
      (before ++ blanks) ++ (middle ++ (others ++ after)) := by
    simp only [List.append_assoc]
  rw [around, trim_around _ _ nonempty visible.1 visible.2]
  refine ⟨trimStart (before ++ blanks), trimEnd (others ++ after), rfl, ?_, ?_⟩
  · rcases opened with rfl | quote
    · have nothing : trimStart (blanks ++ []) = [] := trimStart_append blank
      rw [List.append_nil] at nothing
      exact Or.inl nothing
    · have first := head?_of_blanks blank quote
      rw [List.head?_append, List.head?_eq_some_head nonempty, Option.some_or] at first
      exact Or.inr ((List.head?_eq_some_head nonempty).trans first)
  · rcases closed with rfl | quote
    · rw [List.append_nil]
      have nothing : trimEnd ([] ++ others) = [] := trimEnd_append blankToo
      exact Or.inl nothing
    · have reversed : (others.reverse ++ (blanks ++ middle).reverse).head? = some '\'' := by
        rw [← List.reverse_append, List.head?_reverse, List.append_assoc]
        exact quote
      have last := head?_of_blanks (by simpa using blankToo) reversed
      rw [List.head?_reverse, List.getLast?_append, List.getLast?_eq_some_getLast nonempty,
        Option.some_or] at last
      exact Or.inr ((List.getLast?_eq_some_getLast nonempty).trans last)

/-- The conditions of a text are its pieces without blanks at their ends, if anything else is in
    them. -/
theorem mem_conjuncts {part text : List Char} :
    part ∈ conjuncts text ↔ part ≠ [] ∧ ∃ piece ∈ allPieces (trim text), trim piece = part := by
  simp only [conjuncts, allPieces, List.mem_filter, List.mem_map, Bool.not_eq_true',
    List.isEmpty_eq_false_iff]
  exact and_comm

/-- Around a text between single quotes, only the blanks at the two ends are trimmed. -/
theorem trim_around_quoted (before content after : List Char) :
    trim (before ++ (quoted content ++ after)) =
      trimStart before ++ '\'' :: (content ++ '\'' :: trimEnd after) := by
  have nonempty : quoted content ≠ [] := List.cons_ne_nil _ _
  have first : ∀ c, (quoted content).head? = some c → isBlank c = false := by
    rintro _ ⟨⟩
    exact isBlank_quote
  have last : ∀ c, (quoted content).getLast? = some c → isBlank c = false := by
    intro c last
    rw [quoted, ← List.cons_append, List.getLast?_concat] at last
    cases last
    exact isBlank_quote
  rw [trim_around before after nonempty first last]
  simp [quoted]

/-- Nothing is trimmed from a text between single quotes. -/
theorem trim_quoted (content : List Char) : trim (quoted content) = quoted content := by
  simpa [trimStart, trimEnd, quoted] using trim_around_quoted [] content []

/-- What a text between single quotes is split into is found in what every text that holds it is
    split into. -/
theorem exists_fenced_conjunct (before content after : List Char) :
    ∀ part ∈ conjuncts (quoted content),
      ∃ whole ∈ conjuncts (before ++ (quoted content ++ after)), Fenced part whole := by
  intro part member
  obtain ⟨nonempty, piece, inside, rfl⟩ := mem_conjuncts.mp member
  rw [trim_quoted] at inside
  obtain ⟨whole, among, fenced⟩ := exists_fenced_piece (trimStart before) content (trimEnd after)
    piece inside
  have kept := fenced.trim nonempty
  refine ⟨trim whole, mem_conjuncts.mpr ⟨kept.nonempty nonempty, whole, ?_, rfl⟩, kept⟩
  rw [trim_around_quoted]
  exact among

/-- The word AND stands between two blanks somewhere in a text. -/
def HoldsAnd (text : List Char) : Prop :=
  ∃ before after b a n d e, text = before ++ b :: a :: n :: d :: e :: after ∧
    isBlank b = true ∧ fold a = 'a' ∧ fold n = 'n' ∧ fold d = 'd' ∧ isBlank e = true

/-- A run of blanks, with at least one in it. -/
structure Blanks (gap : List Char) : Prop where
  /-- There is a blank. -/
  nonempty : gap ≠ []
  /-- There is nothing else. -/
  all : ∀ c ∈ gap, isBlank c = true

/-- The word AND, in large or small letters. -/
def SpellsAnd (word : List Char) : Prop :=
  word.map fold = ['a', 'n', 'd']

/-- The word AND has three letters. -/
theorem SpellsAnd.letters {word : List Char} (spells : SpellsAnd word) :
    ∃ a n d, word = [a, n, d] ∧ fold a = 'a' ∧ fold n = 'n' ∧ fold d = 'd' := by
  obtain ⟨a, behindA, rfl, isA, spells⟩ := List.map_eq_cons_iff.mp spells
  obtain ⟨n, behindN, rfl, isN, spells⟩ := List.map_eq_cons_iff.mp spells
  obtain ⟨d, behindD, rfl, isD, spells⟩ := List.map_eq_cons_iff.mp spells
  rw [List.map_eq_nil_iff.mp spells]
  exact ⟨a, n, d, rfl, isA, isN, isD⟩

/-- What is read as a separator is an AND between blanks, and all blanks behind the word belong
    to it. -/
theorem separator_of_afterAnd? {text after : List Char} (read : afterAnd? text = some after) :
    ∃ before word gap, text = before ++ (word ++ (gap ++ after)) ∧ Blanks before ∧
      SpellsAnd word ∧ Blanks gap ∧ ∀ c, after.head? = some c → isBlank c = false := by
  revert read
  fun_cases afterAnd? text with
  | case1 | case3 | case4 | case5 =>
    intro read
    cases read
  | case2 c rest blank a n d behind skipped letters =>
    intro read
    cases read
    obtain ⟨isA, isN, isD, ends⟩ := letters
    have whole : c :: rest = (c :: rest.takeWhile isBlank) ++ ([a, n, d] ++
        (behind.takeWhile isBlank ++ behind.dropWhile isBlank)) := by
      rw [List.takeWhile_append_dropWhile]
      change c :: rest = c :: (rest.takeWhile isBlank ++ a :: n :: d :: behind)
      rw [← skipped, List.takeWhile_append_dropWhile]
    refine ⟨c :: rest.takeWhile isBlank, [a, n, d], behind.takeWhile isBlank, whole, ?_, ?_, ?_,
      ?_⟩
    · exact ⟨List.cons_ne_nil _ _,
        List.forall_mem_cons.mpr ⟨blank, List.all_eq_true.mp List.all_takeWhile⟩⟩
    · rw [SpellsAnd, List.map_cons, List.map_cons, List.map_cons, List.map_nil, isA, isN, isD]
    · refine ⟨?_, List.all_eq_true.mp List.all_takeWhile⟩
      obtain ⟨e, later, rfl⟩ : ∃ e later, behind = e :: later := by
        cases behind with
        | nil => cases ends
        | cons e later => exact ⟨e, later, rfl⟩
      have blankToo : isBlank e = true := ends
      simp [blankToo]
    · intro c first
      have stop := List.head?_dropWhile_not isBlank behind
      rw [first] at stop
      exact stop

/-- Where a separator is, there is an AND between blanks. -/
theorem holdsAnd_of_afterAnd? {text after : List Char} (read : afterAnd? text = some after) :
    HoldsAnd text := by
  obtain ⟨blanks, word, gap, rfl, before, spells, behind, _⟩ := separator_of_afterAnd? read
  obtain ⟨front, b, rfl⟩ : ∃ front b, blanks = front ++ [b] :=
    ⟨_, _, (List.dropLast_concat_getLast before.nonempty).symm⟩
  obtain ⟨e, later, rfl⟩ := List.exists_cons_of_ne_nil behind.nonempty
  obtain ⟨a, n, d, rfl, isA, isN, isD⟩ := spells.letters
  refine ⟨front, later ++ after, b, a, n, d, e, ?_, before.all b (by simp), isA, isN, isD,
    behind.all e List.mem_cons_self⟩
  simp only [List.append_assoc, List.cons_append, List.nil_append]

/-- A text without AND between blanks is one piece. -/
theorem pieces_of_not_holdsAnd {text : List Char} (none : ¬ HoldsAnd text) :
    pieces text = (text, []) := by
  induction text with
  | nil => exact pieces_nil
  | cons c rest inductionHypothesis =>
    have noneLater : ¬ HoldsAnd rest := by
      rintro ⟨before, after, b, a, n, d, e, rfl, holds⟩
      exact none ⟨c :: before, after, b, a, n, d, e, rfl, holds⟩
    cases read : afterAnd? (c :: rest) with
    | none => rw [pieces_of_none read, inductionHypothesis noneLater]
    | some after => exact absurd (holdsAnd_of_afterAnd? read) none

/-- A text between single quotes is one condition if there is no AND between blanks in it. -/
theorem conjuncts_quoted {content : List Char} (none : ¬ HoldsAnd (quoted content)) :
    conjuncts (quoted content) = [quoted content] := by
  rw [conjuncts, trim_quoted, pieces_of_not_holdsAnd none]
  simp only [List.map_cons, List.map_nil, trim_quoted]
  rfl

/-- No qualifier goes over a single quote, unless the alias has one. -/
theorem afterQualifier?_append {qualifier : List Char}
    (plain : '\'' ∉ qualifier) (text later : List Char) :
    afterQualifier? qualifier (text ++ '\'' :: later) =
      (afterQualifier? qualifier text).map (· ++ '\'' :: later) := by
  fun_induction afterQualifier? qualifier text with
  | case1 rest => rfl
  | case2 a qualifier c rest same inductionHypothesis =>
    rw [List.cons_append, afterQualifier?, if_pos same,
      inductionHypothesis fun member => plain (List.mem_cons_of_mem a member)]
  | case3 a qualifier c rest other =>
    rw [List.cons_append, afterQualifier?, if_neg other]
    rfl
  | case4 qualifier text noPoint noLetter =>
    cases qualifier with
    | nil =>
      cases text with
      | nil => rfl
      | cons c rest =>
        have other : c ≠ '.' := by
          rintro rfl
          exact noPoint rest rfl rfl
        simp [afterQualifier?, other]
    | cons a others =>
      cases text with
      | nil =>
        have other : a ≠ '\'' := by
          rintro rfl
          exact plain List.mem_cons_self
        simp [afterQualifier?, sameLetter_quote other]
      | cons c rest => exact absurd rfl (noLetter a others c rest rfl)

/-- Where a qualifier is, what follows it goes on. -/
theorem withoutQualifierFrom_of_some {qualifier : List Char} {before : Option Char} {c : Char}
    {rest after : List Char} (read : qualifierAt? qualifier before (c :: rest) = some after) :
    withoutQualifierFrom qualifier before (c :: rest) =
      withoutQualifierFrom qualifier (some '.') after := by
  rw [withoutQualifierFrom.eq_def]
  dsimp only
  split
  · next found =>
    rw [read] at found
    cases found
    rfl
  · next found =>
    rw [read] at found
    cases found

/-- Where no qualifier is, the character is kept. -/
theorem withoutQualifierFrom_of_none {qualifier : List Char} {before : Option Char} {c : Char}
    {rest : List Char} (read : qualifierAt? qualifier before (c :: rest) = none) :
    withoutQualifierFrom qualifier before (c :: rest) =
      c :: withoutQualifierFrom qualifier (some c) rest := by
  rw [withoutQualifierFrom.eq_def]
  dsimp only
  split
  · next found =>
    rw [read] at found
    cases found
  · rfl

/-- A single quote separates what is before it from what is behind it: qualifiers are removed
    from both by themselves. The induction follows the removal before the quote. -/
theorem withoutQualifierFrom_append {qualifier : List Char}
    (plain : '\'' ∉ qualifier) (before : Option Char)
    (text later : List Char) :
    withoutQualifierFrom qualifier before (text ++ '\'' :: later) =
      withoutQualifierFrom qualifier before text ++
        '\'' :: withoutQualifierFrom qualifier (some '\'') later := by
  have within : ∀ (before : Option Char) (c : Char) (rest : List Char),
      qualifierAt? qualifier before (c :: (rest ++ '\'' :: later)) =
        (qualifierAt? qualifier before (c :: rest)).map (· ++ '\'' :: later) := by
    intro before c rest
    have same := afterQualifier?_append plain (c :: rest) later
    rw [List.cons_append] at same
    simp only [qualifierAt?, same, List.head?_cons]
    by_cases boundary : isBoundary before (some c) = true <;> simp [boundary]
  fun_induction withoutQualifierFrom qualifier before text with
  | case1 before =>
    have absent : qualifierAt? qualifier before ('\'' :: later) = none := by
      have same := afterQualifier?_append plain [] later
      have nothing : afterQualifier? qualifier [] = none := by cases qualifier <;> rfl
      rw [nothing, List.nil_append, Option.map_none] at same
      simp [qualifierAt?, same]
    rw [List.nil_append, withoutQualifierFrom_of_none absent]
    rfl
  | case2 before c rest after read inductionHypothesis =>
    have here := within before c rest
    rw [read] at here
    rw [List.cons_append, withoutQualifierFrom_of_some here, inductionHypothesis]
  | case3 before c rest read inductionHypothesis =>
    have here := within before c rest
    rw [read] at here
    rw [List.cons_append, withoutQualifierFrom_of_none here, inductionHypothesis]
    rfl

/-- Behind a single quote a text is read as at its beginning. -/
theorem withoutQualifierFrom_quote (qualifier text : List Char) :
    withoutQualifierFrom qualifier (some '\'') text = withoutQualifier qualifier text := by
  have noWord : isWord '\'' = false := by decide
  cases text with
  | nil => rw [withoutQualifier, withoutQualifierFrom.eq_def, withoutQualifierFrom.eq_def]
  | cons c rest =>
    have same : qualifierAt? qualifier (some '\'') (c :: rest) =
        qualifierAt? qualifier none (c :: rest) := by
      simp [qualifierAt?, isBoundary, noWord]
    rw [withoutQualifier]
    cases read : qualifierAt? qualifier none (c :: rest) with
    | none =>
      rw [withoutQualifierFrom_of_none read, withoutQualifierFrom_of_none (same.trans read)]
    | some after =>
      rw [withoutQualifierFrom_of_some read, withoutQualifierFrom_of_some (same.trans read)]

/-- There is no qualifier in nothing. -/
theorem withoutQualifier_nil (qualifier : List Char) : withoutQualifier qualifier [] = [] := by
  rw [withoutQualifier, withoutQualifierFrom.eq_def]

/-- Two texts that a single quote separates have their qualifiers removed one by one. -/
theorem withoutQualifier_append {qualifier : List Char}
    (plain : '\'' ∉ qualifier) {one other : List Char}
    (fence : one = [] ∨ other = [] ∨ one.getLast? = some '\'' ∨ other.head? = some '\'') :
    withoutQualifier qualifier (one ++ other) =
      withoutQualifier qualifier one ++ withoutQualifier qualifier other := by
  have apart : ∀ before after, withoutQualifier qualifier (before ++ '\'' :: after) =
      withoutQualifier qualifier before ++ '\'' :: withoutQualifier qualifier after := by
    intro before after
    rw [withoutQualifier, withoutQualifierFrom_append plain, withoutQualifierFrom_quote]
    rfl
  rcases fence with rfl | rfl | last | first
  · rw [withoutQualifier_nil, List.nil_append, List.nil_append]
  · rw [withoutQualifier_nil, List.append_nil, List.append_nil]
  · obtain ⟨front, rfl⟩ := List.getLast?_eq_some_iff.mp last
    rw [apart front [], List.append_assoc, List.singleton_append, apart, withoutQualifier_nil,
      List.append_assoc, List.singleton_append]
  · obtain ⟨rest, rfl⟩ := List.head?_eq_some_iff.mp first
    have alone := apart [] rest
    rw [withoutQualifier_nil, List.nil_append, List.nil_append] at alone
    rw [apart, alone]

/-- A part keeps its place when the qualifiers are removed. -/
theorem Fenced.withoutQualifier {part whole qualifier : List Char} (fenced : Fenced part whole)
    (plain : '\'' ∉ qualifier) :
    withoutQualifier qualifier part <:+: withoutQualifier qualifier whole := by
  obtain ⟨before, after, rfl, opened, closed⟩ := fenced
  have behind : before = [] ∨ part ++ after = [] ∨ before.getLast? = some '\'' ∨
      (part ++ after).head? = some '\'' := by
    rcases opened with nothing | first
    · exact Or.inl nothing
    · exact Or.inr (Or.inr (Or.inr (by rw [List.head?_append, first, Option.some_or])))
  have ahead : part = [] ∨ after = [] ∨ part.getLast? = some '\'' ∨ after.head? = some '\'' := by
    rcases closed with nothing | last
    · exact Or.inr (Or.inl nothing)
    · exact Or.inr (Or.inr (Or.inl last))
  rw [withoutQualifier_append plain behind, withoutQualifier_append plain ahead]
  exact ⟨_, _, List.append_assoc _ _ _⟩

/-- A text that does not mention an alias has no qualifiers of it to remove. -/
theorem withoutQualifier_of_mentions {qualifier text : List Char}
    (absent : mentions qualifier text = false) : withoutQualifier qualifier text = text := by
  have unchanged : ∀ before, mentionsFrom qualifier before text = false →
      withoutQualifierFrom qualifier before text = text := by
    clear absent
    induction text with
    | nil =>
      intro before _
      rw [withoutQualifierFrom.eq_def]
    | cons c rest inductionHypothesis =>
      intro before absent
      rw [mentionsFrom, Bool.or_eq_false_iff, Option.isSome_eq_false_iff, Option.isNone_iff_eq_none]
        at absent
      rw [withoutQualifierFrom_of_none absent.1, inductionHypothesis (some c) absent.2]
  exact unchanged none absent

/-- Every condition of a text is among those of one side, without the qualifiers of its alias,
    or among those that mention no side. -/
theorem mem_split {part leftAlias rightAlias text : List Char} (member : part ∈ conjuncts text) :
    withoutQualifier leftAlias part ∈ (split leftAlias rightAlias text).left ∨
      withoutQualifier rightAlias part ∈ (split leftAlias rightAlias text).right ∨
        part ∈ (split leftAlias rightAlias text).dropped := by
  rw [split]
  generalize conjuncts text = parts at member
  induction parts with
  | nil => cases member
  | cons first others inductionHypothesis =>
    rw [List.foldr_cons]
    generalize others.foldr (Split.add leftAlias rightAlias) {} = later at inductionHypothesis
    unfold Split.add
    rcases List.mem_cons.mp member with rfl | member
    · cases side leftAlias rightAlias part with
      | left => exact Or.inl List.mem_cons_self
      | right => exact Or.inr (Or.inl List.mem_cons_self)
      | neither => exact Or.inr (Or.inr List.mem_cons_self)
    · have kept := inductionHypothesis member
      cases side leftAlias rightAlias first with
      | left => exact kept.imp_left (List.mem_cons_of_mem _)
      | right => exact kept.imp_right (Or.imp_left (List.mem_cons_of_mem _))
      | neither => exact kept.imp_right (Or.imp_right (List.mem_cons_of_mem _))

/-- A text is found among conditions: without the qualifiers of a side in a condition of this
    side, or as it is in one that mentions no side. -/
def Split.Keeps (split : Split) (leftAlias rightAlias text : List Char) : Prop :=
  (∃ condition ∈ split.left, withoutQualifier leftAlias text <:+: condition) ∨
    (∃ condition ∈ split.right, withoutQualifier rightAlias text <:+: condition) ∨
      ∃ condition ∈ split.dropped, text <:+: condition

/-- What a text between single quotes is split into is found among the conditions of every text
    that holds it. -/
theorem split_keeps {leftAlias rightAlias : List Char} (plainLeft : '\'' ∉ leftAlias)
    (plainRight : '\'' ∉ rightAlias) (before content after : List Char) :
    ∀ part ∈ conjuncts (quoted content),
      (split leftAlias rightAlias (before ++ (quoted content ++ after))).Keeps
        leftAlias rightAlias part := by
  intro part member
  obtain ⟨whole, inside, fenced⟩ := exists_fenced_conjunct before content after part member
  rcases mem_split inside with left | right | neither
  · exact Or.inl ⟨_, left, fenced.withoutQualifier plainLeft⟩
  · exact Or.inr (Or.inl ⟨_, right, fenced.withoutQualifier plainRight⟩)
  · obtain ⟨front, back, rfl, _, _⟩ := fenced
    exact Or.inr (Or.inr ⟨_, neither, front, back, List.append_assoc _ _ _⟩)

end SqlGateway.Condition
