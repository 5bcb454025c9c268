import SqlGateway.Proofs.Condition.Partition

/-!
# Where conditions go with a quoted text in them

A text between single quotes is not told from the text around it, so its content may add
conditions and may move them. It does both only through the conditions that the quoted text
has by itself: whatever stands around it, the last condition before it grows together with its
first one, its last one with the first condition behind it, and a condition that has grown
together goes to the left if a part of it does, to the right if a part of it does and none to
the left, and nowhere otherwise.

Two contents are therefore alike in every surrounding text exactly if they are alike without
one. The aliases must not have a single quote in them, since otherwise a qualifier may begin in
a quoted text and end behind it.
-/

namespace SqlGateway.Condition

open Text Token

section Weld

variable {α β : Type} (grow : α → α → α)

/-- Two lists one after the other, where the last element of the one and the first one of the
    other grow together. -/
def weld : List α → List α → List α
  | [], right => right
  | [x], [] => [x]
  | [x], y :: right => grow x y :: right
  | x :: y :: left, right => x :: weld (y :: left) right

/-- An element before two lists that are not both short stays where it is. -/
theorem weld_cons_cons (x y : α) (left right : List α) :
    weld grow (x :: y :: left) right = x :: weld grow (y :: left) right := by
  cases right <;> rfl

/-- The one element that two lists share is counted once. -/
theorem length_weld {left right : List α} (leftNonempty : left ≠ []) (rightNonempty : right ≠ []) :
    (weld grow left right).length + 1 = left.length + right.length := by
  obtain ⟨y, right, rfl⟩ := List.exists_cons_of_ne_nil rightNonempty
  induction left with
  | nil => exact absurd rfl leftNonempty
  | cons x left inductionHypothesis =>
    cases left with
    | nil =>
      simp only [weld, List.length_cons, List.length_nil]
      omega
    | cons z left =>
      have shorter := inductionHypothesis (List.cons_ne_nil z left)
      rw [weld_cons_cons]
      simp only [List.length_cons] at shorter ⊢
      omega

/-- A function goes through two lists if it goes through the elements that grow together. -/
theorem map_weld (f : α → β) (other : β → β → β) {left right : List α}
    (through : ∀ x y, left.getLast? = some x → right.head? = some y →
      f (grow x y) = other (f x) (f y)) :
    (weld grow left right).map f = weld other (left.map f) (right.map f) := by
  induction left with
  | nil => rfl
  | cons x left inductionHypothesis =>
    cases left with
    | nil =>
      cases right with
      | nil => rfl
      | cons y right =>
        simp only [weld, List.map_cons, List.map_nil, through x y rfl rfl]
    | cons z left =>
      rw [weld_cons_cons, List.map_cons, inductionHypothesis (by simpa using through),
        List.map_cons, List.map_cons, List.map_cons, weld_cons_cons]

/-- Two lists of which one is not empty are not empty together. -/
theorem weld_ne_nil {left : List α} (right : List α) (nonempty : left ≠ []) :
    weld grow left right ≠ [] := by
  rcases left with _ | ⟨x, _ | ⟨y, left⟩⟩
  · exact absurd rfl nonempty
  · cases right <;> exact List.cons_ne_nil _ _
  · rw [weld_cons_cons]
    exact List.cons_ne_nil _ _

/-- With one element behind them, two lists end in what has grown together with it. -/
theorem getLast?_weld_singleton (left : List α) (y : α) (nonempty : left ≠ []) :
    (weld grow left [y]).getLast? = left.getLast?.map (grow · y) := by
  induction left with
  | nil => exact absurd rfl nonempty
  | cons x left inductionHypothesis =>
    cases left with
    | nil => rfl
    | cons z left =>
      obtain ⟨first, others, shape⟩ :=
        List.exists_cons_of_ne_nil (weld_ne_nil grow [y] (List.cons_ne_nil z left))
      have last := inductionHypothesis (List.cons_ne_nil z left)
      rw [shape] at last
      rw [weld_cons_cons, shape, List.getLast?_cons_cons, last, List.getLast?_cons_cons]

/-- Of three lists it does not matter which two grow together first, unless there is nothing
    between the other two. -/
theorem weld_assoc (associative : ∀ x y z, grow (grow x y) z = grow x (grow y z))
    (left : List α) {middle : List α} (nonempty : middle ≠ []) (right : List α) :
    weld grow (weld grow left middle) right = weld grow left (weld grow middle right) := by
  induction left with
  | nil => rfl
  | cons x left inductionHypothesis =>
    cases left with
    | cons z left =>
      obtain ⟨first, others, shape⟩ :=
        List.exists_cons_of_ne_nil (weld_ne_nil grow middle (List.cons_ne_nil z left))
      rw [weld_cons_cons, shape, weld_cons_cons, ← shape, inductionHypothesis, weld_cons_cons]
    | nil =>
      rcases middle with _ | ⟨y, _ | ⟨z, middle⟩⟩
      · exact absurd rfl nonempty
      · cases right with
        | nil => rfl
        | cons w right => simp only [weld, associative]
      · rw [weld_cons_cons]
        simp only [weld, weld_cons_cons]

end Weld

/-- A text has a first piece. -/
theorem allPieces_ne_nil (text : List Char) : allPieces text ≠ [] :=
  List.cons_ne_nil _ _

/-- The pieces of a text that a single quote cuts in two are those of its parts. The quote
    belongs to the second part. The induction follows the split of the first one. -/
theorem allPieces_append_quote (before after : List Char) :
    allPieces (before ++ '\'' :: after) =
      weld (· ++ ·) (allPieces before) (allPieces ('\'' :: after)) := by
  generalize behindQuote : allPieces ('\'' :: after) = right
  unfold allPieces at behindQuote ⊢
  fun_induction pieces before with
  | case1 => rw [← behindQuote]; rfl
  | case2 c rest behind read later inductionHypothesis =>
    have separates := afterAnd?_append c rest after
    rw [read, Option.map_some] at separates
    rw [List.cons_append, pieces_of_some separates, weld_cons_cons, ← inductionHypothesis]
  | case3 c rest read later inductionHypothesis =>
    have separates := afterAnd?_append c rest after
    rw [read, Option.map_none] at separates
    rw [List.cons_append, pieces_of_none separates]
    change (c :: (pieces (rest ++ '\'' :: after)).1) :: (pieces (rest ++ '\'' :: after)).2 =
      weld (· ++ ·) ((c :: (pieces rest).1) :: (pieces rest).2) right
    clear later
    generalize (pieces rest).2 = others at inductionHypothesis ⊢
    cases others with
    | nil =>
      rw [← behindQuote] at inductionHypothesis ⊢
      obtain ⟨first, same⟩ := List.cons.inj inductionHypothesis
      rw [first, same]
      rfl
    | cons next others =>
      rw [weld_cons_cons] at inductionHypothesis ⊢
      obtain ⟨first, same⟩ := List.cons.inj inductionHypothesis
      rw [first, same]

/-- The pieces of a text that a single quote cuts in two are those of its parts, also if the
    quote belongs to the first part. -/
theorem allPieces_quote_append (before after : List Char) :
    allPieces (before ++ '\'' :: after) =
      weld (· ++ ·) (allPieces (before ++ ['\''])) (allPieces after) := by
  have quote : ∀ text, allPieces ('\'' :: text) = weld (· ++ ·) [['\'']] (allPieces text) := by
    intro text
    rw [allPieces, pieces_quote]
    rfl
  have nothing : allPieces ['\''] = [['\'']] := by
    rw [quote, allPieces, pieces_nil]
    rfl
  rw [allPieces_append_quote, allPieces_append_quote before [], quote after, nothing]
  exact (weld_assoc _ List.append_assoc _ (List.cons_ne_nil _ _) _).symm

/-- The pieces of a text with a text between single quotes in it are the pieces of what stands
    before the quotes, of the quoted text and of what stands behind it. -/
theorem allPieces_around_quoted (before content after : List Char) :
    allPieces (before ++ (quoted content ++ after)) =
      weld (· ++ ·) (allPieces before)
        (weld (· ++ ·) (allPieces (quoted content)) (allPieces after)) := by
  have behind := allPieces_quote_append ('\'' :: content) after
  have spelled : quoted content ++ after = '\'' :: (content ++ '\'' :: after) := by simp [quoted]
  rw [spelled, allPieces_append_quote before, ← List.cons_append, behind]
  rfl

/-- Removing qualifiers does not lengthen a text, and it shortens one that mentions the alias.
    The induction follows the removal. -/
theorem length_withoutQualifierFrom (qualifier : List Char) (before : Option Char)
    (text : List Char) :
    (withoutQualifierFrom qualifier before text).length ≤ text.length ∧
      (mentionsFrom qualifier before text = true →
        (withoutQualifierFrom qualifier before text).length < text.length) := by
  fun_induction withoutQualifierFrom qualifier before text with
  | case1 before =>
    constructor
    · exact Nat.le_refl _
    · intro mentioned
      cases mentioned
  | case2 before c rest after read inductionHypothesis =>
    have shorter := Nat.lt_of_le_of_lt inductionHypothesis.1 (qualifierAt?_length read)
    exact ⟨Nat.le_of_lt shorter, fun _ => shorter⟩
  | case3 before c rest read inductionHypothesis =>
    refine ⟨Nat.succ_le_succ inductionHypothesis.1, fun mentioned => ?_⟩
    rw [mentionsFrom, read, Option.isSome_none, Bool.false_or] at mentioned
    exact Nat.succ_lt_succ (inductionHypothesis.2 mentioned)

/-- A text mentions an alias exactly if there are qualifiers to remove from it. -/
theorem mentions_eq_false_iff {qualifier text : List Char} :
    mentions qualifier text = false ↔
      (withoutQualifier qualifier text).length = text.length := by
  constructor
  · intro absent
    rw [withoutQualifier_of_mentions absent]
  · intro same
    cases mentioned : mentions qualifier text with
    | false => rfl
    | true =>
      have shorter := (length_withoutQualifierFrom qualifier none text).2 mentioned
      rw [withoutQualifier] at same
      omega

/-- Two texts that a single quote separates mention an alias if one of them does. -/
theorem mentions_append {qualifier : List Char} (plain : '\'' ∉ qualifier) {one other : List Char}
    (fence : one = [] ∨ other = [] ∨ one.getLast? = some '\'' ∨ other.head? = some '\'') :
    mentions qualifier (one ++ other) = (mentions qualifier one || mentions qualifier other) := by
  have oneBound : (withoutQualifier qualifier one).length ≤ one.length :=
    (length_withoutQualifierFrom qualifier none one).1
  have otherBound : (withoutQualifier qualifier other).length ≤ other.length :=
    (length_withoutQualifierFrom qualifier none other).1
  have absent : mentions qualifier (one ++ other) = false ↔
      (mentions qualifier one || mentions qualifier other) = false := by
    rw [Bool.or_eq_false_iff, mentions_eq_false_iff, mentions_eq_false_iff, mentions_eq_false_iff,
      withoutQualifier_append plain fence, List.length_append, List.length_append]
    omega
  rw [Bool.eq_iff_iff, ← Bool.not_eq_false, ← Bool.not_eq_false (_ || _), absent]

/-- The side of a condition that has grown together out of conditions of two sides. -/
def Side.join : Side → Side → Side
  | .left, _ => .left
  | _, .left => .left
  | .right, _ => .right
  | .neither, other => other

/-- Two texts that a single quote separates go to the side of one of them, left before right. -/
theorem side_append {leftAlias rightAlias : List Char} (plainLeft : '\'' ∉ leftAlias)
    (plainRight : '\'' ∉ rightAlias) {one other : List Char}
    (fence : one = [] ∨ other = [] ∨ one.getLast? = some '\'' ∨ other.head? = some '\'') :
    side leftAlias rightAlias (one ++ other) =
      (side leftAlias rightAlias one).join (side leftAlias rightAlias other) := by
  rw [side, side, side, mentions_append plainLeft fence, mentions_append plainRight fence]
  cases mentions leftAlias one <;> cases mentions leftAlias other <;>
    cases mentions rightAlias one <;> cases mentions rightAlias other <;> rfl

/-- The sides to which the conditions of a text go, one after the other. -/
def destinations (leftAlias rightAlias text : List Char) : List Side :=
  (conjuncts text).map (side leftAlias rightAlias)

/-- A list in the split of a text has a condition for each one that goes to its side. -/
theorem length_split (leftAlias rightAlias text : List Char) :
    (split leftAlias rightAlias text).left.length =
        (destinations leftAlias rightAlias text).count .left ∧
      (split leftAlias rightAlias text).right.length =
        (destinations leftAlias rightAlias text).count .right ∧
      (split leftAlias rightAlias text).dropped.length =
        (destinations leftAlias rightAlias text).count .neither := by
  rw [split, destinations]
  induction conjuncts text with
  | nil => exact ⟨rfl, rfl, rfl⟩
  | cons conjunct later inductionHypothesis =>
    obtain ⟨left, right, dropped⟩ := inductionHypothesis
    rw [List.foldr_cons, List.map_cons, Split.add]
    cases side leftAlias rightAlias conjunct <;> simp [left, right, dropped]

/-- The conditions of a text between single quotes are its pieces. -/
theorem conjuncts_quoted_eq (content : List Char) :
    conjuncts (quoted content) = allPieces (quoted content) := by
  have nonempty : trim (quoted content) ≠ [] := by
    rw [trim_quoted]
    exact List.cons_ne_nil _ _
  rw [conjuncts_eq_allPieces nonempty, trim_quoted]

/-- The conditions of a text with a text between single quotes in it are the pieces of what
    stands before the quotes, those of the quoted text by itself and the pieces of what stands
    behind it. -/
theorem conjuncts_around_quoted (before content after : List Char) :
    conjuncts (before ++ (quoted content ++ after)) =
      weld (· ++ ·) (allPieces (trimStart before))
        (weld (· ++ ·) (conjuncts (quoted content)) (allPieces (trimEnd after))) := by
  have trimmed : trim (before ++ (quoted content ++ after)) =
      trimStart before ++ (quoted content ++ trimEnd after) := by
    rw [trim_around_quoted]
    simp [quoted]
  have nonempty : trim (before ++ (quoted content ++ after)) ≠ [] := by
    rw [trimmed]
    simp [quoted]
  rw [conjuncts_eq_allPieces nonempty, trimmed, allPieces_around_quoted, conjuncts_quoted_eq]

/-- The first condition of a text between single quotes begins with a quote, whatever follows
    the text. -/
theorem head?_of_quoted (content : List Char) (later : List (List Char)) :
    ∀ first, (weld (· ++ ·) (allPieces (quoted content)) later).head? = some first →
      first.head? = some '\'' := by
  rw [quoted, allPieces, pieces_quote]
  generalize (pieces (content ++ ['\''])).2 = others
  intro first found
  rcases others with _ | ⟨next, others⟩
  · cases later <;> cases found <;> rfl
  · rw [weld_cons_cons] at found
    cases found
    rfl

/-- The last condition of a text between single quotes ends with a quote. -/
theorem getLast?_of_quoted (content : List Char) :
    ∀ last, (allPieces (quoted content)).getLast? = some last → last.getLast? = some '\'' := by
  intro last found
  have quote : allPieces ['\''] = [['\'']] := by
    rw [allPieces, pieces_quote, pieces_nil]
  rw [quoted, ← List.cons_append, allPieces_append_quote, quote,
    getLast?_weld_singleton _ _ _ (allPieces_ne_nil _), Option.map_eq_some_iff] at found
  obtain ⟨front, _, rfl⟩ := found
  exact List.getLast?_concat

/-- The sides of the conditions of a text with a text between single quotes in it are those of
    what stands before the quotes, of the quoted text by itself and of what stands behind it. -/
theorem destinations_around_quoted {leftAlias rightAlias : List Char}
    (plainLeft : '\'' ∉ leftAlias) (plainRight : '\'' ∉ rightAlias)
    (before content after : List Char) :
    destinations leftAlias rightAlias (before ++ (quoted content ++ after)) =
      weld Side.join ((allPieces (trimStart before)).map (side leftAlias rightAlias))
        (weld Side.join (destinations leftAlias rightAlias (quoted content))
          ((allPieces (trimEnd after)).map (side leftAlias rightAlias))) := by
  rw [destinations, destinations, conjuncts_around_quoted, conjuncts_quoted_eq,
    map_weld _ (side leftAlias rightAlias) Side.join,
    map_weld _ (side leftAlias rightAlias) Side.join]
  · intro last first closing _
    exact side_append plainLeft plainRight
      (Or.inr (Or.inr (Or.inl (getLast?_of_quoted content last closing))))
  · intro last first _ opening
    exact side_append plainLeft plainRight
      (Or.inr (Or.inr (Or.inr (head?_of_quoted content _ first opening))))

/-- Whatever stands around two texts between single quotes, they give equally many conditions
    exactly if they do so by themselves. -/
theorem length_conjuncts_iff (before after content other : List Char) :
    (conjuncts (before ++ (quoted content ++ after))).length =
        (conjuncts (before ++ (quoted other ++ after))).length ↔
      (conjuncts (quoted content)).length = (conjuncts (quoted other)).length := by
  have total : ∀ content,
      (conjuncts (before ++ (quoted content ++ after))).length + 2 =
        (allPieces (trimStart before)).length +
          ((conjuncts (quoted content)).length + (allPieces (trimEnd after)).length) := by
    intro content
    have alone : conjuncts (quoted content) ≠ [] := by
      rw [conjuncts_quoted_eq]
      exact allPieces_ne_nil _
    have behind := length_weld (· ++ ·) alone (allPieces_ne_nil (trimEnd after))
    have whole := length_weld (· ++ ·) (allPieces_ne_nil (trimStart before))
      (weld_ne_nil (· ++ ·) (allPieces (trimEnd after)) alone)
    rw [conjuncts_around_quoted]
    omega
  have here := total content
  have there := total other
  omega

/-- Two texts are split alike: their conditions go to the same sides one after the other, and
    so there are equally many of them at each side. -/
structure SplitAlike (leftAlias rightAlias one other : List Char) : Prop where
  /-- The sides are the same ones. -/
  sides : destinations leftAlias rightAlias one = destinations leftAlias rightAlias other
  /-- Equally many conditions go left. -/
  left : (split leftAlias rightAlias one).left.length =
    (split leftAlias rightAlias other).left.length
  /-- Equally many conditions go right. -/
  right : (split leftAlias rightAlias one).right.length =
    (split leftAlias rightAlias other).right.length
  /-- Equally many conditions are dropped. -/
  dropped : (split leftAlias rightAlias one).dropped.length =
    (split leftAlias rightAlias other).dropped.length

/-- Texts whose conditions go to the same sides are split alike. -/
theorem SplitAlike.of_sides {leftAlias rightAlias one other : List Char}
    (sides : destinations leftAlias rightAlias one = destinations leftAlias rightAlias other) :
    SplitAlike leftAlias rightAlias one other := by
  obtain ⟨left, right, dropped⟩ := length_split leftAlias rightAlias one
  obtain ⟨leftToo, rightToo, droppedToo⟩ := length_split leftAlias rightAlias other
  refine ⟨sides, ?_, ?_, ?_⟩
  · rw [left, leftToo, sides]
  · rw [right, rightToo, sides]
  · rw [dropped, droppedToo, sides]

/-- A content that is one condition between its quotes and concerns no side. -/
structure Innocuous (leftAlias rightAlias content : List Char) : Prop where
  /-- There is no AND between blanks in it. -/
  whole : ¬ HoldsAnd (quoted content)
  /-- The left alias is not named in it. -/
  notLeft : ¬ Names leftAlias (quoted content)
  /-- The right alias is not named in it. -/
  notRight : ¬ Names rightAlias (quoted content)

/-- A text without blanks has no AND between blanks in it. -/
theorem not_holdsAnd_of_solid {text : List Char} (solid : ∀ c ∈ text, isBlank c = false) :
    ¬ HoldsAnd text := by
  rintro ⟨before, after, b, a, n, d, e, rfl, blank, _⟩
  have visible := solid b (by simp)
  rw [blank] at visible
  cases visible

/-- By itself, an innocuous content between quotes is one condition without a side. -/
theorem Innocuous.destinations {leftAlias rightAlias content : List Char}
    (innocuous : Innocuous leftAlias rightAlias content) :
    destinations leftAlias rightAlias (quoted content) = [.neither] := by
  have notLeft : mentions leftAlias (quoted content) = false :=
    Bool.eq_false_iff.mpr fun mentioned => innocuous.notLeft (mentions_iff.mp mentioned)
  have notRight : mentions rightAlias (quoted content) = false :=
    Bool.eq_false_iff.mpr fun mentioned => innocuous.notRight (mentions_iff.mp mentioned)
  rw [Condition.destinations, conjuncts_quoted innocuous.whole, List.map_singleton, side, notLeft,
    notRight]
  rfl

/-- The content of a literal counts only for what the literal is split into by itself. In any
    surrounding text, two contents give equally many conditions exactly if they do so alone. In
    every surrounding text they are split alike exactly if they are alone, in particular if both
    are innocuous. For the sides, the aliases have to be without single quotes. -/
theorem influence_of_literal (leftAlias rightAlias content other : List Char) :
    (∀ before after,
      (conjuncts (before ++ (quoted content ++ after))).length =
          (conjuncts (before ++ (quoted other ++ after))).length ↔
        (conjuncts (quoted content)).length = (conjuncts (quoted other)).length) ∧
    ('\'' ∉ leftAlias → '\'' ∉ rightAlias →
      ((∀ before after, SplitAlike leftAlias rightAlias (before ++ (quoted content ++ after))
          (before ++ (quoted other ++ after))) ↔
        destinations leftAlias rightAlias (quoted content) =
          destinations leftAlias rightAlias (quoted other)) ∧
      (Innocuous leftAlias rightAlias content → Innocuous leftAlias rightAlias other →
        ∀ before after, SplitAlike leftAlias rightAlias (before ++ (quoted content ++ after))
          (before ++ (quoted other ++ after)))) := by
  refine ⟨fun before after => length_conjuncts_iff before after content other, ?_⟩
  intro plainLeft plainRight
  have around : destinations leftAlias rightAlias (quoted content) =
        destinations leftAlias rightAlias (quoted other) →
      ∀ before after, SplitAlike leftAlias rightAlias (before ++ (quoted content ++ after))
        (before ++ (quoted other ++ after)) := by
    intro alone before after
    refine .of_sides ?_
    rw [destinations_around_quoted plainLeft plainRight,
      destinations_around_quoted plainLeft plainRight, alone]
  refine ⟨⟨fun everywhere => ?_, around⟩, fun innocuous innocuousToo => around ?_⟩
  · simpa using (everywhere [] []).sides
  · rw [innocuous.destinations, innocuousToo.destinations]

/-- The names of two files are split alike behind a condition of the right side, since neither
    of them names an alias. -/
theorem influence_of_literal_files :
    '\'' ∉ "a".toList ∧ '\'' ∉ "b".toList ∧ Innocuous "a".toList "b".toList "c.k".toList ∧
      Innocuous "a".toList "b".toList "d.k".toList ∧
      SplitAlike "a".toList "b".toList ("b.m = ".toList ++ (quoted "c.k".toList ++ []))
        ("b.m = ".toList ++ (quoted "d.k".toList ++ [])) ∧
      destinations "a".toList "b".toList ("b.m = ".toList ++ (quoted "d.k".toList ++ [])) =
        [.right] := by
  have plainLeft : '\'' ∉ "a".toList := by decide
  have plainRight : '\'' ∉ "b".toList := by decide
  have absent : ∀ qualifier ∈ ["a".toList, "b".toList], ∀ content ∈ ["c.k".toList, "d.k".toList],
      ¬ Names qualifier (quoted content) := by
    intro qualifier known content listed names
    have unmentioned : ∀ qualifier ∈ ["a".toList, "b".toList],
        ∀ content ∈ ["c.k".toList, "d.k".toList],
          mentions qualifier (quoted content) = false := by decide +kernel
    have mentioned := mentions_iff.mpr names
    rw [unmentioned qualifier known content listed] at mentioned
    cases mentioned
  have innocuous : ∀ content ∈ ["c.k".toList, "d.k".toList],
      Innocuous "a".toList "b".toList content := by
    intro content listed
    have solid : ∀ content ∈ ["c.k".toList, "d.k".toList],
        (quoted content).all (!isBlank ·) = true := by decide +kernel
    have noBlank : ∀ c ∈ quoted content, isBlank c = false := by
      simpa using List.all_eq_true.mp (solid content listed)
    exact ⟨not_holdsAnd_of_solid noBlank, absent _ (by decide) content listed,
      absent _ (by decide) content listed⟩
  have one := innocuous "c.k".toList (by decide)
  have other := innocuous "d.k".toList (by decide)
  exact ⟨plainLeft, plainRight, one, other,
    ((influence_of_literal _ _ _ _).2 plainLeft plainRight).2 one other _ _, by decide +kernel⟩

/-- A content that names an alias moves its condition, a content with AND between blanks makes
    two conditions of one, and an alias with a single quote in it may begin in a literal. -/
theorem literal_not_opaque :
    destinations "a".toList "b".toList ("b.m = ".toList ++ (quoted "c.k".toList ++ [])) =
        [.right] ∧
      destinations "a".toList "b".toList ("b.m = ".toList ++ (quoted "a.k".toList ++ [])) =
        [.left] ∧
      (conjuncts ("b.m = ".toList ++ (quoted "x or y".toList ++ []))).length = 1 ∧
      (conjuncts ("b.m = ".toList ++ (quoted "x and y".toList ++ []))).length = 2 ∧
      destinations "x'".toList "b".toList ([] ++ (quoted "x".toList ++ ".k = 1".toList)) =
        [.left] ∧
      destinations "x'".toList "b".toList ([] ++ (quoted "y".toList ++ ".k = 1".toList)) =
        [.neither] := by
  refine ⟨?_, ?_, ?_, ?_, ?_, ?_⟩ <;> decide +kernel

end SqlGateway.Condition
