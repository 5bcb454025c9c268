import Mathlib.Data.List.Basic
import SqlGateway.Proofs.Condition.Partition
import SqlGateway.Proofs.JoinQuery.Verbatim
import SqlGateway.Proofs.Text.Letters

/-!
# Conditions without qualifiers

The qualifiers of an alias are removed in a single pass, which judges every place in the text as
it was. What is left could therefore name an alias that did not stand there before: the text in
front of a qualifier and the text behind it come together.

This does not happen, because a qualifier stands at a word boundary and is followed by a point,
and so nothing is ever removed within a word or at its end. The aliases must not have an iota in
them for this: an iota that is written below another letter is the same letter, but no part of a
word, so it makes a boundary in the middle of the alias. For every alias with an iota there is a
text of which the pass leaves the alias. The aliases of a join have none, since the letters of its
words are those of ASCII.
-/

namespace SqlGateway.Condition

open Text Token

/-- An alias of word characters, without iota. -/
structure IsWordName (name : List Char) : Prop where
  /-- There is at least one character. -/
  nonempty : name ≠ []
  /-- All characters may be parts of words. -/
  word : ∀ c ∈ name, isWord c = true
  /-- No character is a form of the letter iota. -/
  noIota : ∀ c ∈ name, sameLetter c 'ι' = false

/-- Whether a text is such an alias is found out character by character. -/
theorem isWordName_iff {name : List Char} :
    IsWordName name ↔
      (!name.isEmpty && name.all fun c => isWord c && !sameLetter c 'ι') = true := by
  simp only [Bool.and_eq_true, Bool.not_eq_true', List.isEmpty_eq_false_iff, List.all_eq_true]
  constructor
  · intro isName
    exact ⟨isName.nonempty, fun c member => ⟨isName.word c member, isName.noIota c member⟩⟩
  · rintro ⟨nonempty, each⟩
    exact ⟨nonempty, fun c member => (each c member).1, fun c member => (each c member).2⟩

instance (name : List Char) : Decidable (IsWordName name) :=
  decidable_of_iff _ isWordName_iff.symm

/-- The pushed conditions of a split are without qualifiers: nothing that goes left names the
    left alias, and nothing that goes right names any of the two. -/
structure Bare (leftAlias rightAlias : List Char) (split : Split) : Prop where
  /-- The left alias is gone from the left side. -/
  left : ∀ conjunct ∈ split.left, ¬ Names leftAlias conjunct
  /-- Both aliases are gone from the right side. -/
  right : ∀ conjunct ∈ split.right, ¬ Names leftAlias conjunct ∧ ¬ Names rightAlias conjunct

/-- However an alias is written, in large or small letters, it consists of word characters. -/
theorem IsWordName.word_of_spelled {qualifier name : List Char} (isName : IsWordName qualifier)
    (spelled : name.map fold = qualifier.map fold) : ∀ c ∈ name, isWord c = true := by
  intro c member
  have folded : fold c ∈ qualifier.map fold := spelled ▸ List.mem_map_of_mem member
  obtain ⟨a, listed, same⟩ := List.mem_map.mp folded
  exact isWord_of_sameLetter (isName.word a listed) (isName.noIota a listed)
    (beq_iff_eq.mpr same)

/-- However an alias is written, it is not empty. -/
theorem IsWordName.ne_nil_of_spelled {qualifier name : List Char} (isName : IsWordName qualifier)
    (spelled : name.map fold = qualifier.map fold) : name ≠ [] := by
  rintro rfl
  exact isName.nonempty (List.map_eq_nil_iff.mp spelled.symm)

/-- A qualifier does not stand behind a word character. -/
theorem IsWordName.before_of_qualifiedAt {qualifier text rest : List Char} {before : Option Char}
    (isName : IsWordName qualifier) (stands : QualifiedAt qualifier before text rest) :
    before.any isWord = false := by
  obtain ⟨boundary, name, rfl, spelled⟩ := stands
  obtain ⟨c, others, rfl⟩ := List.exists_cons_of_ne_nil (isName.ne_nil_of_spelled spelled)
  have starts : isWord c = true := isName.word_of_spelled spelled c List.mem_cons_self
  simpa [isBoundary, starts] using boundary

/-- Nothing is removed from the rest of a word and the point behind it. The induction goes over
    the word. -/
theorem Unqualified.point_behind_word {qualifier text word after : List Char} {before : Option Char}
    (isName : IsWordName qualifier) (inWord : before.any isWord = true)
    (all : ∀ c ∈ word, isWord c = true)
    (strips : Unqualified qualifier before text (word ++ '.' :: after)) :
    ∃ rest, text = word ++ '.' :: rest := by
  induction word generalizing before text with
  | nil =>
    cases strips with
    | removed here others =>
      rw [isName.before_of_qualifiedAt here] at inWord
      cases inWord
    | kept elsewhere others => exact ⟨_, rfl⟩
  | cons c word inductionHypothesis =>
    cases strips with
    | removed here others =>
      rw [isName.before_of_qualifiedAt here] at inWord
      cases inWord
    | kept elsewhere others =>
      obtain ⟨starts, later⟩ := List.forall_mem_cons.mp all
      have goesOn : (some c).any isWord = true := starts
      obtain ⟨rest, rfl⟩ := inductionHypothesis goesOn later others
      exact ⟨rest, rfl⟩

/-- Given the character before a text, an alias is named in it at a place where another alias is
    not. -/
def NamesApart (qualifier other : List Char) (before : Option Char) (text : List Char) : Prop :=
  ∃ front behind rest, text = front ++ behind ∧
    QualifiedAt qualifier (front.getLast?.or before) behind rest ∧
    ∀ after, ¬ QualifiedAt other (front.getLast?.or before) behind after

/-- What is named behind the first part of a text is named in the text. -/
theorem NamesApart.append {qualifier other text : List Char} {before : Option Char} {c : Char}
    (first : List Char) (apart : NamesApart qualifier other (some c) text) :
    NamesApart qualifier other before (first ++ c :: text) := by
  obtain ⟨front, behind, rest, rfl, stands, elsewhere⟩ := apart
  have last : (first ++ c :: front).getLast?.or before = front.getLast?.or (some c) := by
    rw [List.getLast?_append, Option.or_assoc, getLast?_cons_or]
  refine ⟨first ++ c :: front, behind, rest, by simp, ?_, ?_⟩
  · rwa [last]
  · rwa [last]

/-- What a text names after the qualifiers of an alias are removed, it named before, at a place
    where nothing is removed. The induction follows the removal. The character before what is
    left may be another one than the character before the text, but it is part of a word exactly
    if that one is. -/
theorem Unqualified.namesApart {qualifier removed text result : List Char} {before : Option Char}
    (isName : IsWordName qualifier) (isRemoved : IsWordName removed)
    (strips : Unqualified removed before text result) :
    ∀ (left : Option Char) (front behind rest : List Char),
      left.any isWord = before.any isWord → result = front ++ behind →
      QualifiedAt qualifier (front.getLast?.or left) behind rest →
      NamesApart qualifier removed before text := by
  induction strips with
  | nothing =>
    intro left front behind rest _ whole stands
    rw [(List.append_eq_nil_iff.mp whole.symm).2] at stands
    exact absurd stands not_qualifiedAt_nil
  | removed here others inductionHypothesis =>
    intro left front behind rest same whole stands
    have outside := isRemoved.before_of_qualifiedAt here
    have point : isWord '.' = false := by decide
    obtain ⟨_, name, rfl, _⟩ := here
    refine .append name (inductionHypothesis left front behind rest ?_ whole stands)
    rw [same, outside, Option.any_some, point]
  | @kept before c text result elsewhere others inductionHypothesis =>
    intro left front behind rest same whole stands
    cases front with
    | cons d front =>
      cases whole
      refine .append [] (inductionHypothesis (some c) front behind rest rfl rfl ?_)
      rwa [← getLast?_cons_or]
    | nil =>
      cases whole
      obtain ⟨boundary, name, spelledOut, spelled⟩ := stands
      have word := isName.word_of_spelled spelled
      obtain ⟨d, name, rfl⟩ := List.exists_cons_of_ne_nil (isName.ne_nil_of_spelled spelled)
      cases spelledOut
      obtain ⟨starts, later⟩ := List.forall_mem_cons.mp word
      have inWord : (some c).any isWord = true := starts
      -- The alias begins with a kept character, so all of it and its point are kept.
      obtain ⟨rest, rfl⟩ := others.point_behind_word isRemoved inWord later
      refine ⟨[], _, rest, rfl, ⟨?_, c :: name, rfl, spelled⟩, elsewhere⟩
      simpa [isBoundary, same] using boundary

/-- What a text names without the qualifiers of an alias, it names with them, at a place where
    none of them stands. -/
theorem Unqualified.names {qualifier removed text result : List Char}
    (isName : IsWordName qualifier) (isRemoved : IsWordName removed)
    (strips : Unqualified removed none text result) (names : Names qualifier result) :
    NamesApart qualifier removed none text := by
  obtain ⟨front, behind, rest, whole, stands⟩ := names
  refine strips.namesApart isName isRemoved none front behind rest rfl whole ?_
  rwa [Option.or_none]

/-- A text without the qualifiers of an alias does not name the alias. -/
theorem Unqualified.not_names {qualifier text result : List Char} (isName : IsWordName qualifier)
    (strips : Unqualified qualifier none text result) : ¬ Names qualifier result := by
  intro names
  obtain ⟨front, behind, rest, _, stands, elsewhere⟩ := strips.names isName isName names
  exact elsewhere rest stands

/-- Removing the qualifiers of an alias does not make a text name another one. -/
theorem Unqualified.not_names_other {qualifier removed text result : List Char}
    (isName : IsWordName qualifier) (isRemoved : IsWordName removed)
    (strips : Unqualified removed none text result) (other : ¬ Names qualifier text) :
    ¬ Names qualifier result := by
  intro names
  obtain ⟨front, behind, rest, whole, stands, _⟩ := strips.names isName isRemoved names
  rw [Option.or_none] at stands
  exact other ⟨front, behind, rest, whole, stands⟩

/-- Conditions that go to their sides leave their qualifiers behind. The induction goes over the
    conditions. -/
theorem Routed.bare {leftAlias rightAlias : List Char} {conditions : List (List Char)}
    {split : Split} (isLeft : IsWordName leftAlias) (isRight : IsWordName rightAlias)
    (routed : Routed leftAlias rightAlias conditions split) : Bare leftAlias rightAlias split := by
  induction routed with
  | nothing => exact ⟨List.forall_mem_nil _, List.forall_mem_nil _⟩
  | left names strips others inductionHypothesis =>
    exact ⟨List.forall_mem_cons.mpr ⟨strips.not_names isLeft, inductionHypothesis.left⟩,
      inductionHypothesis.right⟩
  | right other names strips others inductionHypothesis =>
    exact ⟨inductionHypothesis.left, List.forall_mem_cons.mpr
      ⟨⟨strips.not_names_other isLeft isRight other, strips.not_names isRight⟩,
        inductionHypothesis.right⟩⟩
  | dropped notLeft notRight others inductionHypothesis =>
    exact ⟨inductionHypothesis.left, inductionHypothesis.right⟩

/-- Every WHERE text is split, and however often and however close together the qualifiers stand
    in it, the conditions of the split carry none of their own side, and those of the right side
    none of the left one either. The same holds of a strict split, if it does not refuse the
    text. -/
theorem splitConditions_bare {leftAlias rightAlias : List Char} (isLeft : IsWordName leftAlias)
    (isRight : IsWordName rightAlias) (text : List Char) :
    (∃ split, JoinQuery.splitConditions false leftAlias rightAlias text = .ok split) ∧
      ∀ strict split, JoinQuery.splitConditions strict leftAlias rightAlias text = .ok split →
        Bare leftAlias rightAlias split := by
  refine ⟨⟨split leftAlias rightAlias text, rfl⟩, ?_⟩
  intro strict result ok
  obtain ⟨rfl, _⟩ := JoinQuery.splitConditions_eq_ok_iff.mp ok
  exact (routed_split leftAlias rightAlias text).bare isLeft isRight

/-- Conditions with many qualifiers next to each other, in large and small letters. -/
theorem splitConditions_bare_repeated :
    ∃ split, JoinQuery.splitConditions true "a".toList "b".toList
        "A.a.x = a.A.y AND b.B.z = 1 AND a.b.a.w > 2".toList = .ok split ∧
      split.left = ["x = y".toList, "b.w > 2".toList] ∧ split.right = ["z = 1".toList] ∧
      Bare "a".toList "b".toList split := by
  have isLeft : IsWordName "a".toList := by decide +kernel
  have isRight : IsWordName "b".toList := by decide +kernel
  have computed : JoinQuery.splitConditions true "a".toList "b".toList
      "A.a.x = a.A.y AND b.B.z = 1 AND a.b.a.w > 2".toList =
        .ok ⟨["x = y".toList, "b.w > 2".toList], ["z = 1".toList], []⟩ :=
    JoinQuery.splitConditions_eq_ok_iff.mpr ⟨by decide +kernel, fun _ => rfl⟩
  exact ⟨_, computed, rfl, rfl, (splitConditions_bare isLeft isRight _).2 true _ computed⟩

/-- With an iota in the alias, what goes to its side may name it: the iota below another letter
    ends a word, so a qualifier behind it is removed, and the rest of the alias comes to stand
    there. -/
theorem splitConditions_names_iota :
    "ιb".toList ≠ "o".toList ∧ (∀ c ∈ "ιb".toList ++ "o".toList, isWord c = true) ∧
      JoinQuery.splitConditions false "ιb".toList "o".toList "ι\u0345b.b.x = 1".toList =
        .ok ⟨["ιb.x = 1".toList], [], []⟩ ∧
      ¬ Bare "ιb".toList "o".toList ⟨["ιb.x = 1".toList], [], []⟩ := by
  have different : "ιb".toList ≠ "o".toList := by decide
  have word : ∀ c ∈ "ιb".toList ++ "o".toList, isWord c = true :=
    List.all_eq_true.mp (by decide +kernel)
  have computed : JoinQuery.splitConditions false "ιb".toList "o".toList
      "ι\u0345b.b.x = 1".toList = .ok ⟨["ιb.x = 1".toList], [], []⟩ :=
    JoinQuery.splitConditions_eq_ok_iff.mpr ⟨by decide +kernel, fun _ => rfl⟩
  have mentioned : mentions "ιb".toList "ιb.x = 1".toList = true := by decide +kernel
  refine ⟨different, word, computed, fun bare => ?_⟩
  exact bare.left _ List.mem_cons_self (mentions_iff.mp mentioned)

/-- No word character is a form of the point. -/
theorem fold_ne_point {c : Char} (word : isWord c = true) : fold c ≠ fold '.' := by
  intro same
  have other : sameLetter '.' 'ι' = false := by decide +kernel
  have noIota : sameLetter c 'ι' = false := by
    rw [sameLetter, same]
    exact other
  have point : isWord '.' = true := isWord_of_sameLetter word noIota (beq_iff_eq.mpr same)
  cases point

/-- Where an alias stands, the first point behind is as far away as the alias is long. -/
theorem QualifiedAt.length_eq {qualifier after rest : List Char} {before : Option Char}
    (all : ∀ c ∈ qualifier, isWord c = true) (word : List Char) (noPoint : '.' ∉ word)
    (stands : QualifiedAt qualifier before (word ++ '.' :: after) rest) :
    word.length = qualifier.length := by
  obtain ⟨_, name, whole, spelled⟩ := stands
  have noPointToo : '.' ∉ name := by
    intro member
    have folded : fold '.' ∈ qualifier.map fold := spelled ▸ List.mem_map_of_mem member
    obtain ⟨c, listed, same⟩ := List.mem_map.mp folded
    exact fold_ne_point (all c listed) same
  have place := congrArg (List.idxOf '.') whole
  rw [List.idxOf_append_of_notMem noPoint, List.idxOf_append_of_notMem noPointToo,
    List.idxOf_cons_self, List.idxOf_cons_self] at place
  have length := congrArg List.length spelled
  rw [List.length_map, List.length_map] at length
  omega

/-- There is no point among word characters. -/
theorem point_not_mem {word : List Char} (all : ∀ c ∈ word, isWord c = true) : '.' ∉ word := by
  intro member
  cases all '.' member

/-- A word stays as it is if there is no place in it from which the next point is as far away as
    the alias is long. The induction goes over the word. -/
theorem Unqualified.keep {qualifier after result : List Char} {before : Option Char}
    (all : ∀ c ∈ qualifier, isWord c = true) (word others : List Char)
    (noPoint : '.' ∉ word ++ others)
    (apart : ∀ n < word.length, n + 1 + others.length ≠ qualifier.length)
    (strips : Unqualified qualifier (word.getLast?.or before) (others ++ '.' :: after) result) :
    Unqualified qualifier before (word ++ (others ++ '.' :: after)) (word ++ result) := by
  induction word generalizing before with
  | nil => exact strips
  | cons c word inductionHypothesis =>
    rw [getLast?_cons_or] at strips
    refine .kept ?_ (inductionHypothesis (fun member => noPoint (.tail c member)) ?_ strips)
    · intro rest stands
      change QualifiedAt qualifier before (c :: (word ++ (others ++ '.' :: after))) rest at stands
      rw [← List.append_assoc, ← List.cons_append] at stands
      have length := stands.length_eq all (c :: (word ++ others)) noPoint
      rw [List.length_cons, List.length_append] at length
      have away := apart word.length (Nat.lt_succ_self _)
      omega
    · intro n shorter
      exact apart n (Nat.lt_succ_of_lt shorter)

/-- A whole qualifier between two parts of a word is removed if there is a word boundary, and
    the parts come together. -/
theorem unqualified_between {qualifier rest : List Char} {mark : Char} (front : List Char)
    (all : ∀ c ∈ qualifier, isWord c = true) (isMark : isWord mark = false) (notPoint : mark ≠ '.')
    (frontWord : ∀ c ∈ front, isWord c = true) (restWord : ∀ c ∈ rest, isWord c = true)
    (shorter : rest.length < qualifier.length) :
    Unqualified qualifier none (front ++ mark :: (qualifier ++ '.' :: (rest ++ ['.'])))
      (front ++ mark :: (rest ++ ['.'])) := by
  have ends : ∀ before, Unqualified qualifier before ['.'] ['.'] := by
    intro before
    refine .kept ?_ .nothing
    intro after stands
    have length := QualifiedAt.length_eq all [] List.not_mem_nil stands
    rw [List.length_nil] at length
    omega
  have behind : Unqualified qualifier (some '.') (rest ++ ['.']) (rest ++ ['.']) := by
    refine .keep all rest [] (by simpa using point_not_mem restWord) ?_ (ends _)
    intro n within
    rw [List.length_nil]
    omega
  obtain ⟨c, others, rfl⟩ := List.exists_cons_of_length_pos (Nat.zero_lt_of_lt shorter)
  have starts : isWord c = true := all c List.mem_cons_self
  have here : QualifiedAt (c :: others) (some mark) (c :: others ++ '.' :: (rest ++ ['.']))
      (rest ++ ['.']) := ⟨by simp [isBoundary, isMark, starts], c :: others, rfl, rfl⟩
  have kept : Unqualified (c :: others) none
      ((front ++ [mark]) ++ (c :: others ++ '.' :: (rest ++ ['.'])))
      ((front ++ [mark]) ++ (rest ++ ['.'])) := by
    refine .keep all (front ++ [mark]) (c :: others) ?_ ?_ ?_
    · simp only [List.mem_append, List.mem_singleton, not_or]
      exact ⟨⟨point_not_mem frontWord, notPoint.symm⟩, point_not_mem all⟩
    · intro n _
      omega
    · rw [List.getLast?_append, List.getLast?_singleton, Option.some_or, Option.some_or]
      exact .removed here behind
  simpa using kept

/-- There is only one text without the qualifiers of an alias. -/
theorem Unqualified.eq_withoutQualifierFrom {qualifier text result : List Char}
    {before : Option Char} (strips : Unqualified qualifier before text result) :
    result = withoutQualifierFrom qualifier before text := by
  induction strips with
  | nothing => rw [withoutQualifierFrom]
  | @removed before text rest result here others inductionHypothesis =>
    cases text with
    | nil => exact absurd here not_qualifiedAt_nil
    | cons c text =>
      rw [withoutQualifierFrom_of_some (qualifierAt?_eq_some_iff.mpr here), inductionHypothesis]
  | kept elsewhere others inductionHypothesis =>
    rw [withoutQualifierFrom_of_none (qualifierAt?_eq_none_iff.mpr elsewhere),
      inductionHypothesis]

/-- For every alias with an iota there is a text that names the alias when its qualifiers are
    removed: behind the iota below another letter stands a whole qualifier, and behind it the
    rest of the alias. -/
theorem exists_names_of_iota {qualifier : List Char} (all : ∀ c ∈ qualifier, isWord c = true)
    (iota : ∃ c ∈ qualifier, sameLetter c 'ι' = true) :
    ∃ text, Names qualifier (withoutQualifier qualifier text) := by
  suffices spliced : ∃ text result, Unqualified qualifier none text result ∧
      Names qualifier result by
    obtain ⟨text, result, strips, names⟩ := spliced
    rw [strips.eq_withoutQualifierFrom] at names
    exact ⟨text, names⟩
  obtain ⟨i, listed, same⟩ := iota
  obtain ⟨front, rest, rfl⟩ := List.append_of_mem listed
  obtain ⟨_, letter, below⟩ := not_isWord_of_sameLetter
  have spelled : (front ++ '\u0345' :: rest).map fold = (front ++ i :: rest).map fold := by
    have folded : fold '\u0345' = fold i :=
      (beq_iff_eq.mp letter).symm.trans (beq_iff_eq.mp same).symm
    rw [List.map_append, List.map_append, List.map_cons, List.map_cons, folded]
  have restWord : ∀ c ∈ rest, isWord c = true := fun c member => all c (by simp [member])
  have shorter : rest.length < (front ++ i :: rest).length := by
    rw [List.length_append, List.length_cons]
    omega
  have notPoint : '\u0345' ≠ '.' := by decide
  cases front with
  | nil =>
    -- In front of the iota there must be something that makes a boundary with it.
    have starts : isWord 'x' = true := by decide
    refine ⟨_, _, unqualified_between ['x'] all below notPoint
      (List.forall_mem_singleton.mpr starts) restWord shorter,
      ['x'], '\u0345' :: (rest ++ ['.']), [], rfl, ?_, '\u0345' :: rest, rfl, spelled⟩
    simp [isBoundary, starts, below]
  | cons c front =>
    refine ⟨_, _, unqualified_between (c :: front) all below notPoint ?_ restWord shorter,
      [], c :: front ++ '\u0345' :: (rest ++ ['.']), [], rfl, ?_, c :: front ++ '\u0345' :: rest,
        by simp, spelled⟩
    · intro d member
      exact all d (List.mem_append_left _ member)
    · have starts : isWord c = true := all c (by simp)
      simp [isBoundary, starts]

/-- There is no iota in a word of a query. -/
theorem noIota_of_word {unit : List Char} (spells : Token.Kind.word.Spells unit) :
    ∀ c ∈ unit, sameLetter c 'ι' = false := by
  have outside : ∀ code ∈ iotaCodes, isDigit (Char.ofNat code) = false ∧
      isWordStart (Char.ofNat code) = false ∧ isWordPart (Char.ofNat code) = false := by
    decide +kernel
  obtain ⟨digits, first, tail, rfl, inside, starts, parts⟩ := spells
  intro c member
  rw [← Bool.not_eq_true]
  intro iota
  obtain ⟨noDigit, noStart, noPart⟩ := outside c.toNat (toNat_mem_iotaCodes iota)
  rw [Char.ofNat_toNat] at noDigit noStart noPart
  rcases List.mem_append.mp member with digit | rest
  · exact Bool.false_ne_true (noDigit.symm.trans (inside c digit))
  · rcases List.mem_cons.mp rest with rfl | part
    · exact Bool.false_ne_true (noStart.symm.trans starts)
    · exact Bool.false_ne_true (noPart.symm.trans (parts c part))

/-- An alias of a join has no iota, and it is a name if it has only word characters. -/
theorem isWordName_of_spells {name : List Char} (spells : Token.Kind.word.Spells name)
    (word : ∀ c ∈ name, isWord c = true) : IsWordName name where
  nonempty := by
    obtain ⟨digits, first, tail, rfl, _⟩ := spells
    exact List.append_ne_nil_of_right_ne_nil _ (List.cons_ne_nil _ _)
  word := word
  noIota := noIota_of_word spells

end SqlGateway.Condition

namespace SqlGateway.JoinQuery

open Text

/-- The conditions of an accepted join carry no qualifier of their own side, and those of the
    right side none of the left one either, if the aliases have only word characters. -/
theorem conditions_bare {strict : Bool} {sql : List Char} {query : JoinQuery}
    (accepted : parse strict sql = .ok query)
    (word : ∀ c ∈ query.left.label.toList ++ query.right.label.toList, isWord c = true) :
    (∀ condition ∈ query.leftConditions,
      ¬ Condition.Names query.left.label.toList condition.toList) ∧
      ∀ condition ∈ query.rightConditions,
        ¬ Condition.Names query.left.label.toList condition.toList ∧
          ¬ Condition.Names query.right.label.toList condition.toList := by
  obtain ⟨⟨bodies, readAs⟩, _⟩ := parse_eq_ok_iff_readAs.mp accepted
  obtain ⟨left, right⟩ := readAs.labels_spell (Token.scan_layout (squeeze sql))
  obtain ⟨leftWord, rightWord⟩ := List.forall_mem_append.mp word
  have bare : Condition.Bare query.left.label.toList query.right.label.toList query.splitOf :=
    (Condition.routed_split _ _ _).bare (Condition.isWordName_of_spells left leftWord)
      (Condition.isWordName_of_spells right rightWord)
  rw [← readAs.withConditions_eq]
  constructor
  · intro condition member
    obtain ⟨conjunct, kept, rfl⟩ := List.mem_map.mp member
    rw [String.toList_ofList]
    exact bare.left conjunct kept
  · intro condition member
    obtain ⟨conjunct, kept, rfl⟩ := List.mem_map.mp member
    rw [String.toList_ofList]
    exact bare.right conjunct kept

end SqlGateway.JoinQuery
