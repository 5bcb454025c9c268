import SqlGateway.Proofs.Text.Blank
import SqlGateway.Token

/-!
# Tokens and the text between them

The tokens of a text lie in it one after the other, with nothing but blanks before,
between and behind them, and each one is spelled as its kind demands. This is stated as a
relation between a text and its tokens that does not mention how units are recognised, so
later proofs cut a text at its tokens without looking into the scanner.

The relation keeps one fact about what follows a token: a word goes on as far as it can.
Two words are therefore never adjacent.
-/

namespace SqlGateway.Token

open Text

/-- A text in which every single quote is one of a pair of neighbours. -/
inductive QuotesDoubled : List Char → Prop where
  | nil : QuotesDoubled []
  | pair {rest : List Char} (doubled : QuotesDoubled rest) : QuotesDoubled ('\'' :: '\'' :: rest)
  | plain {c : Char} {rest : List Char} (other : c ≠ '\'') (doubled : QuotesDoubled rest) :
      QuotesDoubled (c :: rest)

/-- How units of a kind are spelled. -/
def Kind.Spells : Kind → List Char → Prop
  | .string, unit => ∃ body, unit = '\'' :: (body ++ ['\'']) ∧ QuotesDoubled body
  | .bracket, unit => ∃ body, unit = '[' :: (body ++ [']']) ∧ ']' ∉ body
  | .quoted, unit => ∃ body, unit = '"' :: (body ++ ['"']) ∧ '"' ∉ body
  | .word, unit => ∃ digits c tail, unit = digits ++ c :: tail ∧
      (∀ digit ∈ digits, isDigit digit = true) ∧ isWordStart c = true ∧
      ∀ part ∈ tail, isWordPart part = true
  | .number, unit => ∃ whole, whole ≠ [] ∧ (∀ digit ∈ whole, isDigit digit = true) ∧
      (unit = whole ∨ ∃ fraction, fraction ≠ [] ∧ (∀ digit ∈ fraction, isDigit digit = true) ∧
        unit = whole ++ '.' :: fraction)
  | .operator, unit => unit ∈ longOperators ∨ ∃ mark ∈ shortOperators, unit = [mark]
  | .other, unit => ∃ c, isBlank c = false ∧ unit = [c]

/-- The start of a text is a unit of some kind, and a word does not go on behind it. -/
structure Reads (kind : Kind) (unit after : List Char) : Prop where
  /-- The unit is spelled as its kind demands. -/
  spells : kind.Spells unit
  /-- A word goes on as far as it can. -/
  longest : kind = .word → ∀ c, after.head? = some c → isWordPart c = false

/-- Where a text holds which tokens, if it begins `start` characters into the whole. -/
inductive Layout : Nat → List Char → List Token → Prop where
  | blank {start : Nat} {gap : List Char} (blank : ∀ c ∈ gap, isBlank c = true) :
      Layout start gap []
  | token {start : Nat} {gap after : List Char} {token : Token} {later : List Token}
      (blank : ∀ c ∈ gap, isBlank c = true) (place : token.start = start + gap.length)
      (reads : Reads token.kind token.text after) (rest : Layout token.stop after later) :
      Layout start (gap ++ (token.text ++ after)) (token :: later)

/-- A quoted text is closed by a quote behind doubled ones. -/
theorem stringExtent?_eq_some {text : List Char} {extent : Nat}
    (read : stringExtent? text = some extent) :
    ∃ body after, text = body ++ '\'' :: after ∧ extent = body.length + 1 ∧ QuotesDoubled body := by
  fun_induction stringExtent? text generalizing extent with
  | case1 rest inner found inductionHypothesis =>
    cases read
    obtain ⟨body, after, rfl, rfl, doubled⟩ := inductionHypothesis found
    exact ⟨'\'' :: '\'' :: body, after, rfl, rfl, .pair doubled⟩
  | case2 rest =>
    cases read
    exact ⟨[], '\'' :: rest, rfl, rfl, .nil⟩
  | case3 rest =>
    cases read
    exact ⟨[], rest, rfl, rfl, .nil⟩
  | case4 c rest _ notQuote inductionHypothesis =>
    obtain ⟨inner, found, rfl⟩ := Option.map_eq_some_iff.mp read
    obtain ⟨body, after, rfl, rfl, doubled⟩ := inductionHypothesis found
    exact ⟨c :: body, after, rfl, rfl, .plain notQuote doubled⟩
  | case5 => cases read

/-- A delimited name goes up to the first closing mark. -/
theorem closeExtent?_eq_some {mark : Char} {text : List Char} {extent : Nat}
    (read : closeExtent? mark text = some extent) :
    ∃ body after, text = body ++ mark :: after ∧ extent = body.length + 1 ∧ mark ∉ body := by
  induction text generalizing extent with
  | nil => simp [closeExtent?] at read
  | cons c rest inductionHypothesis =>
    obtain ⟨place, found, rfl⟩ := Option.map_eq_some_iff.mp read
    rw [List.idxOf?_cons] at found
    split at found
    · next same =>
      cases found
      exact ⟨[], rest, by rw [beq_iff_eq.mp same]; rfl, rfl, List.not_mem_nil⟩
    · next other =>
      obtain ⟨inner, later, rfl⟩ := Option.map_eq_some_iff.mp found
      have closed : closeExtent? mark rest = some (inner + 1) := by simp [closeExtent?, later]
      obtain ⟨body, after, rfl, length, absent⟩ := inductionHypothesis closed
      refine ⟨c :: body, after, rfl, by simpa using length, ?_⟩
      simp only [List.mem_cons, not_or]
      exact ⟨fun same => other (beq_iff_eq.mpr same.symm), absent⟩

/-- A run of characters of a class, and what it is followed by. -/
theorem span_eq (belongs : Char → Bool) (text : List Char) :
    ∃ run after, text = run ++ after ∧ text.takeWhile belongs = run ∧
      text.dropWhile belongs = after ∧ (∀ c ∈ run, belongs c = true) ∧
      ∀ c, after.head? = some c → belongs c = false := by
  refine ⟨_, _, List.takeWhile_append_dropWhile.symm, rfl, rfl, ?_, ?_⟩
  · exact List.all_eq_true.mp List.all_takeWhile
  · intro c first
    have stop := List.head?_dropWhile_not belongs text
    rw [first] at stop
    exact stop

/-- A plain name has a letter behind its leading digits, and goes on as far as it can. -/
theorem wordExtent?_eq_some {text : List Char} {extent : Nat}
    (read : wordExtent? text = some extent) :
    ∃ unit after, text = unit ++ after ∧ extent = unit.length ∧ Reads .word unit after := by
  obtain ⟨digits, behind, rfl, taken, dropped, inside, _⟩ := span_eq isDigit text
  simp only [wordExtent?, taken, dropped] at read
  split at read
  · next c rest _ =>
    split at read
    · next starts =>
      obtain ⟨tail, after, rfl, partsTaken, _, parts, stops⟩ := span_eq isWordPart rest
      cases read
      refine ⟨digits ++ c :: tail, after, by simp, by simp [partsTaken]; omega, ?_, ?_⟩
      · exact ⟨digits, c, tail, rfl, inside, starts, parts⟩
      · intro _
        exact stops
    · cases read
  · cases read

/-- A number is a run of digits, or two with a point between them. -/
theorem numberExtent?_eq_some {text : List Char} {extent : Nat}
    (read : numberExtent? text = some extent) :
    ∃ unit after, text = unit ++ after ∧ extent = unit.length ∧ Kind.number.Spells unit := by
  obtain ⟨whole, behind, rfl, taken, dropped, inside, _⟩ := span_eq isDigit text
  simp only [numberExtent?, taken, dropped] at read
  split at read
  · cases read
  · next many =>
    have nonempty : whole ≠ [] := fun none => many (by simp [none])
    have alone : Kind.number.Spells whole := ⟨whole, nonempty, inside, Or.inl rfl⟩
    split at read
    · next rest _ =>
      obtain ⟨fraction, after, rfl, fractionTaken, _, digits, _⟩ := span_eq isDigit rest
      rw [fractionTaken] at read
      split at read
      · cases read
        exact ⟨whole, _, rfl, rfl, alone⟩
      · next more =>
        cases read
        refine ⟨whole ++ '.' :: fraction, after, by simp, by simp; omega, whole, nonempty, inside,
          Or.inr ⟨fraction, fun none => more (by simp [none]), digits, rfl⟩⟩
    · cases read
      exact ⟨whole, _, rfl, rfl, alone⟩

/-- An operator is one of the listed ones. -/
theorem operatorExtent?_eq_some {text : List Char} {extent : Nat}
    (read : operatorExtent? text = some extent) :
    ∃ unit after, text = unit ++ after ∧ extent = unit.length ∧ Kind.operator.Spells unit := by
  unfold operatorExtent? at read
  split at read
  · next long =>
    cases read
    obtain ⟨unit, listed, starts⟩ := List.any_eq_true.mp long
    obtain ⟨after, rfl⟩ := List.isPrefixOf_iff_prefix.mp starts
    have two : ∀ unit ∈ longOperators, 2 = unit.length := by decide
    exact ⟨unit, after, rfl, two unit listed, Or.inl listed⟩
  · split at read
    · next short =>
      cases read
      cases text with
      | nil => simp at short
      | cons mark after =>
        have listed : mark ∈ shortOperators := by simpa using short
        exact ⟨[mark], after, rfl, rfl, Or.inr ⟨mark, listed, rfl⟩⟩
    · cases read

/-- A unit between delimiters begins with the opening one. -/
theorem delimited_eq_some {c : Char} {rest : List Char} {kind : Kind} {extent : Nat}
    (read : lexeme.delimited c rest = some (kind, extent)) :
    ∃ unit after, c :: rest = unit ++ after ∧ 1 + extent = unit.length ∧ Reads kind unit after := by
  unfold lexeme.delimited at read
  split at read
  · obtain ⟨inner, found, same⟩ := Option.map_eq_some_iff.mp read
    cases same
    obtain ⟨body, after, rfl, rfl, doubled⟩ := stringExtent?_eq_some found
    refine ⟨'\'' :: (body ++ ['\'']), after, by simp, by simp; omega, ⟨body, rfl, doubled⟩, ?_⟩
    exact fun word => nomatch word
  · obtain ⟨inner, found, same⟩ := Option.map_eq_some_iff.mp read
    cases same
    obtain ⟨body, after, rfl, rfl, absent⟩ := closeExtent?_eq_some found
    refine ⟨'[' :: (body ++ [']']), after, by simp, by simp; omega, ⟨body, rfl, absent⟩, ?_⟩
    exact fun word => nomatch word
  · obtain ⟨inner, found, same⟩ := Option.map_eq_some_iff.mp read
    cases same
    obtain ⟨body, after, rfl, rfl, absent⟩ := closeExtent?_eq_some found
    refine ⟨'"' :: (body ++ ['"']), after, by simp, by simp; omega, ⟨body, rfl, absent⟩, ?_⟩
    exact fun word => nomatch word
  · cases read

/-- What is read at a place that is not blank is a unit of its kind. -/
theorem lexeme_eq_some {c : Char} {rest : List Char} {kind : Kind} {extent : Nat}
    (read : lexeme c rest = (some kind, extent)) :
    ∃ unit after, c :: rest = unit ++ after ∧ extent = unit.length ∧ Reads kind unit after := by
  unfold lexeme at read
  split at read
  · cases read
  · next visible =>
    split at read
    · next found =>
      cases read
      exact delimited_eq_some found
    · split at read
      · next found =>
        cases read
        exact wordExtent?_eq_some found
      · split at read
        · next found =>
          cases read
          obtain ⟨unit, after, whole, length, spells⟩ := numberExtent?_eq_some found
          exact ⟨unit, after, whole, length, spells, fun word => nomatch word⟩
        · split at read
          · next found =>
            cases read
            obtain ⟨unit, after, whole, length, spells⟩ := operatorExtent?_eq_some found
            exact ⟨unit, after, whole, length, spells, fun word => nomatch word⟩
          · cases read
            have spells : Kind.other.Spells [c] := ⟨c, by simpa using visible, rfl⟩
            exact ⟨[c], rest, rfl, rfl, spells, fun word => nomatch word⟩

/-- What is passed over is a run of blanks. -/
theorem lexeme_eq_none {c : Char} {rest : List Char} {extent : Nat}
    (read : lexeme c rest = (none, extent)) :
    ∃ gap after, c :: rest = gap ++ after ∧ extent = gap.length ∧ ∀ d ∈ gap, isBlank d = true := by
  unfold lexeme at read
  split at read
  · next blank =>
    obtain ⟨run, after, rfl, taken, _, inside, _⟩ := span_eq isBlank rest
    cases read
    refine ⟨c :: run, after, rfl, by simp [taken]; omega, ?_⟩
    intro d member
    rcases List.mem_cons.mp member with rfl | member
    · exact blank
    · exact inside d member
  · repeat' split at read
    all_goals cases read

/-- Blanks before a text do not change its tokens. -/
theorem Layout.blank_append {start : Nat} {gap text : List Char} {tokens : List Token}
    (blank : ∀ c ∈ gap, isBlank c = true) (layout : Layout (start + gap.length) text tokens) :
    Layout start (gap ++ text) tokens := by
  cases layout with
  | blank blankText =>
    refine .blank fun c member => ?_
    exact (List.mem_append.mp member).elim (blank c) (blankText c)
  | @token _ inner after token later blankInner place reads rest =>
    rw [← List.append_assoc]
    refine .token (fun c member => ?_) (by rw [place, List.length_append]; omega) reads rest
    exact (List.mem_append.mp member).elim (blank c) (blankInner c)

/-- The tokens of a text lie in it as they should. The induction follows the scanner: a
    run of blanks joins the gap before the next token, and a unit becomes a token. -/
theorem scanFrom_layout (start : Nat) (text : List Char) :
    Layout start text (scanFrom start text) := by
  fun_induction scanFrom start text with
  | case1 start => exact .blank (fun c member => nomatch member)
  | case2 start c rest unit later kind found inductionHypothesis =>
    have read : lexeme c rest = (some kind, unit.2) := Prod.ext found rfl
    obtain ⟨spelled, after, whole, length, reads⟩ := lexeme_eq_some read
    have taken : (c :: rest).take unit.2 = spelled := by rw [whole, length, List.take_left]
    have dropped : (c :: rest).drop unit.2 = after := by rw [whole, length, List.drop_left]
    rw [taken, whole]
    refine @Layout.token start [] after { kind, text := spelled, start } later ?_ rfl reads ?_
    · exact fun d member => nomatch member
    · rw [stop, ← length, ← dropped]
      exact inductionHypothesis
  | case3 start c rest unit later found inductionHypothesis =>
    have read : lexeme c rest = (none, unit.2) := Prod.ext found rfl
    obtain ⟨gap, after, whole, length, blank⟩ := lexeme_eq_none read
    have dropped : (c :: rest).drop unit.2 = after := by rw [whole, length, List.drop_left]
    rw [whole]
    refine Layout.blank_append blank ?_
    rw [← length, ← dropped]
    exact inductionHypothesis

/-- The tokens of a text in at most so many units. This is the scanner again, by recursion
    on a number, so the tokens of a given text can be computed in a proof. -/
def scanWithin : (units start : Nat) → List Char → List Token
  | units + 1, start, c :: rest =>
      let unit := lexeme c rest
      let later := scanWithin units (start + unit.2) ((c :: rest).drop unit.2)
      match unit.1 with
      | some kind => { kind, text := (c :: rest).take unit.2, start } :: later
      | none => later
  | _, _, _ => []

/-- One unit is read before the others. -/
theorem scanWithin_succ (units start : Nat) (c : Char) (rest : List Char) :
    scanWithin (units + 1) start (c :: rest) =
      match (lexeme c rest).1 with
      | some kind =>
          { kind, text := (c :: rest).take (lexeme c rest).2, start } ::
            scanWithin units (start + (lexeme c rest).2) ((c :: rest).drop (lexeme c rest).2)
      | none =>
          scanWithin units (start + (lexeme c rest).2) ((c :: rest).drop (lexeme c rest).2) := by
  rfl

/-- No text has more units than characters. -/
theorem scanFrom_eq_scanWithin {units : Nat} (start : Nat) {text : List Char}
    (enough : text.length ≤ units) : scanFrom start text = scanWithin units start text := by
  induction units generalizing start text with
  | zero =>
    obtain rfl := List.length_eq_zero_iff.mp (Nat.le_zero.mp enough)
    exact scanFrom.eq_def start []
  | succ units inductionHypothesis =>
    cases text with
    | nil => exact scanFrom.eq_def start []
    | cons c rest =>
      have progress := lexeme_pos c rest
      have shorter : ((c :: rest).drop (lexeme c rest).2).length ≤ units := by
        simp only [List.length_drop, List.length_cons] at enough ⊢
        omega
      have step := scanWithin_succ units start c rest
      rw [← inductionHypothesis _ shorter] at step
      exact (scanFrom.eq_def start (c :: rest)).trans step.symm

/-- The tokens of a text can be computed. -/
theorem scan_eq_scanWithin (text : List Char) : scan text = scanWithin text.length 0 text :=
  scanFrom_eq_scanWithin 0 (Nat.le_refl _)

/-- The tokens of a text lie in it from its start on. -/
theorem scan_layout (text : List Char) : Layout 0 text (scan text) :=
  scanFrom_layout 0 text

/-- No part of a plain name is a blank. -/
theorem isBlank_of_isWordPart {c : Char} (part : isWordPart c = true) : isBlank c = false :=
  isBlank_eq_false (by decide +kernel) part

/-- A letter that starts a plain name may also continue one. -/
theorem isWordPart_of_isWordStart {c : Char} (starts : isWordStart c = true) :
    isWordPart c = true := by
  simp only [isWordStart, Bool.or_eq_true] at starts
  rcases starts with letter | underscore
  · simp [isWordPart, Char.isAlphanum, letter]
  · simp [isWordPart, underscore]

/-- A unit is not empty, and neither its first nor its last character is a blank. -/
structure Visible (unit : List Char) : Prop where
  /-- There is something to see. -/
  nonempty : unit ≠ []
  /-- The first character is no blank. -/
  first : ∀ c, unit.head? = some c → isBlank c = false
  /-- The last character is no blank. -/
  last : ∀ c, unit.getLast? = some c → isBlank c = false

/-- A text without blanks is visible. -/
theorem Visible.of_all {unit : List Char} (nonempty : unit ≠ [])
    (all : ∀ c ∈ unit, isBlank c = false) : Visible unit :=
  ⟨nonempty, fun c first => all c (List.mem_of_head? first),
    fun c last => all c (List.mem_of_getLast? last)⟩

/-- A text is visible if it stands between marks that are no blanks. -/
theorem Visible.of_delimiters {opening closing : Char} (body : List Char)
    (first : isBlank opening = false) (last : isBlank closing = false) :
    Visible (opening :: (body ++ [closing])) := by
  refine ⟨List.cons_ne_nil _ _, ?_, ?_⟩
  · intro c head
    cases head
    exact first
  · intro c tail
    rw [← List.cons_append, List.getLast?_concat] at tail
    cases tail
    exact last

/-- Two visible texts and anything between them are visible. -/
theorem Visible.append {before after : List Char} (visibleBefore : Visible before)
    (between : List Char) (visibleAfter : Visible after) :
    Visible (before ++ (between ++ after)) := by
  refine ⟨by simp [visibleBefore.nonempty], ?_, ?_⟩
  · intro c head
    obtain ⟨d, rest, rfl⟩ := List.exists_cons_of_ne_nil visibleBefore.nonempty
    exact visibleBefore.first c head
  · intro c tail
    have ends := List.getLast?_eq_some_getLast visibleAfter.nonempty
    rw [← List.append_assoc, List.getLast?_append, ends, Option.some_or] at tail
    exact visibleAfter.last c (ends.trans tail)

/-- A visible text has no blanks to trim. -/
theorem Visible.trim_eq {unit : List Char} (visible : Visible unit) : trim unit = unit := by
  have noBlank : ∀ c ∈ ([] : List Char), isBlank c = true := List.forall_mem_nil _
  simpa using trim_append noBlank noBlank visible.nonempty visible.first visible.last

/-- What is left of a text by trimming is visible, unless it is empty. -/
theorem visible_trim {text : List Char} (nonempty : trim text ≠ []) : Visible (trim text) :=
  ⟨nonempty, (trim_visible text).1, (trim_visible text).2⟩

/-- Whether units of a kind stand between delimiters, so that they may hold blanks. -/
def Kind.isDelimited : Kind → Bool
  | .string | .bracket | .quoted => true
  | .word | .number | .operator | .other => false

/-- Units without delimiters hold no blanks. -/
theorem Kind.Spells.solid {kind : Kind} {unit : List Char} (spells : kind.Spells unit)
    (plain : kind.isDelimited = false) : unit ≠ [] ∧ ∀ c ∈ unit, isBlank c = false := by
  cases kind with
  | string | bracket | quoted => cases plain
  | word =>
    obtain ⟨digits, c, tail, rfl, inside, starts, parts⟩ := spells
    refine ⟨by simp, fun d member => ?_⟩
    rcases List.mem_append.mp member with digit | rest
    · exact isBlank_of_isDigit (inside d digit)
    · rcases List.mem_cons.mp rest with rfl | part
      · exact isBlank_of_isWordPart (isWordPart_of_isWordStart starts)
      · exact isBlank_of_isWordPart (parts d part)
  | number =>
    obtain ⟨whole, nonempty, inside, rfl | ⟨fraction, _, digits, rfl⟩⟩ := spells
    · exact ⟨nonempty, fun d member => isBlank_of_isDigit (inside d member)⟩
    · refine ⟨by simp, fun d member => ?_⟩
      rcases List.mem_append.mp member with digit | rest
      · exact isBlank_of_isDigit (inside d digit)
      · rcases List.mem_cons.mp rest with rfl | digit
        · decide
        · exact isBlank_of_isDigit (digits d digit)
  | operator =>
    rcases spells with listed | ⟨mark, listed, rfl⟩
    · have nonempty : ∀ unit ∈ longOperators, unit ≠ [] := by decide
      have marks : longOperators.all (·.all (!isBlank ·)) = true := by decide +kernel
      have visible := List.all_eq_true.mp (List.all_eq_true.mp marks unit listed)
      exact ⟨nonempty unit listed, fun c member => by simpa using visible c member⟩
    · have marks : shortOperators.all (!isBlank ·) = true := by decide +kernel
      have visible := List.all_eq_true.mp marks mark listed
      exact ⟨List.cons_ne_nil _ _, by simpa using visible⟩
  | other =>
    obtain ⟨c, visible, rfl⟩ := spells
    refine ⟨List.cons_ne_nil _ _, fun d member => ?_⟩
    rw [List.mem_singleton.mp member]
    exact visible

/-- Units of every kind are visible. -/
theorem Kind.Spells.visible {kind : Kind} {unit : List Char} (spells : kind.Spells unit) :
    Visible unit := by
  cases plain : kind.isDelimited with
  | false =>
    obtain ⟨nonempty, solid⟩ := spells.solid plain
    exact .of_all nonempty solid
  | true =>
    cases kind with
    | string | bracket | quoted =>
      obtain ⟨body, rfl, _⟩ := spells
      exact .of_delimiters body (by decide) (by decide)
    | word | number | operator | other => cases plain

/-- Every token of a text is spelled as its kind demands. -/
theorem Layout.spells {start : Nat} {text : List Char} {tokens : List Token}
    (layout : Layout start text tokens) : ∀ token ∈ tokens, token.kind.Spells token.text := by
  induction layout with
  | blank => nofun
  | token _ _ reads _ inductionHypothesis =>
    intro token member
    rcases List.mem_cons.mp member with rfl | later
    · exact reads.spells
    · exact inductionHypothesis token later

/-- The first of some tokens stands behind a gap and before the others. -/
theorem Layout.uncons {start : Nat} {text : List Char} {token : Token} {later : List Token}
    (layout : Layout start text (token :: later)) :
    ∃ gap after, text = gap ++ (token.text ++ after) ∧ (∀ c ∈ gap, isBlank c = true) ∧
      token.start = start + gap.length ∧ Reads token.kind token.text after ∧
      Layout token.stop after later := by
  cases layout with
  | @token _ gap after _ _ blank place reads rest =>
    exact ⟨gap, after, rfl, blank, place, reads, rest⟩

/-- Behind some tokens the layout of the later ones goes on. -/
theorem Layout.append {start : Nat} {text : List Char} {front later : List Token}
    (layout : Layout start text (front ++ later)) :
    ∃ before after, text = before ++ after ∧ Layout (start + before.length) after later := by
  induction front generalizing start text with
  | nil => exact ⟨[], text, rfl, layout⟩
  | cons token others inductionHypothesis =>
    obtain ⟨gap, after, rfl, _, place, _, rest⟩ := Layout.uncons layout
    obtain ⟨before, remaining, rfl, behind⟩ := inductionHypothesis rest
    refine ⟨gap ++ (token.text ++ before), remaining, by simp, ?_⟩
    have stops : token.stop + before.length =
        start + (gap ++ (token.text ++ before)).length := by
      rw [stop, place]
      simp only [List.length_append]
      omega
    exact stops ▸ behind

/-- A token stands at its place in the text, and behind it the layout of the later ones goes
    on. -/
theorem Layout.at {start : Nat} {text : List Char} {front later : List Token} {token : Token}
    (layout : Layout start text (front ++ token :: later)) :
    ∃ before after, text = before ++ (token.text ++ after) ∧
      token.start = start + before.length ∧ Layout token.stop after later := by
  obtain ⟨before, _, rfl, here⟩ := Layout.append layout
  obtain ⟨gap, after, rfl, _, place, _, rest⟩ := here.uncons
  refine ⟨before ++ gap, after, by simp, ?_, rest⟩
  rw [place, List.length_append, Nat.add_assoc]

/-- Behind a token the layout of the later ones goes on where it stops. -/
theorem Layout.behind {start : Nat} {text : List Char} {front later : List Token} {token : Token}
    (layout : Layout start text (front ++ token :: later)) :
    ∃ before after, text = before ++ after ∧ token.stop = start + before.length ∧
      Layout token.stop after later := by
  obtain ⟨before, after, rfl, place, rest⟩ := Layout.at layout
  refine ⟨before ++ token.text, after, by simp, ?_, rest⟩
  rw [stop, place, List.length_append, Nat.add_assoc]

/-- Up to the next token, or to the end of the text, there are only blanks. -/
theorem Layout.gap {start : Nat} {text : List Char} {tokens : List Token}
    (layout : Layout start text tokens) :
    ∃ gap rest, text = gap ++ rest ∧ (∀ c ∈ gap, isBlank c = true) ∧
      (tokens.head?.map Token.start).getD (start + text.length) = start + gap.length := by
  cases layout with
  | blank blank => exact ⟨text, [], by simp, blank, rfl⟩
  | @token _ gap after token later blank place reads rest =>
    exact ⟨gap, token.text ++ after, rfl, blank, place⟩

/-- A run of tokens covers a visible text, which ends where its last token does and holds the
    text of each. The induction is on the run; each token adds its text and the gap behind
    it. -/
theorem Layout.run {start : Nat} {text : List Char} {first : Token} {others later : List Token}
    (layout : Layout start text (first :: others ++ later)) :
    ∃ gap middle rest, text = gap ++ (middle ++ rest) ∧ (∀ c ∈ gap, isBlank c = true) ∧
      Visible middle ∧ first.start = start + gap.length ∧
      ((first :: others).getLast (List.cons_ne_nil _ _)).stop = first.start + middle.length ∧
      Layout (first.start + middle.length) rest later ∧
      ∀ token ∈ first :: others, token.text <:+: middle := by
  induction others generalizing start text first with
  | nil =>
    cases layout with
    | @token _ gap after _ _ blank place reads rest =>
      refine ⟨gap, first.text, after, rfl, blank, reads.spells.visible, place, rfl, rest, ?_⟩
      intro token member
      cases List.mem_singleton.mp member
      exact List.infix_rfl
  | cons second others inductionHypothesis =>
    cases layout with
    | @token _ gap after _ _ blank place reads rest =>
      obtain ⟨between, middle, remaining, rfl, _, visible, secondPlace, last, behind, inside⟩ :=
        inductionHypothesis rest
      have lengths : second.start + middle.length =
          first.start + (first.text ++ (between ++ middle)).length := by
        rw [secondPlace, stop]
        simp only [List.length_append]
        omega
      refine ⟨gap, first.text ++ (between ++ middle), remaining, by simp, blank,
        reads.spells.visible.append between visible, place, ?_, lengths ▸ behind, ?_⟩
      · rw [List.getLast_cons (List.cons_ne_nil _ _), last, lengths]
      · intro token member
        rcases List.mem_cons.mp member with rfl | later
        · exact (List.prefix_append _ _).isInfix
        · have behindGap : middle <:+ first.text ++ (between ++ middle) :=
            (List.suffix_append _ _).trans (List.suffix_append _ _)
          exact (inside token later).trans behindGap.isInfix

end SqlGateway.Token
