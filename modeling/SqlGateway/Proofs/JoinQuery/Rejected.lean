import SqlGateway.Fault
import SqlGateway.Proofs.JoinQuery.Acceptance
import SqlGateway.Proofs.JoinQuery.PlainNames

/-!
# How joins are rejected

A text that is no join is rejected with a fault of parsing, at whatever token the readers find
out. There is one exception. A limit is turned into a number only after it has been found to be
a whole one, and a number with too many digits is refused by the conversion itself. So a join
that is right up to such a limit is rejected with a fault that is none of parsing, and no other
text is.

Every reader is shown to fail with departures from the grammar alone, except for the reader of
limits. The failure of a sequence of readers is the failure of one of them, behind what those
before it have read.
-/

namespace SqlGateway.JoinQuery

open Text

namespace Reader

variable {α β : Type} {tokens : List Token}

/-- A reader rejects the tokens that are left. -/
def Fails (reader : Reader α) (tokens : List Token) (rejection : Rejection) : Prop :=
  reader tokens = .error rejection

/-- Two readers in a row fail if the first one does, or if the second one does behind what the
    first one has read. -/
theorem fails_bind {reader : Reader α} {next : α → Reader β} {rejection : Rejection} :
    Fails (reader >>= next) tokens rejection ↔
      Fails reader tokens rejection ∨
        ∃ value middle, Yields reader tokens value middle ∧
          Fails (next value) middle rejection := by
  simp only [Fails, Yields, bind, StateT.bind, Except.bind]
  cases read : reader tokens with
  | error other => simp
  | ok pair =>
    obtain ⟨value, middle⟩ := pair
    simp

/-- A reader that fails with departures from the grammar alone. -/
def Departs (reader : Reader α) : Prop :=
  ∀ tokens rejection, Fails reader tokens rejection →
    ∃ departure, rejection = .outsideGrammar departure

/-- Behind a reader that fails with departures alone, any other failure is one of the next
    reader. -/
theorem Departs.fails_bind_iff {reader : Reader α} {next : α → Reader β} {digits : Nat}
    (departs : Departs reader) :
    Fails (reader >>= next) tokens (.limitTooLong digits) ↔
      ∃ value middle, Yields reader tokens value middle ∧
        Fails (next value) middle (.limitTooLong digits) := by
  rw [fails_bind]
  refine or_iff_right fun failed => ?_
  obtain ⟨departure, other⟩ := departs tokens _ failed
  cases other

/-- A reader that fails with departures alone does not fail otherwise. -/
theorem Departs.not_fails {reader : Reader α} {digits : Nat} (departs : Departs reader) :
    ¬ Fails reader tokens (.limitTooLong digits) := by
  intro failed
  obtain ⟨departure, other⟩ := departs tokens _ failed
  cases other

/-- A reader that never fails does not fail otherwise. -/
theorem Departs.of_total {reader : Reader α}
    (total : ∀ tokens, ∃ value rest, Yields reader tokens value rest) : Departs reader := by
  intro tokens rejection failed
  obtain ⟨value, rest, read⟩ := total tokens
  cases read.symm.trans failed

/-- Two readers in a row fail with departures alone if both of them do. -/
theorem Departs.bind {reader : Reader α} {next : α → Reader β} (first : Departs reader)
    (second : ∀ value, Departs (next value)) : Departs (reader >>= next) := by
  intro tokens rejection failed
  rcases fails_bind.mp failed with here | ⟨value, middle, _, later⟩
  · exact first tokens rejection here
  · exact second value middle rejection later

/-- Reading nothing does not fail. -/
theorem departs_pure (value : α) : Departs (pure value : Reader α) :=
  .of_total fun tokens => ⟨value, tokens, rfl⟩

/-- A departure is one. -/
theorem departs_fail (departure : Departure) : Departs (fail departure : Reader α) := by
  rintro tokens _ ⟨⟩
  exact ⟨departure, rfl⟩

/-- Looking at the tokens that are left does not fail. -/
theorem departs_get : Departs (get : Reader (List Token)) :=
  .of_total fun tokens => ⟨tokens, tokens, rfl⟩

/-- Going on with other tokens does not fail. -/
theorem departs_set (left : List Token) : Departs (set left : Reader PUnit) :=
  .of_total fun _ => ⟨⟨⟩, left, rfl⟩

/-- An optional token need not be there. -/
theorem departs_accept? (accepted : Token → Bool) : Departs (accept? accepted) := by
  refine .of_total fun tokens => ?_
  cases tokens with
  | nil => exact ⟨none, [], rfl⟩
  | cons token rest =>
    cases takes : accepted token with
    | true => exact ⟨some token, rest, accept?_of_true takes⟩
    | false =>
      refine ⟨none, token :: rest, accept?_of_false ?_⟩
      rintro _ ⟨⟩
      exact takes

/-- If something else stands in place of a token, the text departs from the grammar. -/
theorem departs_require (wanted : Expected) (accepted : Token → Bool) :
    Departs (require wanted accepted) := by
  unfold require
  refine (departs_accept? accepted).bind fun found => ?_
  cases found with
  | some token => exact departs_pure token
  | none => exact departs_get.bind fun _ => departs_fail _

/-- A missing keyword is a departure. -/
theorem departs_keyword (word : String) : Departs (keyword word) :=
  departs_require _ _

/-- A missing operator is a departure. -/
theorem departs_operator (mark : String) : Departs (operator mark) :=
  (departs_require _ _).bind fun _ => departs_pure _

/-- A missing name is a departure. -/
theorem departs_name (wanted : Expected) : Departs (name wanted) :=
  (departs_require _ _).bind fun _ => departs_pure _

/-- A body may be anything. -/
theorem departs_clause (text : List Char) (start : Nat) (stops : Token → List Token → Bool) :
    Departs (clause text start stops) :=
  departs_get.bind fun _ => (departs_set _).bind fun _ => departs_pure _

end Reader

open Reader

variable {text : List Char} {tokens following : List Token}

/-- The reader of labels fails with departures alone. -/
theorem departs_readAlias (table : List Char) : Departs (readAlias table) := by
  unfold readAlias
  refine (departs_accept? _).bind fun introduction => ?_
  cases introduction with
  | some _ => exact departs_name _
  | none =>
    refine (departs_accept? _).bind fun bare => ?_
    cases bare with
    | some token => exact departs_pure _
    | none => exact departs_pure _

/-- The reader of schemas fails with departures alone. -/
theorem departs_readSchema (backend : Backend) : Departs (readSchema backend) := by
  unfold readSchema
  refine (departs_accept? _).bind fun bracket => ?_
  cases bracket with
  | some token => exact departs_pure _
  | none => exact departs_name _

/-- The reader of tables fails with departures alone. -/
theorem departs_readTable (backend : Backend) : Departs (readTable backend) :=
  (departs_require _ _).bind fun _ => (departs_operator _).bind fun _ =>
    (departs_readSchema backend).bind fun _ => (departs_operator _).bind fun _ =>
      (departs_name _).bind fun _ => (departs_readAlias _).bind fun _ => departs_pure _

/-- The reader of join keywords fails with departures alone. -/
theorem departs_readJoinType : Departs readJoinType := by
  unfold readJoinType
  have reads : ∀ type : JoinType, Departs (keyword "JOIN" >>= fun _ => pure type) :=
    fun type => (departs_keyword _).bind fun _ => departs_pure type
  refine (departs_accept? _).bind fun written => ?_
  dsimp only
  split
  · exact (departs_accept? _).bind fun _ => reads _
  · exact reads _

/-- The reader of a column fails with departures alone. -/
theorem departs_readColumn : Departs readColumn :=
  (departs_name _).bind fun _ => (departs_operator _).bind fun _ =>
    (departs_name _).bind fun _ => departs_pure _

/-- The reader of the compared columns fails with departures alone. -/
theorem departs_readColumns (left right : Table) : Departs (readColumns left right) := by
  unfold readColumns
  refine departs_readColumn.bind fun first => (departs_operator _).bind fun _ =>
    departs_readColumn.bind fun second => ?_
  split
  · exact departs_pure _
  · split
    · exact departs_pure _
    · exact departs_fail _

/-- The reader of select lists fails with departures alone. -/
theorem departs_readSelectList (text : List Char) : Departs (readSelectList text) := by
  unfold readSelectList
  have reads : ∀ columns : List Char, Departs (keyword "FROM" >>= fun _ => pure columns) :=
    fun columns => (departs_keyword _).bind fun _ => departs_pure columns
  refine (departs_keyword _).bind fun select => (departs_clause _ _ _).bind fun columns => ?_
  split
  · exact (departs_fail _).bind fun _ => reads columns
  · exact reads columns

/-- The reader of conditions fails with departures alone. -/
theorem departs_readConditions (text : List Char) : Departs (readConditions text) := by
  unfold readConditions
  refine (departs_accept? _).bind fun found => ?_
  cases found with
  | none => exact departs_pure _
  | some token =>
    refine (departs_clause _ _ _).bind fun conditions => ?_
    dsimp only
    split
    · exact (departs_fail _).bind fun _ => departs_pure _
    · exact departs_pure _

/-- The reader of orders fails with departures alone. -/
theorem departs_readOrder (text : List Char) : Departs (readOrder text) := by
  unfold readOrder
  refine (departs_accept? _).bind fun found => ?_
  cases found with
  | none => exact departs_pure _
  | some token =>
    exact (departs_keyword _).bind fun _ => (departs_clause _ _ _).bind fun _ => departs_pure _

/-- The reader of what stands before a limit fails with departures alone. -/
theorem departs_readFront (text : List Char) : Departs (readFront text) := by
  unfold readFront
  refine (departs_readSelectList text).bind fun selectColumns =>
    (departs_readTable _).bind fun left => departs_readJoinType.bind fun joinType =>
      (departs_readTable _).bind fun right => ?_
  have behind : ∀ _ : PUnit, Departs (do
      let _ ← keyword "ON"
      let columns ← readColumns left right
      let conditions ← readConditions text
      let order ← readOrder text
      return ({ left, right, joinType, columns, selectColumns, conditions, order } : Front)) :=
    fun _ => (departs_keyword _).bind fun _ => (departs_readColumns left right).bind fun _ =>
      (departs_readConditions text).bind fun _ => (departs_readOrder text).bind fun _ =>
        departs_pure _
  split
  · exact (departs_fail _).bind behind
  · exact behind ⟨⟩

/-- The reader of the end fails with departures alone. -/
theorem departs_readEnd : Departs readEnd := by
  unfold readEnd
  refine (departs_accept? _).bind fun _ => departs_get.bind fun left => ?_
  cases left with
  | nil => exact departs_pure _
  | cons token rest => exact departs_fail _

/-- Two tokens are a limit with more digits than a number is read from. -/
structure LongLimit (keyword number : Token) : Prop where
  /-- The keyword comes first. -/
  limits : keyword.isKeyword "LIMIT" = true
  /-- A number follows. -/
  counts : number.kind = .number
  /-- It is a whole one. -/
  whole : ∀ c ∈ number.text, isDigit c = true
  /-- It has too many digits. -/
  long : digitLimit < number.text.length

/-- A limit ends the order before it, however many digits it has. -/
theorem LongLimit.stopsAt {keyword number : Token} (limit : LongLimit keyword number)
    (rest : List Token) : StopsAt endsOrder (keyword :: number :: rest) := by
  rintro _ _ ⟨⟩
  rw [endsOrder, limit.limits, Bool.true_or]

/-- The reader of limits fails otherwise than with a departure exactly if a limit with too many
    digits comes next. -/
theorem readLimit_fails_iff {digits : Nat} :
    Fails readLimit tokens (.limitTooLong digits) ↔
      ∃ keyword number rest, tokens = keyword :: number :: rest ∧ LongLimit keyword number ∧
        digits = number.text.length := by
  constructor
  · intro failed
    obtain ⟨found, middle, first, behind⟩ := (departs_accept? _).fails_bind_iff.mp failed
    rcases yields_accept? first with ⟨keyword, rfl, rfl, limits⟩ | ⟨rfl, rfl, _⟩
    · obtain ⟨next, _, second, counted⟩ := (departs_accept? _).fails_bind_iff.mp behind
      rcases yields_accept? second with ⟨number, rfl, rfl, _⟩ | ⟨rfl, rfl, _⟩
      · dsimp only at counted
        split at counted
        · next isWhole =>
          obtain ⟨counts, whole⟩ := Bool.and_eq_true_iff.mp isWhole
          split at counted
          · next long =>
            cases counted
            exact ⟨keyword, number, _, rfl,
              ⟨limits, beq_iff_eq.mp counts, List.all_eq_true.mp whole, long⟩, rfl⟩
          · exact absurd counted (departs_pure _).not_fails
        · exact absurd counted (departs_fail _).not_fails
      · exact absurd counted (departs_fail _).not_fails
    · exact absurd behind (departs_pure _).not_fails
  · rintro ⟨keyword, number, rest, rfl, limit, rfl⟩
    refine (departs_accept? _).fails_bind_iff.mpr
      ⟨some keyword, number :: rest, accept?_of_true limit.limits, ?_⟩
    refine (departs_accept? _).fails_bind_iff.mpr ⟨some number, rest, accept?_of_true rfl, ?_⟩
    have isWhole : (number.kind == Token.Kind.number && number.text.all isDigit) = true := by
      rw [limit.counts, List.all_eq_true.mpr limit.whole]
      rfl
    dsimp only
    rw [if_pos isWhole, if_pos limit.long]
    rfl

/-- The tokens of a join that has a limit with too many digits, and perhaps more behind it. -/
inductive Overlong (text : List Char) : List Token → Nat → Prop where
  | mk {tokens rest : List Token} {keyword number : Token} {bodies : Bodies} {front : Front}
      (phrase : FrontPhrase text (keyword :: number :: rest) tokens bodies front)
      (limit : LongLimit keyword number) :
      Overlong text (tokens ++ keyword :: number :: rest) number.text.length

/-- A join is rejected otherwise than with a departure exactly if its limit has too many digits:
    everything before the limit is read, and nothing behind it is looked at. -/
theorem readJoin_fails_iff {digits : Nat} (layout : Token.Layout 0 text tokens) :
    Fails (readJoin text) tokens (.limitTooLong digits) ↔ Overlong text tokens digits := by
  rw [readJoin_eq, (departs_readFront text).fails_bind_iff]
  constructor
  · rintro ⟨front, middle, frontRead, later⟩
    obtain ⟨frontTokens, bodies, rfl, phrase⟩ := readFront_sound layout frontRead
    rcases fails_bind.mp later with failed | ⟨limit, _, _, behind⟩
    · obtain ⟨keyword, number, rest, rfl, long, rfl⟩ := readLimit_fails_iff.mp failed
      exact .mk phrase long
    · exact absurd behind (departs_readEnd.bind fun _ => departs_pure _).not_fails
  · rintro ⟨phrase, long⟩
    refine ⟨_, _, readFront_complete phrase layout (long.stopsAt _), fails_bind.mpr (Or.inl ?_)⟩
    exact readLimit_fails_iff.mpr ⟨_, _, _, rfl, long, rfl⟩

/-- The split of the conditions refuses conditions and nothing else. -/
theorem splitConditions_eq_error {strict : Bool} {leftAlias rightAlias text : List Char}
    {rejection : Rejection}
    (refused : splitConditions strict leftAlias rightAlias text = .error rejection) :
    ∃ conjunct, rejection = .unroutable conjunct := by
  cases strict with
  | false => cases refused
  | true =>
    rw [splitConditions, if_pos rfl] at refused
    cases split : Condition.splitStrict leftAlias rightAlias text with
    | ok all =>
      rw [split] at refused
      cases refused
    | error conjunct =>
      rw [split] at refused
      cases refused
      exact ⟨_, rfl⟩

/-- A text is rejected for the digits of a limit exactly if its tokens are a join whose limit has
    too many of them. -/
theorem parse_limitTooLong_iff (strict : Bool) (sql : List Char) (digits : Nat) :
    parse strict sql = .error (.limitTooLong digits) ↔
      Overlong (squeeze sql) (Token.scan (squeeze sql)) digits := by
  rw [← readJoin_fails_iff (Token.scan_layout (squeeze sql)), Fails]
  simp only [parse, bind, Except.bind, pure, Except.pure]
  cases readJoin (squeeze sql) (Token.scan (squeeze sql)) with
  | error rejection => simp
  | ok pair =>
    simp only [reduceCtorEq, iff_false]
    cases split : splitConditions strict pair.1.left.label.toList pair.1.right.label.toList
      (pair.1.whereClause.getD "").toList with
    | ok split => simp
    | error rejection =>
      obtain ⟨conjunct, rfl⟩ := splitConditions_eq_error split
      simp

/-- A join whose limit is a number of ones. -/
def limitOfOnes (digits : Nat) : List Char :=
  "SELECT * FROM rs.".toList ++ ("p.t a JOIN ss.".toList ++ ("d.u b ON a.".toList ++
    ("k = b.j LIMIT ".toList ++ List.replicate digits '1')))

/-- The limit of ones as a token. -/
def onesToken (digits : Nat) : Token :=
  { kind := .number, text := List.replicate digits '1', start := 56 }

/-- A run of ones is scanned as one number. -/
theorem scanFrom_ones (more : Nat) :
    Token.scanFrom 56 ('1' :: List.replicate more '1') = [onesToken (more + 1)] := by
  have all : ∀ c ∈ List.replicate (more + 1) '1', isDigit c = true := by
    intro c member
    rw [List.eq_of_mem_replicate member]
    decide
  have taken : (List.replicate (more + 1) '1').takeWhile isDigit = List.replicate (more + 1) '1' := by
    simpa using @List.takeWhile_append_of_pos _ _ _ [] all
  have dropped : (List.replicate (more + 1) '1').dropWhile isDigit = [] := by
    simpa using @List.dropWhile_append_of_pos _ _ _ [] all
  have noWord : Token.wordExtent? ('1' :: List.replicate more '1') = none := by
    rw [← List.replicate_succ, Token.wordExtent?, dropped]
  have number : Token.numberExtent? ('1' :: List.replicate more '1') = some (more + 1) := by
    rw [← List.replicate_succ, Token.numberExtent?, taken, dropped, List.length_replicate]
    rfl
  have scanned := Token.scanFrom_of_some 56
    (Token.lexeme_number (by decide : Token.isPlain '1' = true) noWord number)
  have whole : (List.replicate (more + 1) '1').take (more + 1) = List.replicate (more + 1) '1' := by
    simp
  have behind : (List.replicate (more + 1) '1').drop (more + 1) = [] := by simp
  rw [scanned, ← List.replicate_succ, whole, behind, Token.scanFrom.eq_def]
  rfl

/-- The tokens before the limit of ones. -/
def tokensBeforeLimit : List Token :=
  [wordAt 0 "SELECT", markAt 7 "*", wordAt 9 "FROM", wordAt 14 "rs", markAt 16 ".",
    wordAt 17 "p", markAt 18 ".", wordAt 19 "t", wordAt 21 "a", wordAt 23 "JOIN", wordAt 28 "ss",
    markAt 30 ".", wordAt 31 "d", markAt 32 ".", wordAt 33 "u", wordAt 35 "b", wordAt 37 "ON",
    wordAt 40 "a", markAt 41 ".", wordAt 42 "k", markAt 44 "=", wordAt 46 "b", markAt 47 ".",
    wordAt 48 "j"]

/-- The tokens of the join with a limit of ones. -/
theorem scan_limitOfOnes (more : Nat) :
    Token.scan (limitOfOnes (more + 1)) =
      tokensBeforeLimit ++ [wordAt 50 "LIMIT", onesToken (more + 1)] := by
  -- The text is cut into parts because the cost of scanning by computation is not linear.
  have leftTable (rest : List Char) := @Token.scanFrom_of_computed 17 31 10
    "p.t a JOIN ss.".toList rest
    [wordAt 17 "p", markAt 18 ".", wordAt 19 "t", wordAt 21 "a", wordAt 23 "JOIN",
      wordAt 28 "ss", markAt 30 "."] fun _ => rfl
  have rightTable (rest : List Char) := @Token.scanFrom_of_computed 31 42 10
    "d.u b ON a.".toList rest
    [wordAt 31 "d", markAt 32 ".", wordAt 33 "u", wordAt 35 "b", wordAt 37 "ON", wordAt 40 "a",
      markAt 41 "."] fun _ => rfl
  have columns := @Token.scanFrom_of_computed 42 56 10
    "k = b.j LIMIT ".toList ('1' :: List.replicate more '1')
    [wordAt 42 "k", markAt 44 "=", wordAt 46 "b", markAt 47 ".", wordAt 48 "j",
      wordAt 50 "LIMIT"] fun _ => rfl
  have scanned := scanFrom_opening ("p.t a JOIN ss.".toList ++ ("d.u b ON a.".toList ++
    ("k = b.j LIMIT ".toList ++ '1' :: List.replicate more '1')))
  rw [leftTable, rightTable, columns, scanFrom_ones] at scanned
  exact scanned

/-- The join with a limit of ones has no blanks to unify. -/
theorem squeeze_limitOfOnes (more : Nat) :
    squeeze (limitOfOnes (more + 1)) = limitOfOnes (more + 1) := by
  have solid (count : Nat) : ∀ c ∈ List.replicate count '1', isBlank c = false := by
    intro c member
    rw [List.eq_of_mem_replicate member]
    decide
  have parts : ∃ between, limitOfOnes (more + 1) =
      ['S'] ++ (between ++ List.replicate (more + 1) '1') ∧
        squeezeFrom false (['S'] ++ (between ++ List.replicate (more + 1) '1')) =
          ['S'] ++ (between ++ '1' :: squeezeFrom false (List.replicate more '1')) :=
    ⟨"ELECT * FROM rs.p.t a JOIN ss.d.u b ON a.k = b.j LIMIT ".toList, rfl, rfl⟩
  obtain ⟨between, whole, squeezed⟩ := parts
  have opening : Token.Visible ['S'] :=
    .of_all (List.cons_ne_nil _ _) (List.forall_mem_singleton.mpr rfl)
  have ones : Token.Visible (List.replicate (more + 1) '1') :=
    .of_all (List.cons_ne_nil _ _) (solid (more + 1))
  rw [Token.squeezeFrom_of_solid (solid more), ← List.replicate_succ] at squeezed
  rw [squeeze, whole, squeezed, (opening.append between ones).trim_eq]

/-- A limit of ones is too long for every number of digits beyond the bound. -/
theorem overlong_limitOfOnes {digits : Nat} (long : digitLimit < digits) :
    Overlong (squeeze (limitOfOnes digits)) (Token.scan (squeeze (limitOfOnes digits)))
      digits := by
  obtain ⟨more, rfl⟩ : ∃ more, digits = more + 1 := ⟨digits - 1, by omega⟩
  let left : Naming := ⟨wordAt 14 "rs", markAt 16 ".", wordAt 17 "p", markAt 18 ".", wordAt 19 "t"⟩
  let right : Naming :=
    ⟨wordAt 28 "ss", markAt 30 ".", wordAt 31 "d", markAt 32 ".", wordAt 33 "u"⟩
  have leftTable : TablePhrase .warehouse (left.tokens ++ [wordAt 21 "a"])
      { schema := "p", name := "t", label := "a" } :=
    .mk ⟨rfl, rfl, .plain rfl, rfl, rfl⟩ (.bare rfl rfl (by decide))
  have rightTable : TablePhrase .transactional (right.tokens ++ [wordAt 35 "b"])
      { schema := "d", name := "u", label := "b" } :=
    .mk ⟨rfl, rfl, .plain rfl, rfl, rfl⟩ (.bare rfl rfl (by decide))
  have compared : ColumnsPhrase { schema := "p", name := "t", label := "a" }
      { schema := "d", name := "u", label := "b" }
      ([wordAt 40 "a", markAt 41 ".", wordAt 42 "k"] ++
        markAt 44 "=" :: [wordAt 46 "b", markAt 47 ".", wordAt 48 "j"]) ("k", "j") :=
    .inOrder (.mk rfl rfl rfl) rfl (.mk rfl rfl rfl) (by decide +kernel) (by decide +kernel)
  have limit : LongLimit (wordAt 50 "LIMIT") (onesToken (more + 1)) := by
    refine ⟨rfl, rfl, fun c member => ?_, ?_⟩
    · rw [List.eq_of_mem_replicate member]
      decide
    · rwa [onesToken, List.length_replicate]
  have phrase : FrontPhrase (limitOfOnes (more + 1))
      (wordAt 50 "LIMIT" :: onesToken (more + 1) :: []) tokensBeforeLimit _ _ :=
    .mk (rfl : (wordAt 0 "SELECT").isKeyword "SELECT" = true)
      (⟨by decide, rfl, nofun⟩ : Body [markAt 7 "*"] [wordAt 9 "FROM"]) (.of_all (by decide)) rfl
      leftTable (.plain (rfl : (wordAt 23 "JOIN").isKeyword "JOIN" = true)) rightTable
      (by decide +kernel) (rfl : (wordAt 37 "ON").isKeyword "ON" = true) compared .omitted .omitted
  have overlong := Overlong.mk phrase limit
  rw [squeeze_limitOfOnes, scan_limitOfOnes]
  rwa [onesToken, List.length_replicate, ← onesToken] at overlong

/-- A text is answered as reading it promises: with a join, or with a fault of parsing. -/
def AnsweredByParsing (strict : Bool) (sql : List Char) : Prop :=
  (∃ query, parse strict sql = .ok query) ∨
    ∃ rejection, parse strict sql = .error rejection ∧
      (Fault.ofRejection rejection).isA .queryParsing = true

/-- A rejection is a fault of parsing unless it is one for the digits of a limit, which is a fault
    of values alone. -/
theorem isA_queryParsing_iff (rejection : Rejection) :
    (Fault.ofRejection rejection).isA .queryParsing = true ↔
      ∀ digits, rejection ≠ .limitTooLong digits := by
  cases rejection with
  | outsideGrammar departure => exact iff_of_true rfl nofun
  | limitTooLong digits => exact iff_of_false Bool.false_ne_true fun other => other digits rfl
  | unroutable conjunct => exact iff_of_true rfl nofun

/-- At either strictness a text is answered as promised, unless it is a join that is right up to
    a limit with too many digits. Then it is rejected with a fault that is none of parsing and
    tells how many digits there are. -/
theorem answeredByParsing_iff (strict : Bool) (sql : List Char) :
    (AnsweredByParsing strict sql ↔
      ∀ digits, ¬ Overlong (squeeze sql) (Token.scan (squeeze sql)) digits) ∧
    ∀ digits, Overlong (squeeze sql) (Token.scan (squeeze sql)) digits ↔
      parse strict sql = .error (.limitTooLong digits) ∧
        Fault.ofRejection (.limitTooLong digits) = .invalidValue (tooManyDigits digits) ∧
        (Fault.ofRejection (.limitTooLong digits)).isA .queryParsing = false := by
  simp only [← parse_limitTooLong_iff strict]
  refine ⟨?_, fun digits => ⟨fun rejected => ⟨rejected, rfl, rfl⟩, And.left⟩⟩
  rw [AnsweredByParsing]
  cases parsed : parse strict sql with
  | ok query => simp
  | error rejection =>
    simp only [reduceCtorEq, exists_false, false_or, Except.error.injEq, exists_eq_left',
      isA_queryParsing_iff, ne_eq]

/-- One digit more than a number is read from makes a limit that is rejected as no fault of
    parsing, at either strictness. -/
theorem limit_not_answeredByParsing :
    (parse false (limitOfOnes 4301) = .error (.limitTooLong 4301) ∧
        ¬ AnsweredByParsing false (limitOfOnes 4301)) ∧
      parse true (limitOfOnes 4301) = .error (.limitTooLong 4301) ∧
        ¬ AnsweredByParsing true (limitOfOnes 4301) := by
  have rejected (strict : Bool) : parse strict (limitOfOnes 4301) = .error (.limitTooLong 4301) :=
    (parse_limitTooLong_iff strict _ _).mpr (overlong_limitOfOnes (by decide))
  have unanswered (strict : Bool) : ¬ AnsweredByParsing strict (limitOfOnes 4301) := by
    rintro (⟨query, accepted⟩ | ⟨rejection, refused, parsing⟩)
    · cases accepted.symm.trans (rejected strict)
    · cases refused.symm.trans (rejected strict)
      cases parsing
  exact ⟨⟨rejected false, unanswered false⟩, rejected true, unanswered true⟩

end SqlGateway.JoinQuery
