import SqlGateway.Proofs.JoinQuery.Front

/-!
# Sentences are read

Every sentence of the grammar is accepted and read as what it stands for. The phrases of
a sentence are read one after the other; all there is to check is that each one is
followed by something that cannot belong to it.
-/

namespace SqlGateway.JoinQuery

open Text Reader

/-- The semicolon behind a query ends every body. -/
theorem EndPhrase.stopsAt {tokens : List Token} (ends : EndPhrase tokens) :
    StopsAt endsOrder tokens := by
  cases ends with
  | omitted => exact nofun
  | written ends =>
    rintro _ _ ⟨⟩
    simp [endsOrder, endsQuery, ends]

/-- A limit ends every body, and without one what follows does. -/
theorem LimitPhrase.stopsAt {tokens following : List Token} {limit : Option Nat}
    (limits : LimitPhrase tokens limit) (ends : StopsAt endsOrder following) :
    StopsAt endsOrder (tokens ++ following) := by
  cases limits with
  | omitted => exact ends
  | written limits =>
    rintro _ _ ⟨⟩
    simp [endsOrder, limits]

/-- A join is read as a whole. Its conditions are split afterwards. -/
theorem ReadAs.read {text : List Char} {tokens : List Token} {bodies : Bodies} {query : JoinQuery}
    (readAs : ReadAs text tokens bodies query) (layout : Token.Layout 0 text tokens) :
    Yields (readJoin text) tokens { query with leftConditions := [], rightConditions := [] }
      [] := by
  cases readAs with
  | @mk select source compare selected leftTokens typeTokens rightTokens columnTokens whereTokens
      orderTokens limitTokens endTokens left right joinType columns conditions order limit selects
      shape free sources leftTable joins rightTable apart compares compared restricts orders limits
      ending =>
    have endsLimit : ∀ token, endTokens.head? = some token → token.isKeyword "LIMIT" = false := by
      cases ending with
      | omitted => exact nofun
      | written ends =>
        rintro _ ⟨⟩
        exact isKeyword_of_isOperator ends
    have front : FrontPhrase text _ _ _ _ := .mk selects shape free sources leftTable joins
      rightTable apart compares compared restricts orders
    have regrouped : select :: (selected ++ [source]) ++ (leftTokens ++ (typeTokens ++
        (rightTokens ++ (compare :: (columnTokens ++ (whereTokens ++ (orderTokens ++
          (limitTokens ++ endTokens)))))))) = select :: (selected ++ [source]) ++ (leftTokens ++
        (typeTokens ++ (rightTokens ++ (compare :: (columnTokens ++ (whereTokens ++
          orderTokens)))))) ++ (limitTokens ++ endTokens) := by simp
    rw [regrouped] at layout ⊢
    rw [readJoin_eq]
    refine (readFront_complete front layout (limits.stopsAt ending.stopsAt)).bind ?_
    refine (readLimit_complete limits endsLimit).bind ?_
    exact (readEnd_complete ending).bind (yields_pure.mpr ⟨rfl, rfl⟩)

/-- A sentence is read as a whole. -/
theorem readJoin_complete {text : List Char} {tokens : List Token} {query : JoinQuery}
    (sentence : Sentence text tokens query) (layout : Token.Layout 0 text tokens) :
    Yields (readJoin text) tokens { query with leftConditions := [], rightConditions := [] }
      [] := by
  obtain ⟨bodies, readAs⟩ := sentence.readAs
  exact readAs.read layout

/-- The conditions of a sentence are those of its WHERE text, split between its sides. -/
theorem Sentence.conditions_eq {text : List Char} {tokens : List Token} {query : JoinQuery}
    (sentence : Sentence text tokens query) :
    let split := Condition.split query.left.label.toList query.right.label.toList
      (query.whereClause.getD "").toList
    query.leftConditions = split.left.map .ofList ∧
      query.rightConditions = split.right.map .ofList := by
  cases sentence with
  | @mk _ _ _ _ _ _ _ _ _ _ _ _ _ _ _ conditions =>
    cases conditions with
    | none => exact ⟨rfl, rfl⟩
    | some conditions => simp

/-- Every sentence is accepted, and what is read from its text is what it stands for. When
    every condition has to mention a side, the conditions of the sentence have to as well. -/
theorem parse_of_sentence {strict : Bool} {sql : List Char} {query : JoinQuery}
    (sentence : Sentence (squeeze sql) (Token.scan (squeeze sql)) query)
    (routable : strict = true → (Condition.split query.left.label.toList
      query.right.label.toList (query.whereClause.getD "").toList).dropped = []) :
    parse strict sql = .ok query := by
  have read : readJoin (squeeze sql) (Token.scan (squeeze sql)) = .ok (_, []) :=
    readJoin_complete sentence (Token.scan_layout _)
  obtain ⟨leftConditions, rightConditions⟩ := sentence.conditions_eq
  have split : splitConditions strict query.left.label.toList query.right.label.toList
      (query.whereClause.getD "").toList = .ok (Condition.split query.left.label.toList
        query.right.label.toList (query.whereClause.getD "").toList) := by
    cases strict with
    | false => rfl
    | true =>
      rw [splitConditions, if_pos rfl, Condition.splitStrict, routable rfl]
      rfl
  simp only [parse, read, split, bind, Except.bind, pure, Except.pure, ← leftConditions,
    ← rightConditions]

/-- A word of a query. -/
def wordAt (start : Nat) (text : String) : Token :=
  { kind := .word, text := text.toList, start }

/-- An operator of a query. -/
def markAt (start : Nat) (text : String) : Token :=
  { kind := .operator, text := text.toList, start }

/-- A number of a query. -/
def numberAt (start : Nat) (text : String) : Token :=
  { kind := .number, text := text.toList, start }

/-- A join with a bracketed schema, without one of its aliases. -/
def sampleText : List Char :=
  ("select *  from rs.crm.people p left join ss.[e u].jobs on jobs.k=p.id " ++
    "where p.n>1 limit 5;").toList

/-- The tokens of the sample. -/
def sampleTokens : List Token :=
  [wordAt 0 "select", markAt 7 "*", wordAt 9 "from", wordAt 14 "rs", markAt 16 ".",
    wordAt 17 "crm", markAt 20 ".", wordAt 21 "people", wordAt 28 "p", wordAt 30 "left",
    wordAt 35 "join", wordAt 40 "ss", markAt 42 ".",
    { kind := .bracket, text := "[e u]".toList, start := 43 }, markAt 48 ".", wordAt 49 "jobs",
    wordAt 54 "on", wordAt 57 "jobs", markAt 61 ".", wordAt 62 "k", markAt 63 "=", wordAt 64 "p",
    markAt 65 ".", wordAt 66 "id", wordAt 69 "where", wordAt 75 "p", markAt 76 ".",
    wordAt 77 "n", markAt 78 ">", numberAt 79 "1", wordAt 81 "limit", numberAt 87 "5",
    markAt 88 ";"]

/-- What the sample stands for. -/
def sampleQuery : JoinQuery where
  left := { schema := "crm", name := "people", label := "p" }
  right := { schema := "e u", name := "jobs", label := "jobs" }
  joinType := .left
  leftColumn := "id"
  rightColumn := "k"
  whereClause := some "p.n>1"
  leftConditions := ["n>1"]
  limit := some 5

/-- A text without blanks is one piece. -/
theorem pieces_of_visible {text : List Char} (visible : text.all (!isBlank ·) = true) :
    Condition.pieces text = (text, []) := by
  induction text with
  | nil => rw [Condition.pieces.eq_def]
  | cons c rest inductionHypothesis =>
    rw [List.all_cons, Bool.and_eq_true, Bool.not_eq_true'] at visible
    have noSeparator : Condition.afterAnd? (c :: rest) = none := by
      simp [Condition.afterAnd?, visible.1]
    rw [Condition.pieces.eq_def]
    dsimp only
    split
    · next found =>
      rw [noSeparator] at found
      cases found
    · rw [inductionHypothesis visible.2]

/-- The one condition of the sample is one for the left side. -/
theorem sample_split : Condition.split "p".toList "jobs".toList "p.n>1".toList =
    { left := ["n>1".toList] } := by
  have trimmed : trim "p.n>1".toList = "p.n>1".toList := by decide +kernel
  have whole : Condition.pieces "p.n>1".toList = ("p.n>1".toList, []) :=
    pieces_of_visible (by decide +kernel)
  have conjuncts : Condition.conjuncts "p.n>1".toList = ["p.n>1".toList] := by
    rw [Condition.conjuncts, trimmed, whole]
    decide +kernel
  have side : Condition.side "p".toList "jobs".toList "p.n>1".toList = .left := by decide +kernel
  have bare : Condition.withoutQualifier "p".toList "p.n>1".toList = "n>1".toList := by cbv
  rw [Condition.split, conjuncts, List.foldr_cons, Condition.Split.add, side, bare]
  rfl

/-- The sample is a sentence. -/
theorem sample_sentence :
    Sentence (squeeze sampleText) (Token.scan (squeeze sampleText)) sampleQuery := by
  let left : Naming := ⟨wordAt 14 "rs", markAt 16 ".", wordAt 17 "crm", markAt 20 ".",
    wordAt 21 "people"⟩
  let right : Naming := ⟨wordAt 40 "ss", markAt 42 ".",
    { kind := .bracket, text := "[e u]".toList, start := 43 }, markAt 48 ".", wordAt 49 "jobs"⟩
  let comparison := [wordAt 75 "p", markAt 76 ".", wordAt 77 "n", markAt 78 ">", numberAt 79 "1"]
  have tokens : Token.scan (squeeze sampleText) = sampleTokens := by
    rw [Token.scan_eq_scanWithin]
    decide +kernel
  have columns : written (squeeze sampleText) [markAt 7 "*"] = "*".toList := by decide +kernel
  have conditions : written (squeeze sampleText) comparison = "p.n>1".toList := by decide +kernel
  have selects : SelectPhrase (squeeze sampleText)
      (wordAt 0 "select" :: ([markAt 7 "*"] ++ [wordAt 9 "from"])) "*".toList :=
    columns ▸ .mk rfl ⟨by decide, rfl, nofun⟩ (.of_all (by decide)) rfl
  have leftTable : TablePhrase .warehouse (left.tokens ++ [wordAt 28 "p"]) sampleQuery.left :=
    .mk ⟨rfl, rfl, .plain rfl, rfl, rfl⟩ (.bare rfl rfl (by decide))
  have joins : JoinTypePhrase [wordAt 30 "left", wordAt 35 "join"] .left := .named rfl rfl
  have rightTable : TablePhrase .transactional (right.tokens ++ []) sampleQuery.right :=
    .mk ⟨rfl, rfl, .bracketed rfl, rfl, rfl⟩ .omitted
  have compared : ColumnsPhrase sampleQuery.left sampleQuery.right
      ([wordAt 57 "jobs", markAt 61 ".", wordAt 62 "k"] ++
        markAt 63 "=" :: [wordAt 64 "p", markAt 65 ".", wordAt 66 "id"]) ("id", "k") :=
    .swapped (.mk rfl rfl rfl) rfl (.mk rfl rfl rfl) (by decide +kernel) (by decide +kernel)
  have limits : LimitPhrase [wordAt 81 "limit", numberAt 87 "5"] (some 5) :=
    .written rfl rfl (List.all_eq_true.mp (by decide +kernel)) (by decide +kernel)
  have restricts : WherePhrase (squeeze sampleText)
      ([] ++ ([wordAt 81 "limit", numberAt 87 "5"] ++ [markAt 88 ";"]))
      (wordAt 69 "where" :: comparison) (some "p.n>1".toList) :=
    conditions ▸ .written rfl ⟨by decide, rfl, nofun⟩ (.of_all (by decide)) (.of_all (by decide))
  have built := Sentence.mk selects leftTable joins rightTable (by decide +kernel)
    (rfl : (wordAt 54 "on").isKeyword "ON" = true) compared restricts .omitted limits
    (.written (rfl : (markAt 88 ";").isOperator ";" = true))
  have split : Condition.split sampleQuery.left.label.toList sampleQuery.right.label.toList
      "p.n>1".toList = { left := ["n>1".toList] } := sample_split
  simp only [Option.getD_some, split, Option.map_some, Option.map_none, List.map_cons,
    List.map_nil, String.ofList_toList] at built
  rw [tokens]
  exact built

/-- The sample is read as a left join with one condition for its left side. -/
theorem parse_sample :
    Sentence (squeeze sampleText) (Token.scan (squeeze sampleText)) sampleQuery ∧
      (Condition.split "p".toList "jobs".toList "p.n>1".toList).dropped = [] ∧
      parse true sampleText = .ok sampleQuery := by
  have routable : (Condition.split "p".toList "jobs".toList "p.n>1".toList).dropped = [] := by
    rw [sample_split]
  exact ⟨sample_sentence, routable, parse_of_sentence sample_sentence fun _ => routable⟩

end SqlGateway.JoinQuery
