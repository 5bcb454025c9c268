import SqlGateway.Proofs.Condition.Literals
import SqlGateway.Proofs.JoinQuery.Acceptance
import SqlGateway.Proofs.JoinQuery.Alike
import SqlGateway.Proofs.JoinQuery.Routing

/-!
# What becomes of quoted texts

Blanks are unified over the whole text of a join, WHERE is split at every AND between blanks,
and the qualifiers of each side are removed from its conditions. None of this looks at quotes,
so a literal is changed by it like any other text. It is changed by nothing else: the literals
of a join are those of its text as it was written, and each is found, with its blanks unified,
cut at AND and without qualifiers, in the conditions that are sent or dropped. A schema in
brackets has its blanks unified.
-/

namespace SqlGateway.JoinQuery

open Text Reader

/-- A text is found among the conditions of a join: in one that is sent, without the qualifiers
    of its side, or in one that is dropped. -/
def Carries (query : JoinQuery) (text : List Char) : Prop :=
  (∃ condition ∈ query.leftConditions,
      Condition.withoutQualifier query.left.label.toList text <:+: condition.toList) ∨
    (∃ condition ∈ query.rightConditions,
      Condition.withoutQualifier query.right.label.toList text <:+: condition.toList) ∨
    ∃ condition ∈ query.splitOf.dropped, text <:+: condition

/-- Nothing in a text is changed on the way into the conditions of a join. -/
structure Untouched (query : JoinQuery) (text : List Char) : Prop where
  /-- Its blanks are single spaces. -/
  blanks : squeezeFrom false text = text
  /-- There is no AND between blanks in it. -/
  whole : ¬ Condition.HoldsAnd text
  /-- It has no qualifier of the left side. -/
  noLeft : Condition.mentions query.left.label.toList text = false
  /-- It has no qualifier of the right side. -/
  noRight : Condition.mentions query.right.label.toList text = false

/-- A text is found among the conditions of a join as it is. -/
def CarriesVerbatim (query : JoinQuery) (text : List Char) : Prop :=
  (∃ condition ∈ query.leftConditions ++ query.rightConditions, text <:+: condition.toList) ∨
    ∃ condition ∈ query.splitOf.dropped, text <:+: condition

/-- Blanks between delimiters are unified by themselves. -/
theorem squeezeFrom_delimited {opening closing : Char} (first : isBlank opening = false)
    (last : isBlank closing = false) (body : List Char) :
    squeezeFrom false (opening :: (body ++ [closing])) =
      opening :: (squeezeFrom false body ++ [closing]) := by
  have outer := Reference.squeezeFrom_append first false [] (body ++ [closing])
  have inner := Reference.squeezeFrom_append last false body []
  rw [inner] at outer
  exact outer

/-- Schemas from a text whose blanks are unified are those of the text with their blanks
    unified. -/
theorem SchemaNames.eq_squeezeFrom {one other : List Char}
    (names : SchemaNames Token.Unified one other) : other = squeezeFrom false one := by
  cases names with
  | plain pair => exact pair.text
  | bracketed pair bracket =>
    have spells := pair.spells
    rw [bracket] at spells
    obtain ⟨body, spelled, _⟩ := spells
    rw [pair.text, spelled, squeezeFrom_delimited (by decide) (by decide)]
    simp

/-- What is in a row is related to something in a related row. -/
theorem exists_related_of_mem {α β : Type} {R : α → β → Prop} {row : List α} {others : List β}
    (related : List.Forall₂ R row others) {one : α} (member : one ∈ row) :
    ∃ other ∈ others, R one other := by
  induction related with
  | nil => cases member
  | @cons _ other _ _ pair _ inductionHypothesis =>
    rcases List.mem_cons.mp member with rfl | later
    · exact ⟨other, List.mem_cons_self, pair⟩
    · obtain ⟨found, inside, pair⟩ := inductionHypothesis later
      exact ⟨found, List.mem_cons_of_mem _ inside, pair⟩

/-- The text of a run of tokens holds the text of each. -/
theorem text_infix_written {text : List Char} {front body later : List Token} {token : Token}
    (layout : Token.Layout 0 text (front ++ (body ++ later))) (member : token ∈ body) :
    token.text <:+: written text body := by
  obtain ⟨first, others, rfl⟩ := List.exists_cons_of_ne_nil (List.ne_nil_of_mem member)
  obtain ⟨start, behind, rfl, behindLayout⟩ := layout.append
  obtain ⟨gap, middle, rest, rfl, _, _, firstPlace, lastPlace, _, inside⟩ := behindLayout.run
  rw [Nat.zero_add] at firstPlace
  rw [written_eq_of_run firstPlace lastPlace]
  exact inside token member

/-- The alias of a table is a word. -/
theorem TablePhrase.label_spells {backend : Backend} {tokens : List Token} {table : Table}
    (phrase : TablePhrase backend tokens table)
    (spells : ∀ token ∈ tokens, token.kind.Spells token.text) :
    Token.Kind.word.Spells table.label.toList := by
  cases phrase with
  | @mk naming schema label labelTokens names labels =>
    rw [String.toList_ofList]
    have ofWord : ∀ token ∈ naming.tokens ++ labelTokens, token.kind = .word →
        Token.Kind.word.Spells token.text :=
      fun token member word => word ▸ spells token member
    cases labels with
    | omitted => exact ofWord naming.name (by simp [Naming.tokens]) names.word
    | @bare token word => exact ofWord token (by simp) word
    | @introduced _ token _ word => exact ofWord token (by simp) word

/-- There is no single quote in a word. -/
theorem quote_not_mem_of_word {unit : List Char} (spells : Token.Kind.word.Spells unit) :
    '\'' ∉ unit := by
  obtain ⟨digits, c, tail, rfl, inside, starts, parts⟩ := spells
  intro member
  rcases List.mem_append.mp member with digit | rest
  · exact absurd (inside _ digit) (by decide)
  · rcases List.mem_cons.mp rest with rfl | part
    · exact absurd starts (by decide)
    · exact absurd (parts _ part) (by decide)

/-- A literal is a text between single quotes. -/
theorem exists_quoted {literal : Token} (spells : literal.kind.Spells literal.text)
    (string : literal.kind = .string) : ∃ content, literal.text = Condition.quoted content := by
  rw [string] at spells
  obtain ⟨content, spelled, _⟩ := spells
  exact ⟨content, spelled⟩

variable {text : List Char} {tokens : List Token} {bodies : Bodies} {query : JoinQuery}

/-- The conditions of a join are the text of a run of its tokens. -/
theorem ReadAs.whereClause_eq (readAs : ReadAs text tokens bodies query) {body : List Token}
    (restricted : bodies.conditions = some body) :
    query.whereClause = some (.ofList (written text body)) ∧
      ∃ front later, tokens = front ++ (body ++ later) := by
  cases readAs with
  | @mk select source compare selected leftTokens typeTokens rightTokens columnTokens whereTokens
      orderTokens limitTokens endTokens _ _ _ _ _ _ _ _ _ _ _ _ _ _ _ _ _ restricts =>
    cases restricts with
    | omitted => cases restricted
    | @written keyword =>
      cases restricted
      refine ⟨rfl, select :: (selected ++ source :: (leftTokens ++ (typeTokens ++ (rightTokens ++
        compare :: (columnTokens ++ [keyword]))))), orderTokens ++ (limitTokens ++ endTokens), ?_⟩
      simp

/-- Both aliases of a join are words. -/
theorem ReadAs.labels_spell (readAs : ReadAs text tokens bodies query)
    (layout : Token.Layout 0 text tokens) :
    Token.Kind.word.Spells query.left.label.toList ∧
      Token.Kind.word.Spells query.right.label.toList := by
  have spells := layout.spells
  cases readAs with
  | mk _ _ _ _ leftTable _ rightTable =>
    constructor
    · exact leftTable.label_spells fun token member => spells token (by simp [member])
    · exact rightTable.label_spells fun token member => spells token (by simp [member])

/-- No alias of a join has a single quote. -/
theorem ReadAs.quote_not_mem_labels (readAs : ReadAs text tokens bodies query)
    (layout : Token.Layout 0 text tokens) :
    '\'' ∉ query.left.label.toList ∧ '\'' ∉ query.right.label.toList := by
  obtain ⟨left, right⟩ := readAs.labels_spell layout
  exact ⟨quote_not_mem_of_word left, quote_not_mem_of_word right⟩

/-- What the split of the conditions keeps is found among the conditions of the join. -/
theorem ReadAs.carries (readAs : ReadAs text tokens bodies query) {part : List Char}
    (kept : query.splitOf.Keeps query.left.label.toList query.right.label.toList part) :
    query.Carries part := by
  have left : query.leftConditions = query.splitOf.left.map .ofList :=
    (congrArg JoinQuery.leftConditions readAs.withConditions_eq).symm
  have right : query.rightConditions = query.splitOf.right.map .ofList :=
    (congrArg JoinQuery.rightConditions readAs.withConditions_eq).symm
  rcases kept with ⟨condition, member, inside⟩ | ⟨condition, member, inside⟩ | dropped
  · refine Or.inl ⟨.ofList condition, ?_, by rwa [String.toList_ofList]⟩
    rw [left]
    exact List.mem_map_of_mem member
  · refine Or.inr (Or.inl ⟨.ofList condition, ?_, by rwa [String.toList_ofList]⟩)
    rw [right]
    exact List.mem_map_of_mem member
  · exact Or.inr (Or.inr dropped)

/-- A literal of a text whose blanks are unified is found among the conditions of the join, cut
    at AND and without qualifiers. -/
theorem ReadAs.carries_literal (readAs : ReadAs text tokens bodies query)
    (layout : Token.Layout 0 text tokens) {body : List Token}
    (restricted : bodies.conditions = some body) {literal : Token} (member : literal ∈ body)
    (string : literal.kind = .string) :
    ∀ part ∈ Condition.conjuncts literal.text, query.Carries part := by
  obtain ⟨clause, front, later, rfl⟩ := readAs.whereClause_eq restricted
  obtain ⟨noLeft, noRight⟩ := readAs.quote_not_mem_labels layout
  obtain ⟨before, after, within⟩ := text_infix_written layout member
  obtain ⟨content, spelled⟩ := exists_quoted (layout.spells literal (by simp [member])) string
  intro part inside
  refine readAs.carries ?_
  rw [splitOf, clause, Option.getD_some, String.toList_ofList, ← within, spelled,
    List.append_assoc]
  rw [spelled] at inside
  exact Condition.split_keeps noLeft noRight before content after part inside

/-- A text that is accepted with its blanks unified is a join as it is written, too. -/
theorem exists_raw_reading {strict : Bool} {sql : List Char} {query : JoinQuery}
    (accepted : parse strict sql = .ok query) :
    ∃ bodies raw, ReadAs sql (Token.scan sql) bodies raw := by
  obtain ⟨⟨bodies, readAs⟩, _⟩ := parse_eq_ok_iff_readAs.mp accepted
  have related : List.Forall₂ (fun one other => Token.Unified other one)
      (Token.scan (squeeze sql)) (Token.scan sql) := (Token.scan_squeeze sql).flip
  obtain ⟨otherBodies, raw, reads, _⟩ := readAs.of_alike (fun _ _ pair => pair.alike.symm) related
  exact ⟨otherBodies, raw, reads⟩

/-- However a text is read as it is written, the accepted join is read from the same tokens with
    their blanks unified. -/
theorem exists_unified_reading {strict : Bool} {sql : List Char} {query raw : JoinQuery}
    {bodies : Bodies} (accepted : parse strict sql = .ok query)
    (reads : ReadAs sql (Token.scan sql) bodies raw) :
    ∃ unifiedBodies, ReadAs (squeeze sql) (Token.scan (squeeze sql)) unifiedBodies query ∧
      Option.Rel (List.Forall₂ Token.Unified) bodies.conditions unifiedBodies.conditions ∧
        RelatedTables Token.Unified raw.right query.right := by
  obtain ⟨unifiedBodies, other, otherReads, conditions, right⟩ :
      ∃ unifiedBodies other,
        ReadAs (squeeze sql) (Token.scan (squeeze sql)) unifiedBodies other ∧
          Option.Rel (List.Forall₂ Token.Unified) bodies.conditions unifiedBodies.conditions ∧
            RelatedTables Token.Unified raw.right other.right :=
    reads.of_alike (fun _ _ => Token.Unified.alike) (Token.scan_squeeze sql)
  obtain ⟨readAs, _⟩ := parse_eq_ok_iff_readAs.mp accepted
  have one : parse false sql = .ok query := parse_eq_ok_iff_readAs.mpr ⟨readAs, nofun⟩
  have same : parse false sql = .ok other :=
    parse_eq_ok_iff_readAs.mpr ⟨⟨_, otherReads⟩, nofun⟩
  cases one.symm.trans same
  exact ⟨unifiedBodies, otherReads, conditions, right⟩

/-- A literal of the conditions as they are written is found among the conditions of the accepted
    join, with its blanks unified, cut at AND and without qualifiers. -/
theorem carries_raw_literal {strict : Bool} {sql : List Char} {query raw : JoinQuery}
    {bodies : Bodies} (accepted : parse strict sql = .ok query)
    (reads : ReadAs sql (Token.scan sql) bodies raw) {body : List Token}
    (restricted : bodies.conditions = some body) {literal : Token} (member : literal ∈ body)
    (string : literal.kind = .string) :
    ∀ part ∈ Condition.conjuncts (squeezeFrom false literal.text), query.Carries part := by
  obtain ⟨unifiedBodies, unifiedReads, conditions, _⟩ := exists_unified_reading accepted reads
  rw [restricted] at conditions
  cases unifiedRestricted : unifiedBodies.conditions with
  | none =>
    rw [unifiedRestricted] at conditions
    cases conditions
  | some unifiedBody =>
    rw [unifiedRestricted] at conditions
    cases conditions with
    | some bodyRelated =>
      obtain ⟨token, inside, unified⟩ := exists_related_of_mem bodyRelated member
      rw [← unified.text]
      exact unifiedReads.carries_literal (Token.scan_layout _) unifiedRestricted inside
        (unified.kind.trans string)

/-- A literal that nothing changes is found among the conditions as it is written. -/
theorem Untouched.carriesVerbatim {literal : Token} (untouched : query.Untouched literal.text)
    (spells : literal.kind.Spells literal.text) (string : literal.kind = .string)
    (carries : ∀ part ∈ Condition.conjuncts (squeezeFrom false literal.text),
      query.Carries part) : query.CarriesVerbatim literal.text := by
  obtain ⟨content, spelled⟩ := exists_quoted spells string
  have whole := untouched.whole
  rw [spelled] at whole
  have alone : literal.text ∈ Condition.conjuncts (squeezeFrom false literal.text) := by
    rw [untouched.blanks, spelled, Condition.conjuncts_quoted whole]
    exact List.mem_singleton_self _
  have carried := carries _ alone
  rw [Carries, Condition.withoutQualifier_of_mentions untouched.noLeft,
    Condition.withoutQualifier_of_mentions untouched.noRight] at carried
  rcases carried with ⟨condition, member, inside⟩ | ⟨condition, member, inside⟩ | dropped
  · exact Or.inl ⟨condition, List.mem_append_left _ member, inside⟩
  · exact Or.inl ⟨condition, List.mem_append_right _ member, inside⟩
  · exact Or.inr dropped

/-- In every accepted join literals are changed by the unification of blanks, the split at AND
    and the removal of qualifiers alone, and schemas by the unification of blanks. The text is a
    join as it is written, too, so its literals and its schema are those that are written. -/
theorem literals_carried {strict : Bool} {sql : List Char} {query : JoinQuery}
    (accepted : parse strict sql = .ok query) :
    (∃ bodies raw, ReadAs sql (Token.scan sql) bodies raw) ∧
      ∀ bodies raw, ReadAs sql (Token.scan sql) bodies raw →
        query.right.schema.toList = squeezeFrom false raw.right.schema.toList ∧
          ∀ body, bodies.conditions = some body → ∀ literal ∈ body, literal.kind = .string →
            (∀ part ∈ Condition.conjuncts (squeezeFrom false literal.text), query.Carries part) ∧
              (query.Untouched literal.text → query.CarriesVerbatim literal.text) := by
  refine ⟨exists_raw_reading accepted, fun bodies raw reads => ?_⟩
  obtain ⟨_, _, _, right⟩ := exists_unified_reading accepted reads
  refine ⟨right.schema.eq_squeezeFrom, fun body restricted literal member string => ?_⟩
  have carries := carries_raw_literal accepted reads restricted member string
  obtain ⟨_, front, later, whole⟩ := reads.whereClause_eq restricted
  have spells := (Token.scan_layout sql).spells literal (by simp [whole, member])
  exact ⟨carries, fun untouched => untouched.carriesVerbatim spells string carries⟩

/-- A join with a schema that holds two blanks, three literals that hold two blanks, an AND and
    a qualifier, and a literal that holds nothing of the kind. -/
def changedText : String :=
  "SELECT * FROM rs.p.t a JOIN ss.[e  u].u b ON a.k = b.j " ++
    "WHERE a.n = 'x  y' AND a.m = 'x AND y' AND b.o = 'a.k' AND a.q = 'z'"

/-- What that join stands for. -/
def changedQuery : JoinQuery where
  left := { schema := "p", name := "t", label := "a" }
  right := { schema := "e u", name := "u", label := "b" }
  leftColumn := "k"
  rightColumn := "j"
  whereClause := some "a.n = 'x y' AND a.m = 'x AND y' AND b.o = 'a.k' AND a.q = 'z'"
  leftConditions := ["n = 'x y'", "m = 'x", "b.o = 'k'", "q = 'z'"]

/-- Its conditions are split within one literal, and one is sent to the wrong side. -/
theorem changedQuery_splitOf :
    changedQuery.splitOf =
      { left := ["n = 'x y'".toList, "m = 'x".toList, "b.o = 'k'".toList, "q = 'z'".toList]
        dropped := ["y'".toList] } := by
  decide +kernel

/-- The join is accepted. -/
theorem parse_changedText : parse false changedText.toList = .ok changedQuery := by
  have accepted := @parse_withConditions_of_computed changedText.toList
    { changedQuery with leftConditions := [] } [] (by decide +kernel)
  rw [accepted, withConditions]
  have split : splitOf { changedQuery with leftConditions := [] } = _ := changedQuery_splitOf
  rw [split]
  rfl

/-- A literal of a query. -/
def literalAt (start : Nat) (text : String) : Token :=
  { kind := .string, text := text.toList, start }

/-- The conditions of the join as they are written. -/
def changedBody : List Token :=
  [wordAt 61 "a", markAt 62 ".", wordAt 63 "n", markAt 65 "=", literalAt 67 "'x  y'",
    wordAt 74 "AND", wordAt 78 "a", markAt 79 ".", wordAt 80 "m", markAt 82 "=",
    literalAt 84 "'x AND y'", wordAt 94 "AND", wordAt 98 "b", markAt 99 ".", wordAt 100 "o",
    markAt 102 "=", literalAt 104 "'a.k'", wordAt 110 "AND", wordAt 114 "a", markAt 115 ".",
    wordAt 116 "q", markAt 118 "=", literalAt 120 "'z'"]

/-- The join is one as it is written, with these conditions and a schema with two blanks. -/
theorem changedText_readAs :
    ∃ raw, ReadAs changedText.toList (Token.scan changedText.toList)
      { columns := [markAt 7 "*"], conditions := some changedBody, order := none } raw ∧
        raw.right.schema = "e  u" := by
  let left : Naming := ⟨wordAt 14 "rs", markAt 16 ".", wordAt 17 "p", markAt 18 ".",
    wordAt 19 "t"⟩
  let right : Naming := ⟨wordAt 28 "ss", markAt 30 ".",
    { kind := .bracket, text := "[e  u]".toList, start := 31 }, markAt 37 ".", wordAt 38 "u"⟩
  have tokens : Token.scan changedText.toList =
      wordAt 0 "SELECT" :: ([markAt 7 "*"] ++ [wordAt 9 "FROM"]) ++
        ((left.tokens ++ [wordAt 21 "a"]) ++ ([wordAt 23 "JOIN"] ++
          ((right.tokens ++ [wordAt 40 "b"]) ++ wordAt 42 "ON" ::
            (([wordAt 45 "a", markAt 46 ".", wordAt 47 "k"] ++
              markAt 49 "=" :: [wordAt 51 "b", markAt 52 ".", wordAt 53 "j"]) ++
                ((wordAt 55 "WHERE" :: changedBody) ++ ([] ++ ([] ++ []))))))) := by
    rw [Token.scan_eq_scanWithin]
    decide +kernel
  have leftTable : TablePhrase .warehouse (left.tokens ++ [wordAt 21 "a"]) changedQuery.left :=
    .mk ⟨rfl, rfl, .plain rfl, rfl, rfl⟩ (.bare rfl rfl (by decide))
  have rightTable : TablePhrase .transactional (right.tokens ++ [wordAt 40 "b"])
      { changedQuery.right with schema := "e  u" } :=
    .mk ⟨rfl, rfl, .bracketed rfl, rfl, rfl⟩ (.bare rfl rfl (by decide))
  have compared : ColumnsPhrase changedQuery.left { changedQuery.right with schema := "e  u" }
      ([wordAt 45 "a", markAt 46 ".", wordAt 47 "k"] ++
        markAt 49 "=" :: [wordAt 51 "b", markAt 52 ".", wordAt 53 "j"]) ("k", "j") :=
    .inOrder (.mk rfl rfl rfl) rfl (.mk rfl rfl rfl) (by decide +kernel) (by decide +kernel)
  have shape : Body changedBody [] := ⟨nofun, by decide +kernel, by decide +kernel⟩
  have restricts : LenientWhere [] (wordAt 55 "WHERE" :: changedBody) (some changedBody) :=
    .written rfl nofun shape.stretch (.of_all (by decide)) (.of_all (by decide))
  have selected : Body [markAt 7 "*"] [wordAt 9 "FROM"] := ⟨nofun, rfl, nofun⟩
  have readAs : ReadAs changedText.toList _ _ _ :=
    .mk (rfl : (wordAt 0 "SELECT").isKeyword "SELECT" = true) selected (.of_all (by decide))
      (rfl : (wordAt 9 "FROM").isKeyword "FROM" = true) leftTable
      (.plain (rfl : (wordAt 23 "JOIN").isKeyword "JOIN" = true)) rightTable (by decide +kernel)
      (rfl : (wordAt 42 "ON").isKeyword "ON" = true) compared restricts .omitted .omitted .omitted
  rw [tokens]
  exact ⟨_, readAs, rfl⟩

/-- Nothing in the last literal of the join is changed. -/
theorem untouched_plain : changedQuery.Untouched "'z'".toList where
  blanks := by decide +kernel
  whole := by
    rintro ⟨before, after, b, a, n, d, e, whole, _⟩
    have short : "'z'".toList.length = 3 := rfl
    have longer : "'z'".toList.length = before.length + (after.length + 5) := by simp [whole]
    omega
  noLeft := by decide +kernel
  noRight := by decide +kernel

/-- The join is accepted, and as it is written it has these conditions. Its schema has its blanks
    unified, its literals are carried without what the passes remove, and the last one is carried
    as it is. -/
theorem literals_carried_changed :
    parse false changedText.toList = .ok changedQuery ∧
      (∃ raw, ReadAs changedText.toList (Token.scan changedText.toList)
        { columns := [markAt 7 "*"], conditions := some changedBody, order := none } raw ∧
          changedQuery.right.schema.toList = squeezeFrom false raw.right.schema.toList) ∧
      (∀ literal ∈ changedBody, literal.kind = .string →
        ∀ part ∈ Condition.conjuncts (squeezeFrom false literal.text),
          changedQuery.Carries part) ∧
      literalAt 120 "'z'" ∈ changedBody ∧ changedQuery.Untouched "'z'".toList ∧
      changedQuery.CarriesVerbatim "'z'".toList := by
  obtain ⟨_, carried⟩ := literals_carried parse_changedText
  obtain ⟨raw, reads, _⟩ := changedText_readAs
  obtain ⟨schema, literals⟩ := carried _ raw reads
  have inside : literalAt 120 "'z'" ∈ changedBody := by decide
  refine ⟨parse_changedText, ⟨raw, reads, schema⟩, ?_, inside, untouched_plain, ?_⟩
  · intro literal member string
    exact (literals changedBody rfl literal member string).1
  · exact (literals changedBody rfl _ inside rfl).2 untouched_plain

/-- Three of its literals are not found among its conditions as they are written, and its schema
    is not the one between the brackets. -/
theorem literals_not_verbatim :
    parse false changedText.toList = .ok changedQuery ∧
      (∀ content ∈ ["x  y", "x AND y", "a.k"],
        (∃ literal ∈ Token.scan changedText.toList, literal.kind = .string ∧
          literal.text = '\'' :: (content.toList ++ ['\''])) ∧
        ¬ changedQuery.CarriesVerbatim content.toList) ∧
      (∃ schema ∈ Token.scan changedText.toList, schema.kind = .bracket ∧
        schema.text = "[e  u]".toList) ∧
      changedQuery.right.schema ≠ "e  u" := by
  refine ⟨parse_changedText, ?_, ?_, by decide⟩
  · simp only [CarriesVerbatim, changedQuery_splitOf, Token.scan_eq_scanWithin]
    decide +kernel
  · rw [Token.scan_eq_scanWithin]
    decide +kernel

end SqlGateway.JoinQuery
