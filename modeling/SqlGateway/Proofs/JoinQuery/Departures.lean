import SqlGateway.Proofs.JoinQuery.Routing

/-!
# Departures that are accepted

A text that is understood as a whole has items in its order, no semicolon before its last
token, matching parentheses in its conditions, and no word of another clause where a body
stands. An accepted text need not be understood in this sense, because the readers look at
the bodies of its clauses only for the words that end them.

This is all that can go wrong. Outside the three bodies no semicolon is accepted before the
last token, and LIMIT stands in no accepted body. Whether an accepted text is understood is
therefore a question about its bodies alone.
-/

namespace SqlGateway.JoinQuery

open Text Reader

/-- No semicolon stands before the last token. -/
def SemicolonLast (tokens : List Token) : Prop :=
  ∀ before token after, tokens = before ++ token :: after → token.isOperator ";" = true →
    after = []

/-- No parenthesis is closed that was not opened, and all are closed in the end. -/
def Balanced (tokens : List Token) : Prop :=
  (∀ before after, tokens = before ++ after →
      before.countP (Token.isOperator ")") ≤ before.countP (Token.isOperator "(")) ∧
    tokens.countP (Token.isOperator ")") = tokens.countP (Token.isOperator "(")

/-- A keyword stands outside parentheses only behind a point, as the name of a column. -/
def AvoidsUnqualified (keyword : String) (body : List Token) : Prop :=
  ∀ before token after, body = before ++ token :: after → depthBehind 0 before = 0 →
    token.isKeyword keyword = true →
      ∃ point, before.getLast? = some point ∧ point.isOperator "." = true

/-- The bodies behind WHERE and ORDER BY. -/
def Bodies.clauses (bodies : Bodies) : List (List Token) :=
  bodies.conditions.toList ++ bodies.order.toList

/-- The words that begin another clause and do not end a body. -/
def otherClauses : List String :=
  ["JOIN", "ON", "WHERE", "GROUP"]

/-- A text that is understood as a whole. -/
structure Understood (tokens : List Token) (bodies : Bodies) : Prop where
  /-- A written order has items. -/
  items : bodies.order ≠ some []
  /-- Only the last token may be a semicolon. -/
  semicolon : SemicolonLast tokens
  /-- The parentheses of the conditions match. -/
  balanced : ∀ body, bodies.conditions = some body → Balanced body
  /-- No other clause begins in the conditions or in the order. -/
  closed : ∀ body ∈ bodies.clauses, ∀ keyword ∈ "LIMIT" :: otherClauses,
    AvoidsUnqualified keyword body

/-- The only semicolon of a body is its last token, behind a parenthesis that is never
    closed. -/
def SemicolonOpen (body : List Token) : Prop :=
  ∀ before token after, body = before ++ token :: after → token.isOperator ";" = true →
    after = [] ∧ depthBehind 0 before ≠ 0

/-- Bodies that depart from the grammar nowhere that it is overlooked. -/
structure Bodies.Tidy (bodies : Bodies) : Prop where
  /-- A written order has items. -/
  items : bodies.order ≠ some []
  /-- No semicolon is selected. -/
  columns : ∀ token ∈ bodies.columns, token.isOperator ";" = false
  /-- Conditions and order hold at most the semicolon that ends the query. -/
  semicolon : ∀ body ∈ bodies.clauses, SemicolonOpen body
  /-- The parentheses of the conditions match. -/
  balanced : ∀ body, bodies.conditions = some body → Balanced body
  /-- No other clause begins in the conditions or in the order. -/
  closed : ∀ body ∈ bodies.clauses, ∀ keyword ∈ otherClauses, AvoidsUnqualified keyword body

variable {text : List Char} {tokens body following : List Token}

/-- A body without a keyword has none that stands alone. -/
theorem Avoids.unqualified {keyword : String} (avoided : Avoids keyword body) :
    AvoidsUnqualified keyword body := by
  intro before token after inside outside matched
  have absent := avoided before token after inside outside
  rw [matched] at absent
  cases absent

/-- Only operators are semicolons. -/
theorem semicolon_of_kind {token : Token} (other : token.kind ≠ .operator) :
    token.isOperator ";" = false := by
  simp [Token.isOperator, other]

/-- A word is no semicolon. -/
theorem semicolon_of_word {token : Token} (word : token.kind = .word) :
    token.isOperator ";" = false :=
  semicolon_of_kind (by simp [word])

/-- A keyword is no semicolon. -/
theorem semicolon_of_isKeyword {token : Token} {word : String}
    (matched : token.isKeyword word = true) : token.isOperator ";" = false :=
  semicolon_of_word (kind_of_isKeyword matched)

/-- An operator is no other one. -/
theorem isOperator_eq_false {token : Token} {mark : String} (other : String)
    (matched : token.isOperator mark = true) (distinct : mark ≠ other) :
    token.isOperator other = false := by
  simp only [Token.isOperator, Bool.and_eq_true, beq_iff_eq] at matched
  simp only [Token.isOperator, matched, Bool.and_eq_false_iff, beq_eq_false_iff_ne, ne_eq,
    String.toList_inj]
  exact Or.inr distinct

/-- There is no semicolon in a row of tokens. -/
def Plain (tokens : List Token) : Prop :=
  ∀ token ∈ tokens, token.isOperator ";" = false

/-- Two rows have no semicolon if both have none. -/
theorem plain_append {front back : List Token} : Plain (front ++ back) ↔ Plain front ∧ Plain back :=
  List.forall_mem_append

/-- A row has no semicolon if neither its first token is one nor the others are. -/
theorem plain_cons {token : Token} {rest : List Token} :
    Plain (token :: rest) ↔ token.isOperator ";" = false ∧ Plain rest :=
  List.forall_mem_cons

/-- The empty row has no semicolon. -/
theorem plain_nil : Plain [] :=
  nofun

/-- An alias has no semicolon. -/
theorem LabelPhrase.plain {name label : List Char} (labels : LabelPhrase name tokens label) :
    Plain tokens := by
  cases labels with
  | omitted => exact plain_nil
  | bare word => exact plain_cons.mpr ⟨semicolon_of_word word, plain_nil⟩
  | introduced introduces word =>
    have first := semicolon_of_isKeyword introduces
    exact plain_cons.mpr ⟨first, plain_cons.mpr ⟨semicolon_of_word word, plain_nil⟩⟩

/-- The name of a table has no semicolon. -/
theorem Naming.Names.plain {naming : Naming} {backend : Backend} {schema : List Char}
    (names : naming.Names backend schema) : Plain naming.tokens := by
  have schemaPlain : naming.schema.isOperator ";" = false := by
    cases names.schema with
    | plain word => exact semicolon_of_word word
    | bracketed bracket => exact semicolon_of_kind (by simp [bracket])
  simp only [Naming.tokens, plain_cons]
  exact ⟨semicolon_of_isKeyword names.marks, isOperator_eq_false ";" names.first (by decide),
    schemaPlain, isOperator_eq_false ";" names.second (by decide), semicolon_of_word names.word,
    plain_nil⟩

/-- A table has no semicolon. -/
theorem TablePhrase.plain {backend : Backend} {table : Table}
    (names : TablePhrase backend tokens table) : Plain tokens := by
  cases names with
  | mk names labels => exact plain_append.mpr ⟨names.plain, labels.plain⟩

/-- The keywords of a join have no semicolon. -/
theorem JoinTypePhrase.plain_tokens {type : JoinType} (joins : JoinTypePhrase tokens type) :
    Plain tokens := by
  cases joins with
  | plain joins => exact plain_cons.mpr ⟨semicolon_of_isKeyword joins, plain_nil⟩
  | named named joins =>
    have first := semicolon_of_isKeyword named
    exact plain_cons.mpr ⟨first, plain_cons.mpr ⟨semicolon_of_isKeyword joins, plain_nil⟩⟩
  | outer sided named outward joins =>
    have first := semicolon_of_isKeyword named
    have second := semicolon_of_isKeyword outward
    have third := semicolon_of_isKeyword joins
    exact plain_cons.mpr ⟨first, plain_cons.mpr ⟨second, plain_cons.mpr ⟨third, plain_nil⟩⟩⟩

/-- A column has no semicolon. -/
theorem ColumnPhrase.plain {column : List Char × List Char} (names : ColumnPhrase tokens column) :
    Plain tokens := by
  cases names with
  | mk qualifies separates word =>
    have first := semicolon_of_word qualifies
    have second := isOperator_eq_false ";" separates (by decide)
    have third := semicolon_of_word word
    exact plain_cons.mpr ⟨first, plain_cons.mpr ⟨second, plain_cons.mpr ⟨third, plain_nil⟩⟩⟩

/-- The columns that a join compares have no semicolon. -/
theorem ColumnsPhrase.plain {left right : Table} {columns : String × String}
    (compares : ColumnsPhrase left right tokens columns) : Plain tokens := by
  cases compares with
  | inOrder one equals other _ _ =>
    have sign := isOperator_eq_false ";" equals (by decide)
    exact plain_append.mpr ⟨one.plain, plain_cons.mpr ⟨sign, other.plain⟩⟩
  | swapped one equals other _ _ =>
    have sign := isOperator_eq_false ";" equals (by decide)
    exact plain_append.mpr ⟨one.plain, plain_cons.mpr ⟨sign, other.plain⟩⟩

/-- A limit has no semicolon. -/
theorem LimitPhrase.plain {limit : Option Nat} (limits : LimitPhrase tokens limit) :
    Plain tokens := by
  cases limits with
  | omitted => exact plain_nil
  | written limits counts _ _ =>
    have first := semicolon_of_isKeyword limits
    exact plain_cons.mpr ⟨first, plain_cons.mpr ⟨semicolon_of_kind (by simp [counts]), plain_nil⟩⟩

/-- No token stands behind the semicolon that ends a query. -/
theorem EndPhrase.semicolonLast (ending : EndPhrase tokens) : SemicolonLast tokens := by
  intro before token after whole _
  have few : tokens.length ≤ 1 := by
    cases ending with
    | omitted => exact Nat.zero_le 1
    | written _ => exact Nat.le_refl 1
  rw [whole, List.length_append, List.length_cons] at few
  exact List.eq_nil_of_length_eq_zero (by omega)

/-- Of two rows only the last token is a semicolon if the second row has this property and
    every semicolon of the first one is its last token, with nothing in the second. -/
theorem semicolonLast_append {front back : List Token} :
    SemicolonLast (front ++ back) ↔
      (∀ before token after, front = before ++ token :: after → token.isOperator ";" = true →
        after = [] ∧ back = []) ∧ SemicolonLast back := by
  constructor
  · intro last
    constructor
    · intro before token after inside semicolon
      have whole : front ++ back = before ++ token :: (after ++ back) := by simp [inside]
      exact List.append_eq_nil_iff.mp (last before token (after ++ back) whole semicolon)
    · intro before token after inside semicolon
      have whole : front ++ back = (front ++ before) ++ token :: after := by simp [inside]
      exact last (front ++ before) token after whole semicolon
  · rintro ⟨inFront, inBack⟩ before token after whole semicolon
    rcases List.append_eq_append_iff.mp whole with ⟨middle, rfl, behind⟩ | ⟨middle, rfl, behind⟩
    · exact inBack middle token after behind semicolon
    · cases middle with
      | nil => exact inBack [] token after behind.symm semicolon
      | cons first others =>
        obtain ⟨rfl, rfl⟩ := List.cons.inj behind
        obtain ⟨nothing, empty⟩ := inFront before token others rfl semicolon
        rw [nothing, empty]
        rfl

/-- A row without semicolon does not matter for the semicolons behind it. -/
theorem Plain.semicolonLast_iff {front back : List Token} (plain : Plain front) :
    SemicolonLast (front ++ back) ↔ SemicolonLast back := by
  rw [semicolonLast_append, and_iff_right]
  intro before token after inside semicolon
  have absent := plain token (by simp [inside])
  rw [semicolon] at absent
  cases absent

/-- In a row with something behind it no token may be a semicolon. -/
theorem semicolonLast_iff_plain {front back : List Token} (more : back ≠ []) :
    SemicolonLast (front ++ back) ↔ Plain front ∧ SemicolonLast back := by
  rw [semicolonLast_append]
  refine and_congr_left fun _ => ?_
  constructor
  · intro inFront token member
    obtain ⟨before, after, inside⟩ := List.append_of_mem member
    by_cases semicolon : token.isOperator ";" = true
    · exact absurd (inFront before token after inside semicolon).2 more
    · simpa using semicolon
  · intro plain before token after inside semicolon
    have absent := plain token (by simp [inside])
    rw [semicolon] at absent
    cases absent

/-- A semicolon in a stretch of tokens is the last one of the query exactly if it stands at
    the end of the stretch behind a parenthesis that is never closed: outside parentheses it
    would have ended the stretch, and with something behind it they are closed. -/
theorem Stretch.semicolonLast_iff (shape : Stretch body following) :
    SemicolonLast (body ++ following) ↔ SemicolonOpen body ∧ SemicolonLast following := by
  rw [semicolonLast_append]
  refine and_congr_left fun _ => ?_
  constructor
  · intro last before token after inside semicolon
    obtain ⟨rfl, nothing⟩ := last before token after inside semicolon
    refine ⟨rfl, ?_⟩
    intro outside
    have finished := shape.unfinished nothing before token inside outside
    rw [semicolon] at finished
    cases finished
  · intro unclosed before token after inside semicolon
    obtain ⟨rfl, within⟩ := unclosed before token after inside semicolon
    refine ⟨rfl, Classical.byContradiction fun more => ?_⟩
    have same : deepen (depthBehind 0 before) token = depthBehind 0 before := by
      rw [deepen, isOperator_eq_false "(" semicolon (by decide),
        isOperator_eq_false ")" semicolon (by decide)]
      rfl
    have depth : depthBehind 0 body = depthBehind 0 before := by
      rw [inside, depthBehind, List.foldl_append]
      exact same
    exact within (depth ▸ shape.closed more)

/-- The semicolons of the conditions and of what follows them. -/
theorem LenientWhere.semicolonLast_iff {conditions : Option (List Token)}
    (restricts : LenientWhere following tokens conditions) :
    SemicolonLast (tokens ++ following) ↔
      (∀ body ∈ conditions.toList, SemicolonOpen body) ∧ SemicolonLast following := by
  cases restricts with
  | omitted => simp
  | @written keyword body restricts _ shape _ _ =>
    have plain : Plain [keyword] := plain_cons.mpr ⟨semicolon_of_isKeyword restricts, plain_nil⟩
    rw [List.cons_append, ← List.singleton_append, plain.semicolonLast_iff, shape.semicolonLast_iff]
    simp

/-- The semicolons of the order and of what follows it. -/
theorem LenientOrder.semicolonLast_iff {order : Option (List Token)}
    (orders : LenientOrder following tokens order) :
    SemicolonLast (tokens ++ following) ↔
      (∀ body ∈ order.toList, SemicolonOpen body) ∧ SemicolonLast following := by
  cases orders with
  | omitted => simp
  | @written first second body orders sorts shape _ =>
    have plain : Plain [first, second] := plain_cons.mpr ⟨semicolon_of_isKeyword orders,
      plain_cons.mpr ⟨semicolon_of_isKeyword sorts, plain_nil⟩⟩
    have whole : first :: second :: body ++ following = [first, second] ++ (body ++ following) := rfl
    rw [whole, plain.semicolonLast_iff, shape.semicolonLast_iff]
    simp

/-- In an accepted text only the last token is a semicolon exactly if the bodies are such:
    there is no other place for one. -/
theorem ReadAs.semicolonLast_iff {bodies : Bodies} {query : JoinQuery}
    (readAs : ReadAs text tokens bodies query) :
    SemicolonLast tokens ↔
      Plain bodies.columns ∧ ∀ body ∈ bodies.clauses, SemicolonOpen body := by
  cases readAs with
  | @mk select source compare selected leftTokens typeTokens rightTokens columnTokens whereTokens
      orderTokens limitTokens endTokens left right joinType columns conditions order limit selects
      shape free sources leftTable joins rightTable apart compares compared restricts orders limits
      ending =>
    have selectPlain : Plain (select :: (selected ++ [source])) ↔ Plain selected := by
      simp only [plain_cons, plain_append, semicolon_of_isKeyword selects,
        semicolon_of_isKeyword sources, plain_nil, true_and, and_true]
    have joinPlain : Plain (leftTokens ++ (typeTokens ++ (rightTokens ++ (compare :: columnTokens)))) := by
      simp only [plain_append, plain_cons]
      exact ⟨leftTable.plain, joins.plain_tokens, rightTable.plain,
        semicolon_of_isKeyword compares, compared.plain⟩
    have regroup : leftTokens ++ (typeTokens ++ (rightTokens ++ (compare :: (columnTokens ++
        (whereTokens ++ (orderTokens ++ (limitTokens ++ endTokens))))))) =
          leftTokens ++ (typeTokens ++ (rightTokens ++ (compare :: columnTokens))) ++
            (whereTokens ++ (orderTokens ++ (limitTokens ++ endTokens))) := by
      simp
    rw [semicolonLast_iff_plain (by simp), selectPlain, regroup, joinPlain.semicolonLast_iff,
      restricts.semicolonLast_iff, orders.semicolonLast_iff, limits.plain.semicolonLast_iff]
    simp only [Bodies.clauses, List.forall_mem_append, ending.semicolonLast, and_true]

/-- LIMIT stands in no accepted body. -/
theorem ReadAs.avoids_limit {bodies : Bodies} {query : JoinQuery}
    (readAs : ReadAs text tokens bodies query) : ∀ body ∈ bodies.clauses, Avoids "LIMIT" body := by
  intro body member
  cases readAs with
  | mk _ _ _ _ _ _ _ _ _ _ restricts orders =>
    rcases List.mem_append.mp member with inWhere | inOrder
    · cases restricts with
      | omitted => cases inWhere
      | written _ _ _ noLimit _ => exact List.mem_singleton.mp inWhere ▸ noLimit
    · cases orders with
      | omitted => cases inOrder
      | written _ _ _ noLimit => exact List.mem_singleton.mp inOrder ▸ noLimit

/-- An accepted text is understood as a whole exactly if its bodies are tidy. -/
theorem ReadAs.understood_iff {bodies : Bodies} {query : JoinQuery}
    (readAs : ReadAs text tokens bodies query) : Understood tokens bodies ↔ bodies.Tidy := by
  constructor
  · intro understood
    obtain ⟨columns, clauses⟩ := readAs.semicolonLast_iff.mp understood.semicolon
    refine ⟨understood.items, columns, clauses, understood.balanced, ?_⟩
    intro body member keyword listed
    exact understood.closed body member keyword (List.mem_cons_of_mem _ listed)
  · intro tidy
    refine ⟨tidy.items, readAs.semicolonLast_iff.mpr ⟨tidy.columns, tidy.semicolon⟩,
      tidy.balanced, ?_⟩
    intro body member keyword listed
    rcases List.mem_cons.mp listed with limit | other
    · exact limit ▸ (readAs.avoids_limit body member).unqualified
    · exact tidy.closed body member keyword other

/-- A text is accepted exactly if it is a join of the lenient grammar whose conditions can be
    split, and such a text is understood as a whole exactly if its bodies are tidy. -/
theorem parse_eq_ok_iff_lenient (strict : Bool) (sql : List Char) (query : JoinQuery) :
    parse strict sql = .ok query ↔
      (∃ bodies, ReadAs (squeeze sql) (Token.scan (squeeze sql)) bodies query ∧
        (Understood (Token.scan (squeeze sql)) bodies ↔ bodies.Tidy)) ∧
        (strict = true → query.splitOf.dropped = []) := by
  rw [parse_eq_ok_iff_readAs]
  refine and_congr_left fun _ => ?_
  constructor
  · rintro ⟨bodies, readAs⟩
    exact ⟨bodies, readAs, readAs.understood_iff⟩
  · rintro ⟨bodies, readAs, _⟩
    exact ⟨bodies, readAs⟩

/-- If only the last token may be a semicolon, none of the others is one. -/
theorem SemicolonLast.plain_dropLast (last : SemicolonLast tokens) : Plain tokens.dropLast := by
  rcases List.eq_nil_or_concat tokens with rfl | ⟨front, final, rfl⟩
  · exact plain_nil
  · rw [List.concat_eq_append] at last ⊢
    rw [List.dropLast_concat]
    exact ((semicolonLast_iff_plain (List.cons_ne_nil final [])).mp last).1

/-- A join whose order has no items. -/
def emptyOrderText : String :=
  "SELECT * FROM rs.p.t a JOIN ss.d.u b ON a.k = b.j ORDER BY"

/-- A join with a semicolon between its columns. -/
def dividedText : String :=
  "SELECT a.k; b.j FROM rs.p.t a JOIN ss.d.u b ON a.k = b.j"

/-- A join with an open parenthesis in its conditions. -/
def openText : String :=
  "SELECT * FROM rs.p.t a JOIN ss.d.u b ON a.k = b.j WHERE (a.k = 1"

/-- A join that is also grouped. -/
def groupedText : String :=
  "SELECT * FROM rs.p.t a JOIN ss.d.u b ON a.k = b.j ORDER BY a.k GROUP BY a.k"

/-- Texts that are accepted without being understood, one for each way: an order without
    items, a semicolon before the last token, a parenthesis that is never closed, and a
    clause that the grammar does not have. -/
theorem accepted_departures :
    (parse false emptyOrderText.toList = .ok plainQuery ∧
      ∃ front first second, Token.scan (squeeze emptyOrderText.toList) = front ++ [first, second] ∧
        first.isKeyword "ORDER" = true ∧ second.isKeyword "BY" = true) ∧
    (parse false dividedText.toList = .ok { plainQuery with selectColumns := "a.k; b.j" } ∧
      ¬ SemicolonLast (Token.scan (squeeze dividedText.toList))) ∧
    ((∃ query, parse false openText.toList = .ok query ∧ query.whereClause = some "(a.k = 1") ∧
      ¬ Balanced (Token.scan "(a.k = 1".toList)) ∧
    (parse false groupedText.toList = .ok { plainQuery with orderBy := some "a.k GROUP BY a.k" } ∧
      ¬ AvoidsUnqualified "GROUP" (Token.scan "a.k GROUP BY a.k".toList)) := by
  refine ⟨⟨?_, ?_⟩, ⟨?_, ?_⟩, ⟨?_, ?_⟩, ?_, ?_⟩
  · exact @parse_of_computed _ _ _ [] (by decide +kernel) rfl rfl rfl
  · refine ⟨(Token.scan (squeeze emptyOrderText.toList)).take 24, wordAt 50 "ORDER", wordAt 56 "BY",
      ?_, rfl, rfl⟩
    rw [Token.scan_eq_scanWithin]
    decide +kernel
  · exact @parse_of_computed _ _ _ [] (by decide +kernel) rfl rfl rfl
  · intro last
    have plain := last.plain_dropLast
    rw [Token.scan_eq_scanWithin, Plain] at plain
    revert plain
    decide +kernel
  · exact ⟨_, @parse_withConditions_of_computed _
      { plainQuery with whereClause := some "(a.k = 1" } [] (by decide +kernel), rfl⟩
  · rintro ⟨_, matching⟩
    rw [Token.scan_eq_scanWithin] at matching
    revert matching
    decide +kernel
  · exact @parse_of_computed _ _ _ [] (by decide +kernel) rfl rfl rfl
  · intro avoids
    have tokens : Token.scan "a.k GROUP BY a.k".toList =
        [wordAt 0 "a", markAt 1 ".", wordAt 2 "k"] ++ wordAt 4 "GROUP" ::
          [wordAt 10 "BY", wordAt 13 "a", markAt 14 ".", wordAt 15 "k"] := by
      rw [Token.scan_eq_scanWithin]
      decide +kernel
    obtain ⟨point, behind, points⟩ := avoids _ _ _ tokens rfl rfl
    cases behind
    cases points

end SqlGateway.JoinQuery
