import SqlGateway.Gateway
import SqlGateway.Proofs.JoinQuery.Acceptance
import SqlGateway.Proofs.JoinQuery.TableNames

/-!
# Where accepted joins are sent

Two readers decide about a join. The search for references decides where a query is sent,
and the reader of joins decides whether it can be answered. The second one takes table
names that the first one does not find: with blanks around their points, with letters that
references do not have, with nothing between brackets. Such a query is sent to one backend
as a whole, unless another reference to the same backend is somewhere in its text.
-/

namespace SqlGateway.JoinQuery

open Text Reader

/-- A join from SELECT to its second table, with anything behind it. -/
inductive Opening (text : List Char) : List Token → Naming → Naming → Table → Table → Prop where
  | mk {selectTokens leftLabel typeTokens rightLabel later : List Token}
      {columns leftSchema rightSchema leftAlias rightAlias : List Char} {left right : Naming}
      {joinType : JoinType} (selects : SelectPhrase text selectTokens columns)
      (leftNames : left.Names .warehouse leftSchema)
      (leftLabels : LabelPhrase left.name.text leftLabel leftAlias)
      (joins : JoinTypePhrase typeTokens joinType)
      (rightNames : right.Names .transactional rightSchema)
      (rightLabels : LabelPhrase right.name.text rightLabel rightAlias) :
      Opening text
        (selectTokens ++ (left.tokens ++ (leftLabel ++ (typeTokens ++ (right.tokens ++
          (rightLabel ++ later)))))) left right
        { schema := .ofList leftSchema, name := .ofList left.name.text, label := .ofList leftAlias }
        { schema := .ofList rightSchema, name := .ofList right.name.text,
          label := .ofList rightAlias }

/-- Every accepted query opens as a join of its two tables. -/
theorem exists_opening {strict : Bool} {sql : List Char} {query : JoinQuery}
    (accepted : parse strict sql = .ok query) :
    ∃ left right, Opening (squeeze sql) (Token.scan (squeeze sql)) left right query.left
      query.right := by
  obtain ⟨⟨bodies, readAs⟩, _⟩ := parse_eq_ok_iff_readAs.mp accepted
  generalize Token.scan (squeeze sql) = tokens at readAs
  cases readAs with
  | mk selects shape free sources leftTable joins rightTable =>
    cases leftTable with
    | @mk left _ _ _ leftNames leftLabels =>
      cases rightTable with
      | @mk right _ _ _ rightNames rightLabels =>
        refine ⟨left, right, ?_⟩
        simp only [List.append_assoc]
        exact .mk (.mk selects shape free sources) leftNames leftLabels joins rightNames rightLabels

/-- A select list ends with a word. -/
theorem SelectPhrase.last {text : List Char} {tokens : List Token} {columns : List Char}
    (selects : SelectPhrase text tokens columns) :
    ∃ front word, tokens = front ++ [word] ∧ word.kind = .word := by
  cases selects with
  | @mk select source body _ _ _ sources =>
    exact ⟨select :: body, source, rfl, kind_of_isKeyword sources⟩

/-- The keywords of a join end with a word. -/
theorem JoinTypePhrase.last {tokens : List Token} {type : JoinType}
    (joins : JoinTypePhrase tokens type) :
    ∃ front word, tokens = front ++ [word] ∧ word.kind = .word := by
  cases joins with
  | @plain join joins => exact ⟨[], join, rfl, kind_of_isKeyword joins⟩
  | @named kind join _ _ joins => exact ⟨[kind], join, rfl, kind_of_isKeyword joins⟩
  | @outer kind outer join _ _ _ _ joins =>
    exact ⟨[kind, outer], join, rfl, kind_of_isKeyword joins⟩

/-- The search for references finds a table: as the query names it, or because another
    reference to its backend is at some other place. -/
def Naming.IsFound (naming : Naming) (backend : Backend) (text : List Char) : Prop :=
  naming.Refers ∨ ∃ place, place ≠ naming.marker.start ∧ backend.StartsAt text place

/-- A backend is named in a query if a table that the query names as its own is found. -/
theorem isNamedIn_iff_isFound {sql : List Char} {front later : List Token} {prior : Token}
    {naming : Naming} {backend : Backend} {schema : List Char}
    (whole : Token.scan (squeeze sql) = front ++ prior :: (naming.tokens ++ later))
    (word : prior.kind = .word) (names : naming.Names backend schema) :
    backend.isNamedIn sql = true ↔ naming.IsFound backend (squeeze sql) := by
  have layout := Token.scan_layout (squeeze sql)
  rw [whole] at layout
  obtain ⟨site⟩ := exists_site layout word names
  rw [Backend.isNamedIn_iff, Naming.IsFound, ← startsAt_iff_refers site names]
  constructor
  · rintro ⟨place, starts⟩
    by_cases here : place = naming.marker.start
    · exact Or.inl (here ▸ starts)
    · exact Or.inr ⟨place, here, starts⟩
  · rintro (starts | ⟨place, _, starts⟩)
    · exact ⟨_, starts⟩
    · exact ⟨place, starts⟩

/-- The two tables of a join decide whether it counts as cross-source. -/
theorem Opening.ofText_eq_cross {sql : List Char} {left right : Naming}
    {leftTable rightTable : Table}
    (opens : Opening (squeeze sql) (Token.scan (squeeze sql)) left right leftTable rightTable) :
    Classification.ofText sql = .cross ↔
      left.IsFound .warehouse (squeeze sql) ∧ right.IsFound .transactional (squeeze sql) := by
  generalize whole : Token.scan (squeeze sql) = tokens at opens
  cases opens with
  | @mk selectTokens leftLabel typeTokens rightLabel later _ _ _ _ _ _ _ _ selects leftNames _ joins
      rightNames _ =>
    obtain ⟨selectFront, source, rfl, sourceWord⟩ := selects.last
    obtain ⟨typeFront, join, rfl, joinWord⟩ := joins.last
    have leftFound := @isNamedIn_iff_isFound sql selectFront (leftLabel ++ (typeFront ++
      join :: (right.tokens ++ (rightLabel ++ later)))) source left _ _ (by rw [whole]; simp)
      sourceWord leftNames
    have rightFound := @isNamedIn_iff_isFound sql (selectFront ++ source :: (left.tokens ++
      (leftLabel ++ typeFront))) (rightLabel ++ later) join right _ _ (by rw [whole]; simp)
      joinWord rightNames
    rw [Classification.ofText_eq_cross, ← leftFound, ← rightFound]
    constructor
    · intro named
      exact ⟨named .warehouse, named .transactional⟩
    · rintro ⟨warehouse, transactional⟩ backend
      cases backend with
      | warehouse => exact warehouse
      | transactional => exact transactional

/-- An accepted join is planned as one if it counts as cross-source, and otherwise not. -/
theorem plan_eq_cross_iff {strict : Bool} {sql : String} {query : JoinQuery}
    (accepted : parse strict sql.toList = .ok query) :
    Plan.ofText strict sql = .ok (.cross query) ↔ Classification.ofText sql.toList = .cross := by
  cases classified : Classification.ofText sql.toList with
  | cross => simp [Plan.ofText, classified, accepted]
  | warehouse => simp [Plan.ofText, classified]
  | transactional => simp [Plan.ofText, classified]
  | unprefixed => simp [Plan.ofText, classified]

/-- An accepted query is sent to both backends if and only if both of its tables are found
    by the search for references. -/
theorem sent_to_both_iff_isFound {strict : Bool} {sql : String} {query : JoinQuery}
    (accepted : parse strict sql.toList = .ok query) :
    ∃ left right, Opening (squeeze sql.toList) (Token.scan (squeeze sql.toList)) left right
        query.left query.right ∧
      (Classification.ofText sql.toList = .cross ↔
        left.IsFound .warehouse (squeeze sql.toList) ∧
          right.IsFound .transactional (squeeze sql.toList)) ∧
      (Plan.ofText strict sql = .ok (.cross query) ↔
        left.IsFound .warehouse (squeeze sql.toList) ∧
          right.IsFound .transactional (squeeze sql.toList)) := by
  obtain ⟨left, right, opens⟩ := exists_opening accepted
  refine ⟨left, right, opens, opens.ofText_eq_cross, ?_⟩
  rw [plan_eq_cross_iff accepted]
  exact opens.ofText_eq_cross

/-- What is read of a join can be computed. -/
theorem yields_of_computed {sql : List Char} {join : JoinQuery} {rest : List Token}
    (read : (readJoin (squeeze sql) (Token.scanWithin (squeeze sql).length 0
      (squeeze sql))).toOption = some (join, rest)) :
    Yields (readJoin (squeeze sql)) (Token.scan (squeeze sql)) join rest := by
  rw [Token.scan_eq_scanWithin, Yields]
  cases result : readJoin (squeeze sql) _ with
  | error rejection => simp [result, Except.toOption] at read
  | ok pair => simpa [result, Except.toOption] using read

/-- A join can be parsed by computing what is read if its conditions need not mention a
    side. -/
theorem parse_withConditions_of_computed {sql : List Char} {join : JoinQuery} {rest : List Token}
    (read : (readJoin (squeeze sql) (Token.scanWithin (squeeze sql).length 0
      (squeeze sql))).toOption = some (join, rest)) :
    parse false sql = .ok join.withConditions :=
  parse_eq_ok_iff_read.mpr ⟨join, rest, yields_of_computed read, nofun, rfl⟩

/-- A join without conditions has nothing to split. -/
theorem splitOf_of_noWhere {join : JoinQuery} (noWhere : join.whereClause = none) :
    join.splitOf = {} := by
  have noPieces : Condition.pieces [] = ([], []) := by rw [Condition.pieces.eq_def]
  simp [splitOf, noWhere, Condition.split, Condition.conjuncts, trim, trimStart, trimEnd, noPieces]

/-- A join without conditions can be parsed by computing what is read. -/
theorem parse_of_computed {strict : Bool} {sql : List Char} {query : JoinQuery} {rest : List Token}
    (read : (readJoin (squeeze sql) (Token.scanWithin (squeeze sql).length 0
      (squeeze sql))).toOption = some (query, rest))
    (noWhere : query.whereClause = none) (noLeft : query.leftConditions = [])
    (noRight : query.rightConditions = []) : parse strict sql = .ok query := by
  have split := splitOf_of_noWhere noWhere
  refine parse_eq_ok_iff_read.mpr ⟨query, rest, yields_of_computed read, ?_, ?_⟩
  · intro _
    rw [split]
  · rw [withConditions, split]
    cases query with
    | mk =>
      cases noLeft
      cases noRight
      rfl

/-- A join whose table names have no gaps. -/
def compactText : String :=
  "SELECT * FROM rs.p.t a JOIN ss.d.u b ON a.k = b.j"

/-- The same join with blanks around one point. -/
def spacedText : String :=
  "SELECT * FROM rs . p.t a JOIN ss.d.u b ON a.k = b.j"

/-- What both joins stand for. -/
def plainQuery : JoinQuery where
  left := { schema := "p", name := "t", label := "a" }
  right := { schema := "d", name := "u", label := "b" }
  leftColumn := "k"
  rightColumn := "j"

/-- A join without gaps is accepted, and where it is sent depends on its two tables. -/
theorem sent_to_both_compact :
    parse false compactText.toList = .ok plainQuery ∧
      ∃ left right, Opening (squeeze compactText.toList)
          (Token.scan (squeeze compactText.toList)) left right plainQuery.left plainQuery.right ∧
        (Classification.ofText compactText.toList = .cross ↔
          left.IsFound .warehouse (squeeze compactText.toList) ∧
            right.IsFound .transactional (squeeze compactText.toList)) ∧
        (Plan.ofText false compactText = .ok (.cross plainQuery) ↔
          left.IsFound .warehouse (squeeze compactText.toList) ∧
            right.IsFound .transactional (squeeze compactText.toList)) := by
  have accepted : parse false compactText.toList = .ok plainQuery :=
    @parse_of_computed _ _ _ [] (by decide +kernel) rfl rfl rfl
  exact ⟨accepted, sent_to_both_iff_isFound accepted⟩

/-- Blanks around one point are enough for an accepted join to be sent to one backend. -/
theorem sent_to_one_spaced :
    parse false spacedText.toList = .ok plainQuery ∧
      Classification.ofText spacedText.toList = .transactional ∧
      Plan.ofText false spacedText = .ok (.single .transactional
        "SELECT * FROM rs . p.t a JOIN [d].[u] b ON a.k = b.j") := by
  have accepted : parse false spacedText.toList = .ok plainQuery :=
    @parse_of_computed _ _ _ [] (by decide +kernel) rfl rfl rfl
  have classified : Classification.ofText spacedText.toList = .transactional := by decide +kernel
  have adapted : String.ofList (Backend.transactional.adapt spacedText.toList) =
      "SELECT * FROM rs . p.t a JOIN [d].[u] b ON a.k = b.j" := by decide +kernel
  refine ⟨accepted, classified, ?_⟩
  simp only [Plan.ofText, classified, adapted]

end SqlGateway.JoinQuery
