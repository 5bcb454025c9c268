import SqlGateway.Proofs.JoinQuery.Sentences

/-!
# What is accepted

A text is accepted exactly if its tokens are a join of the lenient grammar and, when every
condition has to mention a side, every condition does. So the departures from the grammar
that go unnoticed are those of the lenient grammar and no others.
-/

namespace SqlGateway.JoinQuery

open Text Reader

/-- The conditions of a join, split between its sides. -/
def splitOf (join : JoinQuery) : Condition.Split :=
  Condition.split join.left.label.toList join.right.label.toList (join.whereClause.getD "").toList

/-- A join with its conditions at its sides. -/
def withConditions (join : JoinQuery) : JoinQuery :=
  { join with
    leftConditions := join.splitOf.left.map .ofList
    rightConditions := join.splitOf.right.map .ofList }

/-- The conditions are split as they are, unless each has to mention a side and one does
    not. -/
theorem splitConditions_eq_ok_iff {strict : Bool} {one other text : List Char}
    {split : Condition.Split} :
    splitConditions strict one other text = .ok split ↔
      split = Condition.split one other text ∧ (strict = true → split.dropped = []) := by
  cases strict with
  | false => simp [splitConditions, eq_comm]
  | true =>
    simp only [splitConditions, Condition.splitStrict, if_true, true_implies]
    cases dropped : (Condition.split one other text).dropped with
    | nil =>
      change Except.ok _ = Except.ok split ↔ _
      rw [Except.ok.injEq]
      constructor
      · rintro rfl
        exact ⟨rfl, dropped⟩
      · rintro ⟨rfl, _⟩
        rfl
    | cons conjunct others =>
      change Except.error _ = Except.ok split ↔ _
      simp only [reduceCtorEq, false_iff, not_and]
      rintro rfl
      simp [dropped]

/-- A text is accepted if it is read as a join whose conditions can be split. -/
theorem parse_eq_ok_iff_read {strict : Bool} {sql : List Char} {query : JoinQuery} :
    parse strict sql = .ok query ↔
      ∃ join rest, Yields (readJoin (squeeze sql)) (Token.scan (squeeze sql)) join rest ∧
        (strict = true → join.splitOf.dropped = []) ∧ query = join.withConditions := by
  simp only [parse, bind, Except.bind, pure, Except.pure]
  constructor
  · intro accepted
    split at accepted
    · cases accepted
    · next pair read =>
      split at accepted
      · cases accepted
      · next split done =>
        obtain ⟨rfl, routable⟩ := splitConditions_eq_ok_iff.mp done
        cases accepted
        exact ⟨pair.1, pair.2, read, routable, rfl⟩
  · rintro ⟨join, rest, read, routable, rfl⟩
    have done := splitConditions_eq_ok_iff.mpr ⟨(rfl : join.splitOf = _), routable⟩
    simp only [Yields] at read
    simp only [read, done]
    rfl

/-- A join of the lenient grammar has its conditions at its sides. -/
theorem ReadAs.withConditions_eq {text : List Char} {tokens : List Token} {bodies : Bodies}
    {query : JoinQuery} (readAs : ReadAs text tokens bodies query) :
    withConditions { query with leftConditions := [], rightConditions := [] } = query := by
  cases readAs with
  | @mk _ _ _ _ _ _ _ _ _ _ _ _ _ _ _ _ conditions =>
    cases conditions with
    | none => rfl
    | some body => simp [withConditions, splitOf, conditionText]

/-- Whatever is read as a join is one of the lenient grammar, and nothing is left. -/
theorem readJoin_sound {text : List Char} {tokens rest : List Token} {join : JoinQuery}
    (layout : Token.Layout 0 text tokens) (read : Yields (readJoin text) tokens join rest) :
    rest = [] ∧ ∃ bodies, ReadAs text tokens bodies join.withConditions := by
  rw [readJoin_eq] at read
  obtain ⟨front, behind, frontRead, later⟩ := yields_bind.mp read
  obtain ⟨frontTokens, bodies, rfl, phrase⟩ := readFront_sound layout frontRead
  simp only [yields_bind] at later
  obtain ⟨limit, _, limitRead, _, _, endRead, last⟩ := later
  obtain ⟨limitTokens, rfl, limits⟩ := readLimit_sound limitRead
  obtain ⟨ending, rfl⟩ := readEnd_sound endRead
  obtain ⟨rfl, rfl⟩ := yields_pure.mp last
  refine ⟨rfl, bodies, ?_⟩
  cases phrase with
  | mk selects shape free sources leftTable joins rightTable apart compares compared restricts
      orders =>
    have readAs : ReadAs text _ _ _ := .mk selects shape free sources leftTable joins rightTable
      apart compares compared restricts orders limits ending
    have split := readAs.withConditions_eq
    simp only [List.append_assoc, List.cons_append, List.nil_append] at readAs ⊢
    exact split.symm ▸ readAs

/-- A text is accepted exactly if it is a join of the lenient grammar whose conditions can be
    split. -/
theorem parse_eq_ok_iff_readAs {strict : Bool} {sql : List Char} {query : JoinQuery} :
    parse strict sql = .ok query ↔
      (∃ bodies, ReadAs (squeeze sql) (Token.scan (squeeze sql)) bodies query) ∧
        (strict = true → query.splitOf.dropped = []) := by
  have layout := Token.scan_layout (squeeze sql)
  rw [parse_eq_ok_iff_read]
  constructor
  · rintro ⟨join, rest, read, routable, rfl⟩
    obtain ⟨rfl, bodies, readAs⟩ := readJoin_sound layout read
    exact ⟨⟨bodies, readAs⟩, routable⟩
  · rintro ⟨⟨bodies, readAs⟩, routable⟩
    exact ⟨_, [], readAs.read layout, routable, readAs.withConditions_eq.symm⟩

end SqlGateway.JoinQuery
