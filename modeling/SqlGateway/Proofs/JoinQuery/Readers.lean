import SqlGateway.Proofs.JoinQuery.Lenient
import SqlGateway.Proofs.Token.Layout

/-!
# Readers and the phrases they read

Every reader gets two lemmas. Reading a phrase with anything behind it that cannot belong
to it gives what the phrase stands for and leaves what is behind it; and whatever a reader
accepts is a phrase. Both are put together from the readers of single tokens.

Only two phrases can be read on into what follows them: the name of a table, if a word
behind it can be its alias, and a body, which goes on to the next word that ends it. For
these the lemmas say what has to follow.
-/

namespace SqlGateway.JoinQuery

open Text

namespace Reader

variable {α β : Type} {tokens middle rest : List Token}

/-- A reader takes the tokens that are left to a value and to the tokens behind it. -/
def Yields (reader : Reader α) (tokens : List Token) (value : α) (rest : List Token) : Prop :=
  reader tokens = .ok (value, rest)

/-- A reader of nothing leaves all tokens. -/
theorem yields_pure {given value : α} :
    Yields (pure given) tokens value rest ↔ given = value ∧ tokens = rest := by
  have read : (pure given : Reader α) tokens = .ok (given, tokens) := rfl
  simp [Yields, read]

/-- Two readers in a row: the second one goes on with what the first one has left. -/
theorem yields_bind {reader : Reader α} {next : α → Reader β} {result : β} :
    Yields (reader >>= next) tokens result rest ↔
      ∃ value middle, Yields reader tokens value middle ∧
        Yields (next value) middle result rest := by
  simp only [Yields, bind, StateT.bind, Except.bind]
  cases read : reader tokens with
  | error rejection => simp
  | ok pair =>
    obtain ⟨value, middle⟩ := pair
    simp [and_assoc]

/-- The first of two readers has read something, and the second one goes on behind it. -/
theorem Yields.bind {reader : Reader α} {next : α → Reader β} {value : α} {result : β}
    (first : Yields reader tokens value middle) (second : Yields (next value) middle result rest) :
    Yields (reader >>= next) tokens result rest :=
  yields_bind.mpr ⟨value, middle, first, second⟩

/-- The first of two readers has read something, and all depends on the second one. -/
theorem Yields.bind_iff {reader : Reader α} {next : α → Reader β} {value : α} {result : β}
    (first : Yields reader tokens value middle) :
    Yields (reader >>= next) tokens result rest ↔ Yields (next value) middle result rest := by
  refine ⟨fun read => ?_, first.bind⟩
  obtain ⟨_, _, same, second⟩ := yields_bind.mp read
  cases first.symm.trans same
  exact second

/-- A rejection reads nothing. -/
theorem not_yields_throw {rejection : Rejection} {value : α} :
    ¬ Yields (throw rejection) tokens value rest := by
  simp [Yields, throw, throwThe, MonadExceptOf.throw, StateT.lift, Except.bind, bind]

/-- A check rejects before anything else is read. -/
theorem yields_check {refused : Prop} [Decidable refused] {rejection : Rejection}
    {next : Unit → Reader α} {value : α} :
    Yields (if refused then throw rejection >>= next else next ()) tokens value rest ↔
      ¬ refused ∧ Yields (next ()) tokens value rest := by
  by_cases holds : refused
  · simp [holds, yields_bind, not_yields_throw]
  · simp [holds]

/-- The next token is taken if it is accepted. -/
theorem accept?_of_true {accepted : Token → Bool} {token : Token}
    (takes : accepted token = true) :
    Yields (accept? accepted) (token :: rest) (some token) rest := by
  unfold accept?
  refine yields_bind.mpr ⟨token :: rest, token :: rest, rfl, ?_⟩
  dsimp only
  rw [if_pos takes]
  rfl

/-- The next token stays if it is not accepted. -/
theorem accept?_of_false {accepted : Token → Bool}
    (leaves : ∀ token, tokens.head? = some token → accepted token = false) :
    Yields (accept? accepted) tokens none tokens := by
  cases tokens with
  | nil => rfl
  | cons token rest =>
    have stays : ¬ accepted token = true := by simp [leaves token rfl]
    unfold accept?
    refine yields_bind.mpr ⟨token :: rest, token :: rest, rfl, ?_⟩
    dsimp only
    rw [if_neg stays]
    rfl

/-- An optional token is the next one or there is none. -/
theorem yields_accept? {accepted : Token → Bool} {value : Option Token}
    (read : Yields (accept? accepted) tokens value rest) :
    (∃ token, value = some token ∧ tokens = token :: rest ∧ accepted token = true) ∨
      (value = none ∧ rest = tokens ∧
        ∀ token, tokens.head? = some token → accepted token = false) := by
  by_cases takes : ∃ token later, tokens = token :: later ∧ accepted token = true
  · obtain ⟨token, later, rfl, takes⟩ := takes
    have taken := (accept?_of_true takes : Yields _ (token :: later) _ _).symm.trans read
    cases taken
    exact Or.inl ⟨token, rfl, rfl, takes⟩
  · have leaves : ∀ token, tokens.head? = some token → accepted token = false := by
      intro token first
      obtain ⟨later, rfl⟩ := List.head?_eq_some_iff.mp first
      simpa using fun accepts => takes ⟨token, later, rfl, accepts⟩
    have left := (accept?_of_false leaves).symm.trans read
    cases left
    exact Or.inr ⟨rfl, rfl, leaves⟩

/-- A token that has to come next is the next one. -/
theorem yields_require {wanted : Expected} {accepted : Token → Bool} {token : Token} :
    Yields (require wanted accepted) tokens token rest ↔
      tokens = token :: rest ∧ accepted token = true := by
  unfold require
  constructor
  · intro read
    obtain ⟨value, middle, first, second⟩ := yields_bind.mp read
    rcases yields_accept? first with ⟨next, rfl, rfl, takes⟩ | ⟨rfl, rfl, _⟩
    · obtain ⟨rfl, rfl⟩ := yields_pure.mp second
      exact ⟨rfl, takes⟩
    · obtain ⟨_, _, _, failed⟩ := yields_bind.mp second
      exact absurd failed not_yields_throw
  · rintro ⟨rfl, takes⟩
    exact (accept?_of_true takes).bind (yields_pure.mpr ⟨rfl, rfl⟩)

/-- A keyword that has to come next is the next token. -/
theorem yields_keyword {word : String} {token : Token} :
    Yields (keyword word) tokens token rest ↔
      tokens = token :: rest ∧ token.isKeyword word = true :=
  yields_require

/-- An operator that has to come next is the next token. -/
theorem yields_operator {mark : String} :
    Yields (operator mark) tokens () rest ↔
      ∃ token, tokens = token :: rest ∧ token.isOperator mark = true := by
  simp only [operator, yields_bind, yields_pure, yields_require, true_and]
  constructor
  · rintro ⟨token, middle, ⟨rfl, takes⟩, rfl⟩
    exact ⟨token, rfl, takes⟩
  · rintro ⟨token, rfl, takes⟩
    exact ⟨token, rest, ⟨rfl, takes⟩, rfl⟩

/-- A plain name that has to come next is the text of the next token. -/
theorem yields_name {wanted : Expected} {value : List Char} :
    Yields (name wanted) tokens value rest ↔
      ∃ token, tokens = token :: rest ∧ token.kind = .word ∧ value = token.text := by
  simp only [name, yields_bind, yields_pure, yields_require, beq_iff_eq]
  constructor
  · rintro ⟨token, middle, ⟨rfl, word⟩, rfl, rfl⟩
    exact ⟨token, rfl, word, rfl⟩
  · rintro ⟨token, rfl, word, rfl⟩
    exact ⟨token, rest, ⟨rfl, word⟩, rfl, rfl⟩

end Reader

open Reader

variable {text : List Char} {tokens following rest : List Token}

/-- Keywords are words. -/
theorem kind_of_isKeyword {token : Token} {word : String} (matched : token.isKeyword word = true) :
    token.kind = .word := by
  simp only [Token.isKeyword, Bool.and_eq_true, beq_iff_eq] at matched
  exact matched.1

/-- A token is at most one keyword. -/
theorem isKeyword_eq_false {token : Token} {word other : String}
    (matched : token.isKeyword word = true) (distinct : word ≠ other) :
    token.isKeyword other = false := by
  simp only [Token.isKeyword, Bool.and_eq_true, beq_iff_eq] at matched
  simp only [Token.isKeyword, matched, Bool.and_eq_false_iff, beq_eq_false_iff_ne, ne_eq,
    String.toList_inj]
  exact Or.inr distinct

/-- What follows a table cannot be taken for its alias. -/
def EndsTable (following : List Token) : Prop :=
  ∀ token, following.head? = some token → ∃ word ∈ clauseWords, token.isKeyword word = true

/-- A label is read up to what cannot belong to it. -/
theorem readAlias_complete {name label : List Char} (labels : LabelPhrase name tokens label)
    (ends : EndsTable following) :
    Yields (readAlias name) (tokens ++ following) label following := by
  cases labels with
  | omitted =>
    refine (accept?_of_false fun token first => ?_).bind ?_
    · obtain ⟨word, listed, matched⟩ := ends token first
      exact isKeyword_eq_false matched fun same => absurd (same ▸ listed) (by decide)
    · refine (accept?_of_false fun token first => ?_).bind (yields_pure.mpr ⟨rfl, rfl⟩)
      obtain ⟨word, listed, matched⟩ := ends token first
      have clause : clauseWords.any (token.isKeyword ·) = true :=
        List.any_eq_true.mpr ⟨word, listed, matched⟩
      simp [clause]
  | @bare token word noIntroduction noClause =>
    refine (accept?_of_false ?_).bind ?_
    · rintro _ ⟨⟩
      exact noIntroduction
    · refine (accept?_of_true ?_).bind (yields_pure.mpr ⟨rfl, rfl⟩)
      simpa [word] using noClause
  | introduced introduces word =>
    exact (accept?_of_true introduces).bind (yields_name.mpr ⟨_, rfl, word, rfl⟩)

/-- Whatever is read behind the name of a table is a label. -/
theorem readAlias_sound {name label : List Char}
    (read : Yields (readAlias name) tokens label rest) :
    ∃ phrase, tokens = phrase ++ rest ∧ LabelPhrase name phrase label := by
  obtain ⟨introduction, middle, first, later⟩ := yields_bind.mp read
  rcases yields_accept? first with ⟨token, rfl, rfl, introduces⟩ | ⟨rfl, rfl, noIntroduction⟩
  · obtain ⟨token, rfl, word, rfl⟩ := yields_name.mp later
    exact ⟨_, rfl, .introduced introduces word⟩
  · obtain ⟨bare, _, second, last⟩ := yields_bind.mp later
    rcases yields_accept? second with ⟨token, rfl, rfl, takes⟩ | ⟨rfl, rfl, _⟩
    · obtain ⟨rfl, rfl⟩ := yields_pure.mp last
      simp only [Bool.and_eq_true, beq_iff_eq, Bool.not_eq_true', List.any_eq_false,
        Bool.not_eq_true] at takes
      exact ⟨[token], rfl, .bare takes.1 (noIntroduction token rfl) takes.2⟩
    · obtain ⟨rfl, rfl⟩ := yields_pure.mp last
      exact ⟨[], rfl, .omitted⟩

/-- Every schema is read. -/
theorem readSchema_complete {backend : Backend} {token : Token} {schema : List Char}
    (names : SchemaPhrase backend token schema) :
    Yields (readSchema backend) (token :: rest) schema rest := by
  cases names with
  | plain word =>
    refine (accept?_of_false ?_).bind (yields_name.mpr ⟨token, rfl, word, rfl⟩)
    rintro _ ⟨⟩
    simp [word]
  | bracketed bracket =>
    exact (accept?_of_true (by simp [bracket])).bind (yields_pure.mpr ⟨rfl, rfl⟩)

/-- Whatever is read as a schema is one. -/
theorem readSchema_sound {backend : Backend} {schema : List Char}
    (read : Yields (readSchema backend) tokens schema rest) :
    ∃ token, tokens = token :: rest ∧ SchemaPhrase backend token schema := by
  obtain ⟨bracket, middle, first, later⟩ := yields_bind.mp read
  rcases yields_accept? first with ⟨token, rfl, rfl, takes⟩ | ⟨rfl, rfl, _⟩
  · obtain ⟨rfl, rfl⟩ := yields_pure.mp later
    obtain ⟨rfl, kind⟩ : backend = .transactional ∧ token.kind = .bracket := by simpa using takes
    exact ⟨token, rfl, .bracketed kind⟩
  · obtain ⟨token, rfl, word, rfl⟩ := yields_name.mp later
    exact ⟨token, rfl, .plain word⟩

/-- Every table is read up to what cannot belong to it. -/
theorem readTable_complete {backend : Backend} {table : Table}
    (names : TablePhrase backend tokens table) (ends : EndsTable following) :
    Yields (readTable backend) (tokens ++ following) table following := by
  cases names with
  | @mk naming schema label labelTokens names labels =>
    refine (yields_require.mpr ⟨rfl, names.marks⟩).bind ?_
    refine (yields_operator.mpr ⟨_, rfl, names.first⟩).bind ?_
    refine (readSchema_complete names.schema).bind ?_
    refine (yields_operator.mpr ⟨_, rfl, names.second⟩).bind ?_
    refine (yields_name.mpr ⟨_, rfl, names.word, rfl⟩).bind ?_
    exact (readAlias_complete labels ends).bind (yields_pure.mpr ⟨rfl, rfl⟩)

/-- Whatever is read as a table is one. -/
theorem readTable_sound {backend : Backend} {table : Table}
    (read : Yields (readTable backend) tokens table rest) :
    ∃ phrase, tokens = phrase ++ rest ∧ TablePhrase backend phrase table := by
  simp only [readTable, yields_bind] at read
  obtain ⟨marker, _, markerRead, _, _, firstRead, schema, _, schemaRead, _, _, secondRead, name, _,
    nameRead, label, _, labelRead, last⟩ := read
  obtain ⟨rfl, marks⟩ := yields_require.mp markerRead
  obtain ⟨firstPoint, rfl, first⟩ := yields_operator.mp firstRead
  obtain ⟨schemaToken, rfl, schemaPhrase⟩ := readSchema_sound schemaRead
  obtain ⟨secondPoint, rfl, second⟩ := yields_operator.mp secondRead
  obtain ⟨nameToken, rfl, word, rfl⟩ := yields_name.mp nameRead
  obtain ⟨labelTokens, rfl, labels⟩ := readAlias_sound labelRead
  obtain ⟨rfl, rfl⟩ := yields_pure.mp last
  let naming : Naming := ⟨marker, firstPoint, schemaToken, secondPoint, nameToken⟩
  exact ⟨naming.tokens ++ labelTokens, rfl, .mk ⟨marks, first, schemaPhrase, second, word⟩ labels⟩

/-- The keyword of a join names it. -/
theorem ofName?_capitals {token : Token} {type : JoinType}
    (named : token.isKeyword type.name = true) :
    JoinType.ofName? (.ofList token.capitals) = some type := by
  simp only [Token.isKeyword, Bool.and_eq_true, beq_iff_eq] at named
  rw [named.2, String.ofList_toList, JoinType.ofName?_name]

/-- The keyword of a join is taken as one. -/
theorem any_isKeyword {token : Token} {type : JoinType} (named : token.isKeyword type.name = true) :
    (JoinType.all.any fun type => token.isKeyword type.name) = true :=
  List.any_eq_true.mpr ⟨type, by cases type <;> decide, named⟩

/-- Every kind of join is read. -/
theorem readJoinType_complete {type : JoinType} (joins : JoinTypePhrase tokens type) :
    Yields readJoinType (tokens ++ following) type following := by
  unfold readJoinType
  cases joins with
  | plain joins =>
    refine (accept?_of_false ?_).bind ?_
    · rintro _ ⟨⟩
      refine List.any_eq_false.mpr fun other _ => ?_
      rw [isKeyword_eq_false joins (by cases other <;> decide)]
      exact Bool.false_ne_true
    · exact (yields_keyword.mpr ⟨rfl, joins⟩).bind (yields_pure.mpr ⟨rfl, rfl⟩)
  | named named joins =>
    refine (accept?_of_true (any_isKeyword named)).bind ?_
    have reads : Yields (keyword "JOIN" >>= fun _ => pure type) (_ :: following) type following :=
      (yields_keyword.mpr ⟨rfl, joins⟩).bind (yields_pure.mpr ⟨rfl, rfl⟩)
    simp only [Option.bind_some, ofName?_capitals named, Option.getD_some]
    split
    · refine (accept?_of_false ?_).bind reads
      rintro _ ⟨⟩
      exact isKeyword_eq_false joins (by decide)
    · exact reads
  | outer sided named outward joins =>
    refine (accept?_of_true (any_isKeyword named)).bind ?_
    simp only [Option.bind_some, ofName?_capitals named, Option.getD_some]
    rw [if_pos (by simpa using sided)]
    refine (accept?_of_true outward).bind ?_
    exact (yields_keyword.mpr ⟨rfl, joins⟩).bind (yields_pure.mpr ⟨rfl, rfl⟩)

/-- Whatever is read as the keywords of a join are such. -/
theorem readJoinType_sound {type : JoinType} (read : Yields readJoinType tokens type rest) :
    ∃ phrase, tokens = phrase ++ rest ∧ JoinTypePhrase phrase type := by
  obtain ⟨written, middle, first, later⟩ := yields_bind.mp read
  rcases yields_accept? first with ⟨kind, rfl, rfl, takes⟩ | ⟨rfl, rfl, _⟩
  · obtain ⟨named, _, isNamed⟩ := List.any_eq_true.mp takes
    simp only [Option.bind_some, ofName?_capitals isNamed, Option.getD_some] at later
    split at later
    · next sided =>
      obtain ⟨outer, _, outerRead, joinRead⟩ := yields_bind.mp later
      obtain ⟨join, _, joined, last⟩ := yields_bind.mp joinRead
      obtain ⟨rfl, joins⟩ := yields_keyword.mp joined
      obtain ⟨rfl, rfl⟩ := yields_pure.mp last
      rcases yields_accept? outerRead with ⟨token, rfl, rfl, outward⟩ | ⟨rfl, rfl, _⟩
      · exact ⟨[kind, token, join], rfl, .outer (by simpa using sided) isNamed outward joins⟩
      · exact ⟨[kind, join], rfl, .named isNamed joins⟩
    · obtain ⟨join, _, joined, last⟩ := yields_bind.mp later
      obtain ⟨rfl, joins⟩ := yields_keyword.mp joined
      obtain ⟨rfl, rfl⟩ := yields_pure.mp last
      exact ⟨[kind, join], rfl, .named isNamed joins⟩
  · obtain ⟨join, _, joined, last⟩ := yields_bind.mp later
    obtain ⟨rfl, joins⟩ := yields_keyword.mp joined
    obtain ⟨rfl, rfl⟩ := yields_pure.mp last
    exact ⟨[join], rfl, .plain joins⟩

/-- Every column is read. -/
theorem readColumn_complete {column : List Char × List Char} (names : ColumnPhrase tokens column) :
    Yields readColumn (tokens ++ following) column following := by
  cases names with
  | mk qualifies separates word =>
    refine (yields_name.mpr ⟨_, rfl, qualifies, rfl⟩).bind ?_
    refine (yields_operator.mpr ⟨_, rfl, separates⟩).bind ?_
    exact (yields_name.mpr ⟨_, rfl, word, rfl⟩).bind (yields_pure.mpr ⟨rfl, rfl⟩)

/-- Whatever is read as a column is one. -/
theorem readColumn_sound {column : List Char × List Char}
    (read : Yields readColumn tokens column rest) :
    ∃ phrase, tokens = phrase ++ rest ∧ ColumnPhrase phrase column := by
  simp only [readColumn, yields_bind] at read
  obtain ⟨_, _, qualifierRead, _, _, pointRead, _, _, nameRead, last⟩ := read
  obtain ⟨qualifier, rfl, qualifies, rfl⟩ := yields_name.mp qualifierRead
  obtain ⟨point, rfl, separates⟩ := yields_operator.mp pointRead
  obtain ⟨name, rfl, word, rfl⟩ := yields_name.mp nameRead
  obtain ⟨rfl, rfl⟩ := yields_pure.mp last
  exact ⟨[qualifier, point, name], rfl, .mk qualifies separates word⟩

/-- A name that equals one of two different names does not equal the other one. -/
theorem sameName_eq_false {name one other : List Char} (same : sameName name other = true)
    (apart : sameName one other = false) : sameName name one = false := by
  simp only [sameName, beq_iff_eq, beq_eq_false_iff_ne] at *
  rw [same]
  exact Ne.symm apart

/-- The columns of two tables with different aliases are read in either order. -/
theorem readColumns_complete {left right : Table} {columns : String × String}
    (compares : ColumnsPhrase left right tokens columns)
    (apart : sameName left.label.toList right.label.toList = false) :
    Yields (readColumns left right) (tokens ++ following) columns following := by
  unfold readColumns
  cases compares with
  | inOrder one compares other ofLeft ofRight =>
    rw [List.append_assoc]
    refine (readColumn_complete one).bind ((yields_operator.mpr ⟨_, rfl, compares⟩).bind ?_)
    refine (readColumn_complete other).bind ?_
    rw [ofLeft, ofRight]
    exact yields_pure.mpr ⟨rfl, rfl⟩
  | swapped one compares other ofRight ofLeft =>
    rw [List.append_assoc]
    refine (readColumn_complete one).bind ((yields_operator.mpr ⟨_, rfl, compares⟩).bind ?_)
    refine (readColumn_complete other).bind ?_
    rw [sameName_eq_false ofRight apart, ofRight, ofLeft]
    exact yields_pure.mpr ⟨rfl, rfl⟩

/-- Whatever is read as the columns of two tables are such. -/
theorem readColumns_sound {left right : Table} {columns : String × String}
    (read : Yields (readColumns left right) tokens columns rest) :
    ∃ phrase, tokens = phrase ++ rest ∧ ColumnsPhrase left right phrase columns := by
  simp only [readColumns, yields_bind] at read
  obtain ⟨first, _, firstRead, _, _, equalsRead, second, _, secondRead, last⟩ := read
  obtain ⟨firstTokens, rfl, one⟩ := readColumn_sound firstRead
  obtain ⟨equals, rfl, compares⟩ := yields_operator.mp equalsRead
  obtain ⟨secondTokens, rfl, other⟩ := readColumn_sound secondRead
  refine ⟨firstTokens ++ equals :: secondTokens, ?_⟩
  split at last
  · next ordered =>
    obtain ⟨ofLeft, ofRight⟩ := Bool.and_eq_true_iff.mp ordered
    obtain ⟨rfl, rfl⟩ := yields_pure.mp last
    exact ⟨by simp, .inOrder one compares other ofLeft ofRight⟩
  · split at last
    · next swapped =>
      obtain ⟨ofRight, ofLeft⟩ := Bool.and_eq_true_iff.mp swapped
      obtain ⟨rfl, rfl⟩ := yields_pure.mp last
      exact ⟨by simp, .swapped one compares other ofRight ofLeft⟩
    · exact absurd last not_yields_throw

/-- A reader of bodies passes over a token at which it does not stop. -/
theorem skipTo_cons {stops : Token → List Token → Bool} {depth : Nat} {token : Token}
    (goesOn : (depth == 0 && stops token rest) = false) :
    skipTo stops depth (token :: rest) = skipTo stops (deepen depth token) rest := by
  rw [skipTo, goesOn]
  simp only [Bool.false_eq_true, if_false, deepen]
  split
  · rfl
  · split
    · rfl
    · rfl

/-- A reader of bodies passes over the tokens of a body. It stops in none of them, and the
    depth of parentheses behind it is the depth from which it goes on. -/
theorem skipTo_append {stops : Token → List Token → Bool} {body : List Token} (depth : Nat)
    (passes : ∀ before token after, body = before ++ token :: after →
      depthBehind depth before = 0 → stops token (after ++ following) = false) :
    skipTo stops depth (body ++ following) = skipTo stops (depthBehind depth body) following := by
  induction body generalizing depth with
  | nil => rfl
  | cons token others inductionHypothesis =>
    have goesOn : (depth == 0 && stops token (others ++ following)) = false := by
      by_cases outside : depth = 0
      · simp [passes [] token others rfl outside]
      · simp [outside]
    have later : skipTo stops (deepen depth token) (others ++ following) =
        skipTo stops (depthBehind depth (token :: others)) following := by
      refine inductionHypothesis _ fun before next after whole closed => ?_
      exact passes (token :: before) next after (by rw [whole]; rfl) closed
    rw [← later, List.cons_append, skipTo_cons goesOn]

/-- A reader of bodies stops at what follows, if there is anything. -/
def StopsAt (stops : Token → List Token → Bool) (following : List Token) : Prop :=
  ∀ token rest, following = token :: rest → stops token rest = true

/-- Outside parentheses a reader of bodies does not pass its stop. -/
theorem skipTo_of_stopsAt {stops : Token → List Token → Bool} (ends : StopsAt stops following) :
    skipTo stops 0 following = following := by
  cases following with
  | nil => rfl
  | cons token rest => simp [skipTo, ends token rest rfl]

/-- Between a keyword and the next token there are only blanks. -/
theorem trim_slice_eq_nil {front : List Token} {keyword : Token}
    (layout : Token.Layout 0 text (front ++ keyword :: following)) :
    trim (slice text keyword.stop ((following.head?.map Token.start).getD text.length)) = [] := by
  obtain ⟨start, behind, rfl, startPlace, behindLayout⟩ := layout.behind
  obtain ⟨gap, rest, rfl, blank, place⟩ := behindLayout.gap
  rw [Nat.zero_add] at startPlace
  have stopPlace : (following.head?.map Token.start).getD (start ++ (gap ++ rest)).length =
      start.length + gap.length := by
    rw [List.length_append, ← startPlace, place]
  rw [stopPlace, startPlace, slice, List.drop_left, Nat.add_sub_cancel_left, List.take_left]
  exact trim_of_blank blank

/-- The text from the first to the last of some tokens is what they cover. -/
theorem written_eq_of_run {start gap middle rest : List Char} {first : Token}
    {others : List Token} (firstPlace : first.start = start.length + gap.length)
    (lastPlace : ((first :: others).getLast (List.cons_ne_nil _ _)).stop =
      first.start + middle.length) :
    written (start ++ (gap ++ (middle ++ rest))) (first :: others) = middle := by
  have lastToken := List.getLast?_eq_some_getLast (List.cons_ne_nil first others)
  have before : first.start = (start ++ gap).length := by
    rw [firstPlace, List.length_append]
  simp only [written, List.head?_cons, lastToken, slice, lastPlace, before]
  rw [← List.append_assoc start, List.drop_left, Nat.add_sub_cancel_left, List.take_left]

/-- Between a keyword and what follows a run of tokens there is, but for blanks, the text
    from the first to the last of them: the gaps around the run are blank, and no token
    begins or ends with a blank. -/
theorem trim_slice_eq_written {front body : List Token} {keyword : Token}
    (layout : Token.Layout 0 text (front ++ keyword :: (body ++ following)))
    (nonempty : body ≠ []) :
    trim (slice text keyword.stop ((following.head?.map Token.start).getD text.length)) =
        written text body ∧
      written text body ≠ [] := by
  obtain ⟨first, others, rfl⟩ := List.exists_cons_of_ne_nil nonempty
  obtain ⟨start, behind, rfl, startPlace, behindLayout⟩ := layout.behind
  obtain ⟨gap, middle, rest, rfl, blank, visible, firstPlace, lastPlace, restLayout, _⟩ :=
    behindLayout.run
  obtain ⟨nextGap, last, rfl, nextBlank, nextPlace⟩ := restLayout.gap
  rw [Nat.zero_add] at startPlace
  have cut := @written_eq_of_run start gap middle (nextGap ++ last) first others
    (by rw [firstPlace, startPlace]) lastPlace
  have stopPlace : (following.head?.map Token.start).getD
      (start ++ (gap ++ (middle ++ (nextGap ++ last)))).length =
        start.length + (gap ++ (middle ++ nextGap)).length := by
    have whole : (start ++ (gap ++ (middle ++ (nextGap ++ last)))).length =
        first.start + middle.length + (nextGap ++ last).length := by
      rw [firstPlace, startPlace]
      simp only [List.length_append]
      omega
    rw [whole, nextPlace, firstPlace, startPlace]
    simp only [List.length_append]
    omega
  have around : gap ++ (middle ++ (nextGap ++ last)) = gap ++ (middle ++ nextGap) ++ last := by
    simp only [List.append_assoc]
  rw [cut]
  constructor
  · rw [stopPlace, startPlace, slice, List.drop_left, Nat.add_sub_cancel_left, around,
      List.take_left]
    exact trim_append blank nextBlank visible.nonempty visible.first visible.last
  · exact visible.nonempty

/-- The text of a run of tokens is cut out of the whole text if a reader of bodies passes
    over all of it. Its parentheses have to be closed only if something follows. -/
theorem clause_of_passes {stops : Token → List Token → Bool} {front body : List Token}
    {keyword : Token} (layout : Token.Layout 0 text (front ++ keyword :: (body ++ following)))
    (closed : following ≠ [] → depthBehind 0 body = 0)
    (passes : ∀ before token after, body = before ++ token :: after →
      depthBehind 0 before = 0 → stops token (after ++ following) = false)
    (ends : StopsAt stops following) :
    Yields (clause text keyword.stop stops) (body ++ following) (written text body) following := by
  have trimmed : trim (slice text keyword.stop
      ((following.head?.map Token.start).getD text.length)) = written text body := by
    by_cases empty : body = []
    · subst empty
      exact trim_slice_eq_nil layout
    · exact (trim_slice_eq_written layout empty).1
  have stopped : skipTo stops 0 (body ++ following) = following := by
    rw [skipTo_append 0 passes]
    by_cases last : following = []
    · subst last
      rfl
    · rw [closed last, skipTo_of_stopsAt ends]
  unfold clause
  refine Yields.bind (rfl : Yields get _ _ _) ?_
  rw [stopped]
  exact Yields.bind (rfl : Yields (set following) _ _ _) (yields_pure.mpr ⟨trimmed, rfl⟩)

/-- The text of a body is cut out of the whole text, and there is something in it. -/
theorem clause_complete {stops : Token → List Token → Bool} {front body : List Token}
    {keyword : Token} (layout : Token.Layout 0 text (front ++ keyword :: (body ++ following)))
    (shape : Body body following)
    (passes : ∀ before token after, body = before ++ token :: after →
      depthBehind 0 before = 0 → stops token (after ++ following) = false)
    (ends : StopsAt stops following) :
    Yields (clause text keyword.stop stops) (body ++ following) (written text body) following ∧
      (written text body).isEmpty = false := by
  constructor
  · exact clause_of_passes layout (fun _ => shape.closed) passes ends
  · simpa using (trim_slice_eq_written layout shape.nonempty).2

/-- Whatever a reader of bodies passes over has no stop outside of parentheses, and it goes
    up to the end or to a stop. -/
theorem skipTo_sound (stops : Token → List Token → Bool) (depth : Nat) (tokens : List Token) :
    ∃ body, tokens = body ++ skipTo stops depth tokens ∧
      (∀ before token after, body = before ++ token :: after → depthBehind depth before = 0 →
        stops token (after ++ skipTo stops depth tokens) = false) ∧
      ∀ token rest, skipTo stops depth tokens = token :: rest →
        depthBehind depth body = 0 ∧ stops token rest = true := by
  induction tokens generalizing depth with
  | nil => exact ⟨[], rfl, by simp, by simp [skipTo]⟩
  | cons token others inductionHypothesis =>
    cases ends : (depth == 0 && stops token others) with
    | true =>
      have stopped : skipTo stops depth (token :: others) = token :: others := by
        simp [skipTo, ends]
      simp only [Bool.and_eq_true, beq_iff_eq] at ends
      refine ⟨[], stopped.symm, by simp, ?_⟩
      rw [stopped]
      rintro _ _ ⟨⟩
      exact ends
    | false =>
      obtain ⟨body, whole, passes, stop⟩ := inductionHypothesis (deepen depth token)
      rw [skipTo_cons ends]
      refine ⟨token :: body, by rw [List.cons_append, ← whole], ?_, stop⟩
      intro before next after inside closed
      cases before with
      | nil =>
        cases inside
        have outside : depth = 0 := closed
        rw [← whole]
        simpa [outside] using ends
      | cons first before =>
        cases inside
        exact passes before next after rfl closed

/-- Whatever is read as a clause is the text of a body. -/
theorem clause_sound {stops : Token → List Token → Bool} {front : List Token} {keyword : Token}
    {value : List Char} (layout : Token.Layout 0 text (front ++ keyword :: tokens))
    (read : Yields (clause text keyword.stop stops) tokens value rest) :
    ∃ body, tokens = body ++ rest ∧ value = written text body ∧
      (∀ before token after, body = before ++ token :: after → depthBehind 0 before = 0 →
        stops token (after ++ rest) = false) ∧
      ∀ token later, rest = token :: later → depthBehind 0 body = 0 ∧ stops token later = true := by
  have computed : Yields (clause text keyword.stop stops) tokens
      (trim (slice text keyword.stop (((skipTo stops 0 tokens).head?.map Token.start).getD
        text.length))) (skipTo stops 0 tokens) := rfl
  obtain ⟨value_eq, rest_eq⟩ := Prod.mk.inj (Except.ok.inj (computed.symm.trans read))
  obtain ⟨body, whole, passes, stop⟩ := skipTo_sound stops 0 tokens
  rw [rest_eq] at value_eq whole passes stop
  rw [whole] at layout
  refine ⟨body, whole, ?_, passes, stop⟩
  rw [← value_eq]
  by_cases empty : body = []
  · subst empty
    exact trim_slice_eq_nil layout
  · exact (trim_slice_eq_written layout empty).1

/-- The select list is read up to and with FROM. -/
theorem readSelectList_complete {columns : List Char} (selects : SelectPhrase text tokens columns)
    (layout : Token.Layout 0 text (tokens ++ following)) :
    Yields (readSelectList text) (tokens ++ following) columns following := by
  cases selects with
  | @mk select source body selects shape free sources =>
    have whole : select :: (body ++ [source]) ++ following =
        select :: (body ++ source :: following) := by simp
    rw [whole] at layout ⊢
    have ends : StopsAt (fun token _ => token.isKeyword "FROM") (source :: following) := by
      rintro _ _ ⟨⟩
      exact sources
    obtain ⟨read, nonempty⟩ := @clause_complete _ _
      (fun token _ => token.isKeyword "FROM") [] _ _ layout
      ⟨shape.nonempty, shape.closed, nofun⟩ free ends
    refine (yields_keyword.mpr ⟨rfl, selects⟩).bind (read.bind ?_)
    refine yields_check.mpr ⟨by simp [nonempty], ?_⟩
    exact (yields_keyword.mpr ⟨rfl, sources⟩).bind (yields_pure.mpr ⟨rfl, rfl⟩)

/-- Whatever is read as a select list is one. -/
theorem readSelectList_sound {columns : List Char} (layout : Token.Layout 0 text tokens)
    (read : Yields (readSelectList text) tokens columns rest) :
    ∃ phrase, tokens = phrase ++ rest ∧ SelectPhrase text phrase columns := by
  simp only [readSelectList, yields_bind] at read
  obtain ⟨select, _, selectRead, value, _, clauseRead, later⟩ := read
  obtain ⟨rfl, selects⟩ := yields_keyword.mp selectRead
  obtain ⟨body, rfl, rfl, passes, stop⟩ := @clause_sound _ _ _ _ [] _ _ layout clauseRead
  obtain ⟨visible, sourceRead⟩ := yields_check.mp later
  obtain ⟨source, _, sourceFound, last⟩ := yields_bind.mp sourceRead
  obtain ⟨rfl, sources⟩ := yields_keyword.mp sourceFound
  obtain ⟨rfl, rfl⟩ := yields_pure.mp last
  have nonempty : body ≠ [] := by
    rintro rfl
    exact visible rfl
  refine ⟨select :: (body ++ [source]), by simp, .mk selects ?_ passes sources⟩
  exact ⟨nonempty, (stop source _ rfl).1, nofun⟩

/-- An operator is no keyword. -/
theorem isKeyword_of_isOperator {token : Token} {mark word : String}
    (matched : token.isOperator mark = true) : token.isKeyword word = false := by
  simp only [Token.isOperator, Bool.and_eq_true, beq_iff_eq] at matched
  simp [Token.isKeyword, matched.1]

/-- Of all keywords only LIMIT ends an order. -/
theorem isKeyword_of_endsOrder {token : Token} {word : String}
    (ends : endsOrder token rest = true) (other : "LIMIT" ≠ word) :
    token.isKeyword word = false := by
  simp only [endsOrder, endsQuery, Bool.or_eq_true, Bool.and_eq_true] at ends
  rcases ends with limits | ⟨semicolon, _⟩
  · exact isKeyword_eq_false limits other
  · exact isKeyword_of_isOperator semicolon

/-- Of all keywords only LIMIT and ORDER end conditions. -/
theorem isKeyword_of_endsConditions {token : Token} {word : String}
    (ends : endsConditions token rest = true) (notLimit : "LIMIT" ≠ word)
    (notOrder : "ORDER" ≠ word) : token.isKeyword word = false := by
  simp only [endsConditions, endsQuery, Bool.or_eq_true, Bool.and_eq_true] at ends
  rcases ends with (limits | ⟨orders, _⟩) | ⟨semicolon, _⟩
  · exact isKeyword_eq_false limits notLimit
  · exact isKeyword_eq_false orders notOrder
  · exact isKeyword_of_isOperator semicolon

/-- A stretch of tokens whose reader does not stop at the words that it avoids is passed over
    by the reader of conditions. What follows cannot begin with BY, so ORDER at its end is no
    stop either. -/
theorem endsConditions_eq_false {body before after : List Token} {token : Token}
    (shape : Stretch body following) (noLimit : Avoids "LIMIT" body) (noOrder : AvoidsOrderBy body)
    (ends : StopsAt endsConditions following) (inside : body = before ++ token :: after)
    (outside : depthBehind 0 before = 0) : endsConditions token (after ++ following) = false := by
  have noOrderBy : (token.isKeyword "ORDER" &&
      (after ++ following).head?.any (Token.isKeyword "BY")) = false := by
    by_cases orders : token.isKeyword "ORDER" = true
    · rw [orders, Bool.true_and]
      cases first : (after ++ following).head? with
      | none => rfl
      | some next =>
        rw [Option.any_some]
        cases after with
        | nil =>
          obtain ⟨rest, rfl⟩ : ∃ rest, following = next :: rest :=
            List.head?_eq_some_iff.mp first
          exact isKeyword_of_endsConditions (ends next rest rfl) (by decide) (by decide)
        | cons second later =>
          cases first
          exact noOrder before token next later inside outside orders
    · simp [orders]
  simp only [endsConditions, noLimit before token after inside outside, noOrderBy,
    shape.endsQuery_eq_false inside outside, Bool.or_self]

/-- The reader of orders passes over a stretch without LIMIT. -/
theorem endsOrder_eq_false {body before after : List Token} {token : Token}
    (shape : Stretch body following) (noLimit : Avoids "LIMIT" body)
    (inside : body = before ++ token :: after) (outside : depthBehind 0 before = 0) :
    endsOrder token (after ++ following) = false := by
  simp only [endsOrder, noLimit before token after inside outside,
    shape.endsQuery_eq_false inside outside, Bool.or_self]

/-- A stretch that a reader of bodies has passed over is one if the reader stops at the
    semicolon that ends the query. -/
theorem stretch_of_passes {stops : Token → List Token → Bool} {body : List Token}
    (passes : ∀ before token after, body = before ++ token :: after → depthBehind 0 before = 0 →
      stops token (after ++ rest) = false)
    (stop : ∀ token later, rest = token :: later → depthBehind 0 body = 0 ∧ stops token later = true)
    (atEnd : ∀ token, token.isOperator ";" = true → stops token [] = true) :
    Stretch body rest where
  closed more := by
    obtain ⟨token, later, rfl⟩ := List.exists_cons_of_ne_nil more
    exact (stop token later rfl).1
  unfinished nothing before last inside outside := by
    have passed := passes before last [] inside outside
    rw [nothing] at passed
    by_cases semicolon : last.isOperator ";" = true
    · rw [List.append_nil, atEnd last semicolon] at passed
      cases passed
    · simpa using semicolon

/-- The optional conditions are read up to what ends them. -/
theorem readConditions_complete {conditions : Option (List Token)} {front : List Token}
    (restricts : LenientWhere following tokens conditions)
    (layout : Token.Layout 0 text (front ++ (tokens ++ following)))
    (ends : StopsAt endsConditions following) :
    Yields (readConditions text) (tokens ++ following) (conditionText text conditions)
      following := by
  cases restricts with
  | omitted =>
    refine (accept?_of_false fun token first => ?_).bind (yields_pure.mpr ⟨rfl, rfl⟩)
    obtain ⟨rest, rfl⟩ := List.head?_eq_some_iff.mp first
    exact isKeyword_of_endsConditions (ends token rest rfl) (by decide) (by decide)
  | @written keyword body restricts nonempty shape noLimit noOrder =>
    have read := clause_of_passes layout shape.closed
      (fun _ _ _ => endsConditions_eq_false shape noLimit noOrder ends) ends
    have visible := (trim_slice_eq_written layout nonempty).2
    refine (accept?_of_true restricts).bind (read.bind ?_)
    exact yields_check.mpr ⟨by simpa using visible, yields_pure.mpr ⟨rfl, rfl⟩⟩

/-- Whatever is read as conditions are such, as far as it is looked at. -/
theorem readConditions_sound {conditions : Option (List Char)} {front : List Token}
    (layout : Token.Layout 0 text (front ++ tokens))
    (read : Yields (readConditions text) tokens conditions rest) :
    ∃ phrase bodies, tokens = phrase ++ rest ∧ LenientWhere rest phrase bodies ∧
      conditions = conditionText text bodies := by
  obtain ⟨keyword, middle, first, behind⟩ := yields_bind.mp read
  rcases yields_accept? first with ⟨keyword, rfl, rfl, restricts⟩ | ⟨rfl, rfl, _⟩
  · obtain ⟨value, _, clauseRead, later⟩ := yields_bind.mp behind
    obtain ⟨body, rfl, rfl, passes, stop⟩ := clause_sound layout clauseRead
    obtain ⟨visible, last⟩ := yields_check.mp later
    obtain ⟨rfl, rfl⟩ := yields_pure.mp last
    have nonempty : body ≠ [] := by
      rintro rfl
      exact visible rfl
    have shape := stretch_of_passes passes stop fun token semicolon => by
      simp [endsConditions, endsQuery, semicolon]
    refine ⟨keyword :: body, some body, rfl, .written restricts nonempty shape ?_ ?_, rfl⟩
    · intro before token after inside outside
      have passed := passes before token after inside outside
      simp only [endsConditions, Bool.or_eq_false_iff] at passed
      exact passed.1.1
    · intro before token second after inside outside orders
      have passed := passes before token (second :: after) inside outside
      simp only [endsConditions, Bool.or_eq_false_iff, orders, Bool.true_and] at passed
      exact passed.1.2
  · obtain ⟨rfl, rfl⟩ := yields_pure.mp behind
    exact ⟨[], none, rfl, .omitted, rfl⟩

/-- The optional order is read up to what ends it. -/
theorem readOrder_complete {order : Option (List Token)} {front : List Token}
    (orders : LenientOrder following tokens order)
    (layout : Token.Layout 0 text (front ++ (tokens ++ following)))
    (ends : StopsAt endsOrder following) :
    Yields (readOrder text) (tokens ++ following) (orderText text order) following := by
  cases orders with
  | omitted =>
    refine (accept?_of_false fun token first => ?_).bind (yields_pure.mpr ⟨rfl, rfl⟩)
    obtain ⟨rest, rfl⟩ := List.head?_eq_some_iff.mp first
    exact isKeyword_of_endsOrder (ends token rest rfl) (by decide)
  | @written first second body orders sorts shape noLimit =>
    have behindFirst :
        Token.Layout 0 text ((front ++ [first]) ++ second :: (body ++ following)) := by
      simpa using layout
    have read := clause_of_passes behindFirst shape.closed
      (fun _ _ _ => endsOrder_eq_false shape noLimit) ends
    refine (accept?_of_true orders).bind ?_
    refine (yields_keyword.mpr ⟨rfl, sorts⟩).bind (read.bind ?_)
    by_cases empty : body = []
    · subst empty
      exact yields_pure.mpr ⟨rfl, rfl⟩
    · have visible := (trim_slice_eq_written behindFirst empty).2
      have notEmpty : (written text body).isEmpty = false := by simpa using visible
      rw [orderText_of_nonempty empty, notEmpty]
      exact yields_pure.mpr ⟨rfl, rfl⟩

/-- Whatever is read as an order is one, as far as it is looked at. -/
theorem readOrder_sound {order : Option (List Char)} {front : List Token}
    (layout : Token.Layout 0 text (front ++ tokens))
    (read : Yields (readOrder text) tokens order rest) :
    ∃ phrase bodies, tokens = phrase ++ rest ∧ LenientOrder rest phrase bodies ∧
      order = orderText text bodies := by
  obtain ⟨keyword, middle, first, behind⟩ := yields_bind.mp read
  rcases yields_accept? first with ⟨keyword, rfl, rfl, orders⟩ | ⟨rfl, rfl, _⟩
  · obtain ⟨second, later, secondRead, clauseBehind⟩ := yields_bind.mp behind
    obtain ⟨rfl, sorts⟩ := yields_keyword.mp secondRead
    obtain ⟨value, _, clauseRead, last⟩ := yields_bind.mp clauseBehind
    have behindFirst : Token.Layout 0 text ((front ++ [keyword]) ++ second :: later) := by
      simpa using layout
    obtain ⟨body, rfl, rfl, passes, stop⟩ := clause_sound behindFirst clauseRead
    obtain ⟨value_eq, rfl⟩ := yields_pure.mp last
    have shape := stretch_of_passes passes stop fun token semicolon => by
      simp [endsOrder, endsQuery, semicolon]
    refine ⟨keyword :: second :: body, some body, rfl, .written orders sorts shape ?_, ?_⟩
    · intro before token after inside outside
      have passed := passes before token after inside outside
      simp only [endsOrder, Bool.or_eq_false_iff] at passed
      exact passed.1
    · rw [← value_eq]
      by_cases empty : body = []
      · subst empty
        rfl
      · have visible := (trim_slice_eq_written behindFirst empty).2
        have notEmpty : (written text body).isEmpty = false := by simpa using visible
        rw [orderText_of_nonempty empty, notEmpty]
        rfl
  · obtain ⟨rfl, rfl⟩ := yields_pure.mp behind
    exact ⟨[], none, rfl, .omitted, rfl⟩

/-- The optional limit is read. -/
theorem readLimit_complete {limit : Option Nat} (limits : LimitPhrase tokens limit)
    (ends : ∀ token, following.head? = some token → token.isKeyword "LIMIT" = false) :
    Yields readLimit (tokens ++ following) limit following := by
  cases limits with
  | omitted => exact (accept?_of_false ends).bind (yields_pure.mpr ⟨rfl, rfl⟩)
  | @written keyword number limits counts whole short =>
    refine (accept?_of_true limits).bind ((accept?_of_true rfl).bind ?_)
    have digits : (number.kind == Token.Kind.number && number.text.all isDigit) = true := by
      simpa [counts] using whole
    simp only [digits, if_true]
    exact yields_check.mpr ⟨by omega, yields_pure.mpr ⟨rfl, rfl⟩⟩

/-- Whatever is read as a limit is one. -/
theorem readLimit_sound {limit : Option Nat} (read : Yields readLimit tokens limit rest) :
    ∃ phrase, tokens = phrase ++ rest ∧ LimitPhrase phrase limit := by
  obtain ⟨keyword, middle, first, behind⟩ := yields_bind.mp read
  rcases yields_accept? first with ⟨keyword, rfl, rfl, limits⟩ | ⟨rfl, rfl, _⟩
  · obtain ⟨found, _, second, counted⟩ := yields_bind.mp behind
    rcases yields_accept? second with ⟨number, rfl, rfl, _⟩ | ⟨rfl, rfl, _⟩
    · dsimp only at counted
      split at counted
      · next digits =>
        obtain ⟨counts, whole⟩ := Bool.and_eq_true_iff.mp digits
        obtain ⟨short, last⟩ := yields_check.mp counted
        obtain ⟨rfl, rfl⟩ := yields_pure.mp last
        refine ⟨[keyword, number], rfl, .written limits (beq_iff_eq.mp counts) ?_ (by omega)⟩
        exact List.all_eq_true.mp whole
      · exact absurd counted not_yields_throw
    · exact absurd counted not_yields_throw
  · obtain ⟨rfl, rfl⟩ := yields_pure.mp behind
    exact ⟨[], rfl, .omitted⟩

/-- The end of a query is read. -/
theorem readEnd_complete (ends : EndPhrase tokens) : Yields readEnd tokens () [] := by
  cases ends with
  | omitted => rfl
  | written ends => exact (accept?_of_true ends).bind rfl

/-- Behind the end of a query nothing is left. -/
theorem readEnd_sound (read : Yields readEnd tokens () rest) : EndPhrase tokens ∧ rest = [] := by
  obtain ⟨semicolon, middle, first, later⟩ := yields_bind.mp read
  have nothing : middle = [] ∧ rest = [] := by
    cases middle with
    | nil =>
      cases (later : Except.ok ((), []) = _)
      exact ⟨rfl, rfl⟩
    | cons token others =>
      have refused : Yields (fail (.unexpected (.ofList token.text))) (token :: others) () rest :=
        later
      exact absurd refused not_yields_throw
  obtain ⟨rfl, rfl⟩ := nothing
  rcases yields_accept? first with ⟨token, rfl, rfl, ends⟩ | ⟨rfl, rfl, _⟩
  · exact ⟨.written ends, rfl⟩
  · exact ⟨.omitted, rfl⟩

end SqlGateway.JoinQuery
