import SqlGateway.Proofs.JoinQuery.Routing
import SqlGateway.Proofs.Token.PlainNames

/-!
# Joins of tables with plain names

A join whose table names are plain counts as cross-source, since the search for references takes
every one of them. The reader of joins takes tokens, and a name is one only if it has a letter or
an underscore. It accepts the join exactly if all four names do, and reads them as they are.

The text of the join is known up to its names. So are its tokens, and the readers go through them
one after the other: what is read before a name does not depend on it, and the reader of the name
either goes on behind it or rejects the whole.
-/

namespace SqlGateway.JoinQuery

open Text Reader

open Token (PlainName EndsName ends_point ends_space)

/-- A table with plain names. -/
structure PlainTable where
  /-- The schema of the table. -/
  schema : PlainName
  /-- The name of the table in its schema. -/
  name : PlainName

namespace PlainTable

/-- The schema and the name of a table as a query names it behind a prefix. -/
def path (table : PlainTable) : String :=
  table.schema.text ++ "." ++ table.name.text

/-- Neither of the two names is spelled like a number. -/
def isReadable (table : PlainTable) : Bool :=
  !table.schema.isNumber && !table.name.isNumber

/-- The table with an alias. -/
def labelled (table : PlainTable) (label : String) : Table :=
  { schema := table.schema.text, name := table.name.text, label }

end PlainTable

/-- A join of a table of the warehouse with a table of the transactional server. -/
def plainText (left right : PlainTable) : String :=
  "SELECT * FROM rs." ++ left.path ++ " AS a JOIN ss." ++ right.path ++ " AS b ON a.x = b.y"

/-- What this join stands for. -/
def plainJoin (left right : PlainTable) : JoinQuery where
  left := left.labelled "a"
  right := right.labelled "b"
  leftColumn := "x"
  rightColumn := "y"

/-- A plain name is read where one is asked for if it is no number. -/
theorem yields_plainName_iff (name : PlainName) {mark : Char} (ends : EndsName mark)
    {wanted : Expected} {start : Nat} {rest value : List Char} {left : List Token} :
    Yields (Reader.name wanted) (Token.scanFrom start (name.text.toList ++ mark :: rest)) value
        left ↔
      name.isNumber = false ∧ value = name.text.toList ∧
        left = Token.scanFrom (start + name.text.toList.length) (mark :: rest) := by
  obtain ⟨token, later, scanned, kind, word⟩ := name.scanFrom_text ends start rest
  rw [scanned, yields_name]
  cases number : name.isNumber with
  | true =>
    rw [number] at kind
    refine iff_of_false ?_ nofun
    rintro ⟨_, same, isWord, _⟩
    cases same
    cases kind.symm.trans isWord
  | false =>
    rw [number] at kind
    obtain ⟨text, rfl⟩ := word number
    constructor
    · rintro ⟨_, same, _, rfl⟩
      cases same
      exact ⟨rfl, text, rfl⟩
    · rintro ⟨_, rfl, rfl⟩
      exact ⟨token, rfl, kind, text.symm⟩

/-- A plain name is read as a schema if it is no number. -/
theorem yields_plainSchema_iff (name : PlainName) {backend : Backend} {mark : Char}
    (ends : EndsName mark) {start : Nat} {rest value : List Char} {left : List Token} :
    Yields (readSchema backend) (Token.scanFrom start (name.text.toList ++ mark :: rest)) value
        left ↔
      name.isNumber = false ∧ value = name.text.toList ∧
        left = Token.scanFrom (start + name.text.toList.length) (mark :: rest) := by
  have noBracket : Yields
      (accept? fun token => backend == .transactional && token.kind == .bracket)
      (Token.scanFrom start (name.text.toList ++ mark :: rest)) none
      (Token.scanFrom start (name.text.toList ++ mark :: rest)) := by
    refine accept?_of_false fun token first => ?_
    obtain ⟨_, later, scanned, kind, _⟩ := name.scanFrom_text ends start rest
    rw [scanned] at first
    cases first
    cases number : name.isNumber <;> simp [kind, number]
  rw [readSchema, noBracket.bind_iff]
  exact yields_plainName_iff name ends

/-- A point is scanned as an operator. -/
theorem scanFrom_point (start : Nat) (rest : List Char) :
    Token.scanFrom start ('.' :: rest) = markAt start "." :: Token.scanFrom (start + 1) rest := by
  have read : Token.lexeme '.' rest = (some .operator, 1) := rfl
  exact Token.scanFrom_of_some start read

/-- An alias behind AS is read. -/
theorem yields_readAlias {name : List Char} {introduction label : Token} {following : List Token}
    (introduces : introduction.isKeyword "AS" = true) (word : label.kind = .word) :
    Yields (readAlias name) (introduction :: label :: following) label.text following :=
  (accept?_of_true introduces).bind (yields_name.mpr ⟨_, rfl, word, rfl⟩)

/-- A table is read behind its prefix if none of its names is a number, with the alias behind
    AS. -/
theorem yields_plainTable_iff (table : PlainTable) {backend : Backend}
    {marker point introduction : Token} {following left : List Token} {start place : Nat}
    {behind : List Char} {label : String} {value : Table}
    (marks : marker.isKeyword backend.marker.upperCase = true) (first : point.isOperator "." = true)
    (spaced : behind.head? = some ' ')
    (scanned : Token.scanFrom (start + table.path.toList.length) behind =
      introduction :: wordAt place label :: following)
    (introduces : introduction.isKeyword "AS" = true) :
    Yields (readTable backend)
        (marker :: point :: Token.scanFrom start (table.path.toList ++ behind)) value left ↔
      table.isReadable = true ∧ value = table.labelled label ∧ left = following := by
  obtain ⟨rest, rfl⟩ := List.head?_eq_some_iff.mp spaced
  have path : table.path.toList = table.schema.text.toList ++ '.' :: table.name.text.toList := by
    simp [PlainTable.path]
  have behind : start + table.path.toList.length =
      start + table.schema.text.toList.length + 1 + table.name.text.toList.length := by
    rw [path, List.length_append, List.length_cons]
    omega
  rw [behind] at scanned
  rw [path, List.append_assoc, List.cons_append, readTable,
    (yields_require.mpr ⟨rfl, marks⟩).bind_iff, (yields_operator.mpr ⟨_, rfl, first⟩).bind_iff,
    yields_bind]
  simp only [yields_plainSchema_iff table.schema ends_point, and_assoc, exists_and_left,
    exists_eq_left, scanFrom_point]
  rw [(yields_operator.mpr ⟨_, rfl, rfl⟩).bind_iff, yields_bind]
  simp only [yields_plainName_iff table.name ends_space, and_assoc, exists_and_left, exists_eq_left,
    scanned]
  rw [(yields_readAlias introduces rfl).bind_iff, yields_pure, @eq_comm _ _ value,
    @eq_comm _ _ left]
  simp [PlainTable.isReadable, PlainTable.labelled, wordAt, and_assoc]

/-- The tokens before the names of the left table. -/
theorem scanFrom_opening (rest : List Char) :
    Token.scanFrom 0 ("SELECT * FROM rs.".toList ++ rest) =
      wordAt 0 "SELECT" :: markAt 7 "*" :: wordAt 9 "FROM" :: wordAt 14 "rs" :: markAt 16 "." ::
        Token.scanFrom 17 rest :=
  @Token.scanFrom_of_computed 0 17 8 "SELECT * FROM rs.".toList rest
    [wordAt 0 "SELECT", markAt 7 "*", wordAt 9 "FROM", wordAt 14 "rs", markAt 16 "."]
    fun _ => rfl

/-- The tokens between the names of the tables. -/
theorem scanFrom_middle (start : Nat) (rest : List Char) :
    Token.scanFrom start (" AS a JOIN ss.".toList ++ rest) =
      wordAt (start + 1) "AS" :: wordAt (start + 4) "a" :: wordAt (start + 6) "JOIN" ::
        wordAt (start + 11) "ss" :: markAt (start + 13) "." :: Token.scanFrom (start + 14) rest :=
  @Token.scanFrom_of_computed start (start + 14) 9 " AS a JOIN ss.".toList rest
    [wordAt (start + 1) "AS", wordAt (start + 4) "a", wordAt (start + 6) "JOIN",
      wordAt (start + 11) "ss", markAt (start + 13) "."] fun _ => rfl

/-- The tokens behind the names of the right table. -/
theorem scanFrom_closing (start : Nat) :
    Token.scanFrom start " AS b ON a.x = b.y".toList =
      [wordAt (start + 1) "AS", wordAt (start + 4) "b", wordAt (start + 6) "ON",
        wordAt (start + 9) "a", markAt (start + 10) ".", wordAt (start + 11) "x",
        markAt (start + 13) "=", wordAt (start + 15) "b", markAt (start + 16) ".",
        wordAt (start + 17) "y"] := by
  rw [Token.scanFrom_eq_scanWithin start (Nat.le_refl _)]
  rfl

/-- The tokens of the join, known up to its first name. -/
def plainTokens (left right : PlainTable) : List Token :=
  wordAt 0 "SELECT" :: markAt 7 "*" :: wordAt 9 "FROM" :: wordAt 14 "rs" :: markAt 16 "." ::
    Token.scanFrom 17 (left.path.toList ++ (" AS a JOIN ss.".toList ++ (right.path.toList ++
      " AS b ON a.x = b.y".toList)))

/-- The text of a join in its parts. -/
theorem toList_plainText (left right : PlainTable) :
    (plainText left right).toList = "SELECT * FROM rs.".toList ++ (left.path.toList ++
      (" AS a JOIN ss.".toList ++ (right.path.toList ++ " AS b ON a.x = b.y".toList))) := by
  unfold plainText
  rw [String.toList_append, String.toList_append, String.toList_append, String.toList_append,
    List.append_assoc, List.append_assoc, List.append_assoc]

/-- There is no blank in the path of a table. -/
theorem PlainTable.solid (table : PlainTable) : ∀ c ∈ table.path.toList, isBlank c = false := by
  intro c member
  simp only [PlainTable.path, String.toList_append, List.mem_append] at member
  rcases member with (schema | point) | name
  · exact table.schema.solid c schema
  · cases List.mem_singleton.mp point
    decide
  · exact table.name.solid c name

/-- The join has no blanks to unify. -/
theorem squeeze_plainText (left right : PlainTable) :
    squeeze (plainText left right).toList = (plainText left right).toList := by
  have opening (rest : List Char) : squeezeFrom false ("SELECT * FROM rs.".toList ++ rest) =
      "SELECT * FROM rs.".toList ++ squeezeFrom false rest := rfl
  have middle (rest : List Char) : squeezeFrom false (" AS a JOIN ss.".toList ++ rest) =
      " AS a JOIN ss.".toList ++ squeezeFrom false rest := rfl
  have closing : squeezeFrom false " AS b ON a.x = b.y".toList = " AS b ON a.x = b.y".toList := rfl
  have kept : squeezeFrom false (plainText left right).toList = (plainText left right).toList := by
    rw [toList_plainText, opening, Token.squeezeFrom_of_solid_append left.solid, middle,
      Token.squeezeFrom_of_solid_append right.solid, closing]
  have first : ∀ c, (plainText left right).toList.head? = some c → isBlank c = false := by
    rw [toList_plainText]
    rintro _ ⟨⟩
    rfl
  have last : ∀ c, (plainText left right).toList.getLast? = some c → isBlank c = false := by
    have closed : " AS b ON a.x = b.y".toList.getLast? = some 'y' := rfl
    simp only [toList_plainText, List.getLast?_append, closed, Option.some_or]
    rintro _ ⟨⟩
    rfl
  have nonempty : (plainText left right).toList ≠ [] := by
    rw [toList_plainText]
    exact List.cons_ne_nil 'S' _
  have visible : Token.Visible (plainText left right).toList := ⟨nonempty, first, last⟩
  rw [squeeze, kept, visible.trim_eq]

/-- The path of a table behind a prefix is found as a reference. -/
theorem PlainTable.occurs_path (table : PlainTable) (form : Reference.Form)
    (plain : form.schema? = Reference.name?) {a b : Char} (first : fold a = form.letter)
    (second : fold b = 's') {front : List Char} (boundary : front.getLast?.any isWord = false)
    (rest : List Char) :
    form.occurs (front ++ a :: b :: '.' :: (table.path.toList ++ rest)) = true := by
  have path : table.path.toList ++ rest =
      table.schema.text.toList ++ '.' :: (table.name.text.toList ++ rest) := by
    simp [PlainTable.path]
  have found : (Reference.path? form.schema? (table.path.toList ++ rest)).isSome = true := by
    rw [plain, Reference.path?_name?_isSome_iff]
    exact ⟨_, _, table.schema.isName, path, table.name.isName.head?_any rest⟩
  rw [Reference.Form.occurs, Reference.Form.occursFrom_iff]
  refine ⟨front, _, rfl, by simpa using boundary, ?_⟩
  exact (form.read?_isSome_iff _).mpr ⟨a, b, _, first, second, rfl, found⟩

/-- A join whose names are plain counts as cross-source. -/
theorem ofText_plainText (left right : PlainTable) :
    Classification.ofText (plainText left right).toList = .cross := by
  rw [Classification.ofText_eq_cross]
  intro backend
  rw [toList_plainText]
  cases backend with
  | warehouse =>
    have boundary : "SELECT * FROM ".toList.getLast?.any isWord = false := rfl
    exact left.occurs_path .warehouse rfl (rfl : fold 'r' = 'r') (rfl : fold 's' = 's') boundary _
  | transactional =>
    have split (rest : List Char) : " AS a JOIN ss.".toList ++ rest =
        " AS a JOIN ".toList ++ 's' :: 's' :: '.' :: rest := rfl
    have closed : " AS a JOIN ".toList.getLast? = some ' ' := rfl
    have boundary : ("SELECT * FROM rs.".toList ++ (left.path.toList ++
        " AS a JOIN ".toList)).getLast?.any isWord = false := by
      simp only [List.getLast?_append, closed, Option.some_or]
      rfl
    have found := right.occurs_path .plain rfl (rfl : fold 's' = 's') (rfl : fold 's' = 's')
      boundary " AS b ON a.x = b.y".toList
    rw [split, ← List.append_assoc left.path.toList, ← List.append_assoc]
    simp only [Backend.isNamedIn, Reference.namesTransactional, found, Bool.or_true]

/-- The select list of the join is read. -/
theorem yields_selectList {text : List Char} {following : List Token}
    (columns : written text [markAt 7 "*"] = "*".toList)
    (layout : Token.Layout 0 text
      (wordAt 0 "SELECT" :: markAt 7 "*" :: wordAt 9 "FROM" :: following)) :
    Yields (readSelectList text)
      (wordAt 0 "SELECT" :: markAt 7 "*" :: wordAt 9 "FROM" :: following) "*".toList
      following := by
  have selects : SelectPhrase text
      (wordAt 0 "SELECT" :: ([markAt 7 "*"] ++ [wordAt 9 "FROM"])) "*".toList :=
    columns ▸ .mk rfl ⟨by decide, rfl, nofun⟩ (.of_all (by decide)) rfl
  exact readSelectList_complete selects layout

/-- The columns that the join compares are read. -/
theorem yields_columns (left right : PlainTable) (start : Nat) :
    Yields (readColumns (left.labelled "a") (right.labelled "b"))
      [wordAt (start + 9) "a", markAt (start + 10) ".", wordAt (start + 11) "x",
        markAt (start + 13) "=", wordAt (start + 15) "b", markAt (start + 16) ".",
        wordAt (start + 17) "y"] ("x", "y") [] := by
  have apart : sameName "a".toList "b".toList = false := by decide +kernel
  have ofLeft : sameName "a".toList (left.labelled "a").label.toList = true := beq_self_eq_true _
  have ofRight : sameName "b".toList (right.labelled "b").label.toList = true := beq_self_eq_true _
  have one : ColumnPhrase [wordAt (start + 9) "a", markAt (start + 10) ".", wordAt (start + 11) "x"]
    ("a".toList, "x".toList) := .mk rfl rfl rfl
  have other : ColumnPhrase [wordAt (start + 15) "b", markAt (start + 16) ".",
    wordAt (start + 17) "y"] ("b".toList, "y".toList) := .mk rfl rfl rfl
  have compares : (markAt (start + 13) "=").isOperator "=" = true := rfl
  have read := @readColumns_complete _ [] _ _ _ (.inOrder one compares other ofLeft ofRight) apart
  simpa using read

/-- The left table of the join is read up to the keyword behind it. -/
theorem yields_leftTable_iff (left : PlainTable) {start : Nat} {rest : List Char} {value : Table}
    {behind : List Token} :
    let stop := start + left.path.toList.length
    Yields (readTable .warehouse) (wordAt 14 "rs" :: markAt 16 "." ::
        Token.scanFrom start (left.path.toList ++ (" AS a JOIN ss.".toList ++ rest))) value behind ↔
      left.isReadable = true ∧ value = left.labelled "a" ∧
        behind = wordAt (stop + 6) "JOIN" :: wordAt (stop + 11) "ss" :: markAt (stop + 13) "." ::
          Token.scanFrom (stop + 14) rest :=
  yields_plainTable_iff left rfl rfl rfl (scanFrom_middle _ rest) rfl

/-- The right table of the join is read up to the keyword behind it. -/
theorem yields_rightTable_iff (right : PlainTable) {place point start : Nat} {value : Table}
    {behind : List Token} :
    let stop := start + right.path.toList.length
    Yields (readTable .transactional) (wordAt place "ss" :: markAt point "." ::
        Token.scanFrom start (right.path.toList ++ " AS b ON a.x = b.y".toList)) value behind ↔
      right.isReadable = true ∧ value = right.labelled "b" ∧
        behind = wordAt (stop + 6) "ON" :: [wordAt (stop + 9) "a", markAt (stop + 10) ".",
          wordAt (stop + 11) "x", markAt (stop + 13) "=", wordAt (stop + 15) "b",
          markAt (stop + 16) ".", wordAt (stop + 17) "y"] :=
  yields_plainTable_iff right rfl rfl rfl (scanFrom_closing _) rfl

/-- The tokens of the join are read as a whole if none of its names is a number, and otherwise
    not. -/
theorem yields_plainTokens_iff (left right : PlainTable) {text : List Char} {join : JoinQuery}
    {rest : List Token} (columns : written text [markAt 7 "*"] = "*".toList)
    (layout : Token.Layout 0 text (plainTokens left right)) :
    Yields (readJoin text) (plainTokens left right) join rest ↔
      left.isReadable = true ∧ right.isReadable = true ∧ plainJoin left right = join ∧
        [] = rest := by
  have apart : ¬ sameName "a".toList "b".toList = true := by decide +kernel
  refine (yields_selectList columns layout).bind_iff.trans ?_
  rw [yields_bind]
  simp only [yields_leftTable_iff, and_assoc, exists_and_left, exists_eq_left]
  refine and_congr_right fun _ => ?_
  refine (readJoinType_complete (.plain rfl)).bind_iff.trans ?_
  rw [yields_bind]
  simp only [yields_rightTable_iff, and_assoc, exists_and_left, exists_eq_left]
  refine and_congr_right fun _ => ?_
  refine yields_check.trans ((and_iff_right apart).trans ?_)
  refine (yields_keyword.mpr ⟨rfl, rfl⟩).bind_iff.trans ?_
  refine (yields_columns left right _).bind_iff.trans ?_
  have noConditions : Yields (readConditions text) [] none [] := rfl
  have noOrder : Yields (readOrder text) [] none [] := rfl
  have noLimit : Yields readLimit [] none [] := rfl
  have ending : Yields readEnd [] () [] := rfl
  refine noConditions.bind_iff.trans (noOrder.bind_iff.trans (noLimit.bind_iff.trans ?_))
  refine ending.bind_iff.trans (yields_pure.trans ?_)
  rw [String.ofList_toList]
  rfl

/-- The text of the join has these tokens. -/
theorem scan_plainText (left right : PlainTable) :
    Token.scan (plainText left right).toList = plainTokens left right :=
  (congrArg Token.scan (toList_plainText left right)).trans (scanFrom_opening _)

/-- The join is read as a whole if none of its names is a number, and otherwise not. -/
theorem yields_plainText_iff (left right : PlainTable) {join : JoinQuery} {rest : List Token} :
    Yields (readJoin (plainText left right).toList)
        (Token.scan (plainText left right).toList) join rest ↔
      left.isReadable = true ∧ right.isReadable = true ∧ plainJoin left right = join ∧
        [] = rest := by
  have columns : written (plainText left right).toList [markAt 7 "*"] = "*".toList := by
    rw [toList_plainText]
    rfl
  have layout := Token.scan_layout (plainText left right).toList
  rw [scan_plainText] at layout ⊢
  exact yields_plainTokens_iff left right columns layout

/-- A join of two tables with plain names counts as cross-source. It is accepted, with exactly
    these tables, if and only if none of the names is a number. -/
theorem plainText_crosses_and_parses (left right : PlainTable) :
    Classification.ofText (plainText left right).toList = .cross ∧
      ∀ (strict : Bool) (query : JoinQuery),
        parse strict (plainText left right).toList = .ok query ↔
          (left.isReadable = true ∧ right.isReadable = true) ∧ query = plainJoin left right := by
  refine ⟨ofText_plainText left right, fun strict query => ?_⟩
  have noWhere : (plainJoin left right).splitOf = {} := splitOf_of_noWhere rfl
  have conditions : (plainJoin left right).withConditions = plainJoin left right := by
    rw [withConditions, noWhere]
    rfl
  rw [parse_eq_ok_iff_read, squeeze_plainText]
  constructor
  · rintro ⟨_, _, read, _, rfl⟩
    obtain ⟨readableLeft, readableRight, rfl, _⟩ := (yields_plainText_iff left right).mp read
    exact ⟨⟨readableLeft, readableRight⟩, conditions⟩
  · rintro ⟨⟨readableLeft, readableRight⟩, rfl⟩
    have read := (yields_plainText_iff left right).mpr ⟨readableLeft, readableRight, rfl, rfl⟩
    exact ⟨_, _, read, fun _ => by rw [noWhere], conditions.symm⟩

/-- A table with a schema of digits alone. -/
def numberedTable : PlainTable where
  schema := ⟨"1", by decide, List.all_eq_true.mp rfl⟩
  name := ⟨"t", by decide, List.all_eq_true.mp rfl⟩

/-- A table with names of letters. -/
def letteredTable : PlainTable where
  schema := ⟨"d", by decide, List.all_eq_true.mp rfl⟩
  name := ⟨"u", by decide, List.all_eq_true.mp rfl⟩

/-- A rejection can be computed. -/
theorem parse_eq_error_of_computed {strict : Bool} {sql : List Char} {rejection : Rejection}
    (read : readJoin (squeeze sql) (Token.scanWithin (squeeze sql).length 0 (squeeze sql)) =
      .error rejection) : parse strict sql = .error rejection := by
  rw [← Token.scan_eq_scanWithin] at read
  simp only [parse, read]
  rfl

/-- A schema of digits alone counts as a name when the query is routed, and is rejected when it is
    read. -/
theorem number_routed_and_rejected :
    Classification.ofText (plainText numberedTable letteredTable).toList = .cross ∧
      ∀ strict : Bool, parse strict (plainText numberedTable letteredTable).toList =
        .error (.outsideGrammar (.expected (.schemaName "warehouse") (some "1"))) := by
  refine ⟨by decide +kernel, fun strict => ?_⟩
  exact parse_eq_error_of_computed (by decide +kernel)

end SqlGateway.JoinQuery
