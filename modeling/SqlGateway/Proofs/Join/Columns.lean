import Mathlib.Data.List.Perm.Subperm
import SqlGateway.Proofs.Join.Exclusion
import SqlGateway.Proofs.JoinQuery.Routing

/-!
# The columns of a joined row

A joined row names every value by the alias of its table, an underscore and its column.
Aliases and columns may hold underscores themselves, so two columns can get one name
although the aliases of a query always differ. This happens exactly if one alias is the
other one with an underscore and more behind it, and a column of the other table begins
with what is more.

The value of the right side then stands for both, and the value of the left side is lost.
If no left column has the name of a right one, nothing is lost. Nothing is assumed of the
kind of join, of the limit, or of whether the keys of two rows agree.
-/

namespace SqlGateway

namespace OrderedMap

variable {κ α : Type} [DecidableEq κ]

/-- Only keys that are inserted are added. -/
theorem keys_foldl_insert_subset (pairs : List (κ × α)) (map : OrderedMap κ α) :
    (pairs.foldl (fun map pair => map.insert pair.1 pair.2) map).keys ⊆
      map.keys ++ pairs.map Prod.fst := by
  induction pairs generalizing map with
  | nil => simp
  | cons pair rest inductionHypothesis =>
    have inserted : (map.insert pair.1 pair.2).keys ⊆ map.keys ++ [pair.1] := by
      rw [keys_insert]
      split
      · exact List.subset_append_left _ _
      · exact List.Subset.refl _
    intro key member
    rcases List.mem_append.mp (inductionHypothesis _ member) with earlier | later
    · have known := inserted earlier
      grind
    · grind

/-- Pairs make a map of as many entries only if no key is repeated. -/
theorem nodup_of_size_ofList {pairs : List (κ × α)}
    (size : (ofList pairs).size = pairs.length) : (pairs.map Prod.fst).Nodup := by
  have keysNodup : (ofList pairs).keys.Nodup := (ofList pairs).nodup
  have inPairs : (ofList pairs).keys ⊆ pairs.map Prod.fst := by
    simpa [ofList, empty, keys] using keys_foldl_insert_subset pairs empty
  have lengths : (pairs.map Prod.fst).length ≤ (ofList pairs).keys.length := by
    simp only [keys, List.length_map]
    exact Nat.le_of_eq size.symm
  have rearranged := (keysNodup.subperm inPairs).perm_of_length_le lengths
  exact rearranged.nodup_iff.mp keysNodup

/-- Keys that are not inserted keep their values. -/
theorem get?_foldl_insert_of_fresh {wanted : κ} (pairs : List (κ × α)) (map : OrderedMap κ α)
    (fresh : wanted ∉ pairs.map Prod.fst) :
    (pairs.foldl (fun map pair => map.insert pair.1 pair.2) map).get? wanted = map.get? wanted := by
  induction pairs generalizing map with
  | nil => rfl
  | cons pair rest inductionHypothesis =>
    rw [List.map_cons, List.mem_cons, not_or] at fresh
    rw [List.foldl_cons, inductionHypothesis _ fresh.2, get?_insert, if_neg fresh.1]

/-- The last pairs of a map are found whatever stands before them, if their keys differ. -/
theorem get?_ofList_append {earlier later : List (κ × α)}
    (distinct : (later.map Prod.fst).Nodup) {key : κ} {value : α} (member : (key, value) ∈ later) :
    (ofList (earlier ++ later)).get? key = some value := by
  obtain ⟨before, after, rfl⟩ := List.append_of_mem member
  rw [List.map_append, List.map_cons, List.nodup_append, List.nodup_cons] at distinct
  have fresh : key ∉ after.map Prod.fst := distinct.2.1.1
  rw [ofList, ← List.append_assoc, List.foldl_append, List.foldl_cons,
    get?_foldl_insert_of_fresh after _ fresh, get?_insert, if_pos rfl]

end OrderedMap

/-- If the second text is the first one with more behind it, and both go on to be the same
    text with an underscore in different places, then an underscore and something stand
    behind the first text, and behind it the two second parts differ by that. -/
theorem underscore_of_append {one other first second : String} {between : List Char}
    (longer : other.toList = one.toList ++ between)
    (shared : '_' :: first.toList = between ++ '_' :: second.toList) :
    (one = other ∧ first = second) ∨
      ∃ more, other = one ++ "_" ++ more ∧ first = more ++ "_" ++ second := by
  cases between with
  | nil =>
    rw [List.append_nil] at longer
    rw [List.nil_append, List.cons.injEq] at shared
    exact Or.inl ⟨String.toList_injective longer.symm, String.toList_injective shared.2⟩
  | cons mark more =>
    rw [List.cons_append, List.cons.injEq] at shared
    obtain ⟨rfl, behind⟩ := shared
    refine Or.inr ⟨.ofList more, ?_, ?_⟩
    · apply String.toList_injective
      simpa using longer
    · apply String.toList_injective
      simpa using behind

/-- Two texts with an underscore between them make the same text as two others exactly if
    they are the same, or one of the first parts is the other one with an underscore and
    something behind it that stands at the beginning of the other second part. -/
theorem append_underscore_eq_iff {one other first second : String} :
    one ++ "_" ++ first = other ++ "_" ++ second ↔
      (one = other ∧ first = second) ∨
        (∃ more, other = one ++ "_" ++ more ∧ first = more ++ "_" ++ second) ∨
        ∃ more, one = other ++ "_" ++ more ∧ second = more ++ "_" ++ first := by
  constructor
  · intro same
    have lists : one.toList ++ '_' :: first.toList = other.toList ++ '_' :: second.toList := by
      simpa using congrArg String.toList same
    rcases List.append_eq_append_iff.mp lists with
      ⟨between, longer, shared⟩ | ⟨between, longer, shared⟩
    · exact (underscore_of_append longer shared).imp id Or.inl
    · exact (underscore_of_append longer shared).imp (fun equal => ⟨equal.1.symm, equal.2.symm⟩)
        Or.inr
  · rintro (⟨rfl, rfl⟩ | ⟨more, rfl, rfl⟩ | ⟨more, rfl, rfl⟩)
    · rfl
    · simp only [String.append_assoc]
    · simp only [String.append_assoc]

namespace Join

/-- A joined row keeps two rows: it has as many entries as both have values, and the name of
    every column leads to its value. -/
structure Keeps (join : Join) (left right : BackendRow) (row : Row) : Prop where
  /-- There is one entry for every column of both sides. -/
  size : row.size = left.length + right.length
  /-- The values of the left side are there. -/
  fromLeft : ∀ entry ∈ left, row.get? (columnName join.leftAlias entry.1) = some entry.2
  /-- The values of the right side are there. -/
  fromRight : ∀ entry ∈ right, row.get? (columnName join.rightAlias entry.1) = some entry.2

/-- The values of the right side are found in a merged row, whatever the left side is
    called. -/
theorem get?_merge_right (join : Join) (left : BackendRow) {right : BackendRow}
    (distinct : ((right.map Prod.fst).map Value.text).Nodup) {entry : Value × Value}
    (member : entry ∈ right) :
    (join.merge left right).get? (columnName join.rightAlias entry.1) = some entry.2 := by
  apply OrderedMap.get?_ofList_append
  · rw [names_named]
    exact columnName_nodup _ distinct
  · exact List.mem_map.mpr ⟨entry, member, rfl⟩

/-- A merged row keeps both sides exactly if no column of one side has the name of a column
    of the other one. -/
theorem keeps_merge_iff (join : Join) {left right : BackendRow}
    (leftDistinct : ((left.map Prod.fst).map Value.text).Nodup)
    (rightDistinct : ((right.map Prod.fst).map Value.text).Nodup) :
    join.Keeps left right (join.merge left right) ↔
      join.Apart (left.map Prod.fst) (right.map Prod.fst) := by
  constructor
  · intro keeps first inLeft second inRight
    have size : (join.merge left right).size =
        (named join.leftAlias left ++ named join.rightAlias right).length := by
      rw [keeps.size, List.length_append, named, named, List.length_map, List.length_map]
    have distinct := OrderedMap.nodup_of_size_ofList size
    rw [List.map_append, names_named, names_named, List.nodup_append] at distinct
    exact distinct.2.2 _ (List.mem_map_of_mem inLeft) _ (List.mem_map_of_mem inRight)
  · intro apart
    have merged := toList_merge join leftDistinct rightDistinct apart (List.Sublist.refl _)
      (List.Sublist.refl _)
    refine ⟨?_, ?_, fun entry member => get?_merge_right join left rightDistinct member⟩
    · rw [OrderedMap.size, merged, List.length_append, named, named, List.length_map,
        List.length_map]
    · intro entry member
      apply OrderedMap.get?_of_mem
      rw [merged]
      exact List.mem_append_left _ (List.mem_map.mpr ⟨entry, member, rfl⟩)

/-- Columns of both sides have one name exactly if one alias is the other one with an
    underscore and more behind it, and the column of the other side begins with what is
    more. -/
theorem not_apart_iff {join : Join} (different : join.leftAlias ≠ join.rightAlias)
    {left right : List Value} :
    ¬ join.Apart left right ↔ ∃ first ∈ left, ∃ second ∈ right,
      (∃ more, join.rightAlias = join.leftAlias ++ "_" ++ more ∧
        first.text = more ++ "_" ++ second.text) ∨
      ∃ more, join.leftAlias = join.rightAlias ++ "_" ++ more ∧
        second.text = more ++ "_" ++ first.text := by
  simp only [Apart, columnName, not_forall, not_not, append_underscore_eq_iff, different,
    false_and, false_or, exists_prop]

end Join

namespace JoinQuery

/-- The two tables of a join have different aliases. -/
theorem ReadAs.label_ne {text : List Char} {tokens : List Token} {bodies : Bodies}
    {query : JoinQuery} (readAs : ReadAs text tokens bodies query) :
    query.left.label ≠ query.right.label := by
  cases readAs with
  | mk _ _ _ _ _ _ _ apart =>
    intro same
    rw [same, sameName, beq_self_eq_true] at apart
    cases apart

/-- What becomes of the columns of an accepted join when two rows are merged, whether or not
    their keys agree. The values of the right side are always there. All values of both sides
    are there exactly if no column of one side has the name of a column of the other one. Two
    columns have one name exactly if one alias is the other one with an underscore and more
    behind it, and the column of the other side begins with what is more; so nothing is ever
    lost where neither alias goes on like that. -/
theorem keeps_iff_apart {strict : Bool} {sql : List Char} {query : JoinQuery}
    (accepted : parse strict sql = .ok query) {left right : QueryResult}
    (leftKeyed : left.Keyed) (rightKeyed : right.Keyed) {fromLeft fromRight : BackendRow}
    (inLeft : fromLeft ∈ left.rows) (inRight : fromRight ∈ right.rows) :
    (query.join.Keeps fromLeft fromRight (query.join.merge fromLeft fromRight) ↔
      query.join.Apart left.columns right.columns) ∧
    (∀ entry ∈ fromRight, (query.join.merge fromLeft fromRight).get?
      (Join.columnName query.right.label entry.1) = some entry.2) ∧
    (¬ query.join.Apart left.columns right.columns ↔
      ∃ first ∈ left.columns, ∃ second ∈ right.columns,
        (∃ more, query.right.label = query.left.label ++ "_" ++ more ∧
          first.text = more ++ "_" ++ second.text) ∨
        ∃ more, query.left.label = query.right.label ++ "_" ++ more ∧
          second.text = more ++ "_" ++ first.text) := by
  have leftColumns := leftKeyed.keyed fromLeft inLeft
  have rightColumns := rightKeyed.keyed fromRight inRight
  have leftDistinct := leftColumns ▸ leftKeyed.distinct
  have rightDistinct := rightColumns ▸ rightKeyed.distinct
  obtain ⟨⟨_, readAs⟩, _⟩ := parse_eq_ok_iff_readAs.mp accepted
  refine ⟨?_, ?_, Join.not_apart_iff readAs.label_ne⟩
  · rw [← leftColumns, ← rightColumns]
    exact query.join.keeps_merge_iff leftDistinct rightDistinct
  · intro entry member
    exact query.join.get?_merge_right fromLeft rightDistinct member

/-- A join whose second alias begins with the first one and an underscore. -/
def nestedAliasText : String :=
  "SELECT * FROM rs.p.t a JOIN ss.d.u a_b ON a.k = a_b.k"

/-- What it stands for. -/
def nestedAliasQuery : JoinQuery where
  left := { schema := "p", name := "t", label := "a" }
  right := { schema := "d", name := "u", label := "a_b" }
  leftColumn := "k"
  rightColumn := "k"

/-- A left side one of whose columns takes the name of a right column. -/
def nestedLeft : QueryResult where
  columns := [.string "k", .string "b_k"]
  rows := [[(.string "k", .int 1), (.string "b_k", .string "lost")]]
  rowCount := .int 1
  sql := "SELECT * FROM p.t"

/-- The right side. -/
def nestedRight : QueryResult where
  columns := [.string "k"]
  rows := [[(.string "k", .string "1")]]
  rowCount := .int 1
  sql := "SELECT * FROM [d].[u]"

/-- The text is accepted. -/
theorem parse_nestedAlias : parse true nestedAliasText.toList = .ok nestedAliasQuery :=
  @parse_of_computed _ _ _ [] (by decide +kernel) rfl rfl rfl

/-- Both sides have the columns that they name. -/
theorem nested_keyed : nestedLeft.Keyed ∧ nestedRight.Keyed :=
  ⟨⟨by decide, by simp [nestedLeft]⟩, ⟨by decide, by simp [nestedRight]⟩⟩

/-- What the statement says of a join where the alias of one table begins with that of the
    other one, and two columns do get one name. -/
theorem keeps_iff_apart_nested :
    parse true nestedAliasText.toList = .ok nestedAliasQuery ∧
      nestedLeft.Keyed ∧ nestedRight.Keyed ∧
      ∃ fromLeft ∈ nestedLeft.rows, ∃ fromRight ∈ nestedRight.rows,
        (nestedAliasQuery.join.Keeps fromLeft fromRight
            (nestedAliasQuery.join.merge fromLeft fromRight) ↔
          nestedAliasQuery.join.Apart nestedLeft.columns nestedRight.columns) ∧
        ¬ nestedAliasQuery.join.Apart nestedLeft.columns nestedRight.columns := by
  refine ⟨parse_nestedAlias, nested_keyed.1, nested_keyed.2, _, List.mem_singleton.mpr rfl, _,
    List.mem_singleton.mpr rfl, ?_⟩
  obtain ⟨kept, _, shared⟩ := keeps_iff_apart parse_nestedAlias nested_keyed.1 nested_keyed.2
    (List.mem_singleton.mpr rfl) (List.mem_singleton.mpr rfl)
  refine ⟨kept, shared.mpr ⟨.string "b_k", by simp [nestedLeft], .string "k",
    by simp [nestedRight], ?_⟩⟩
  exact Or.inl ⟨"b", by decide, by decide⟩

/-- A matched pair of rows whose merged row has one entry less than they have values: the
    value of the left side under the shared name is lost. -/
theorem merge_loses_column :
    parse true nestedAliasText.toList = .ok nestedAliasQuery ∧
      nestedLeft.Keyed ∧ nestedRight.Keyed ∧
      nestedAliasQuery.join.run nestedLeft nestedRight =
        .ok [.ofList [("a_k", .int 1), ("a_b_k", .string "1")]] ∧
      ∃ fromLeft ∈ nestedLeft.rows, ∃ fromRight ∈ nestedRight.rows,
        Join.agrees "k" "k" fromLeft fromRight = true ∧
        nestedAliasQuery.join.merge fromLeft fromRight =
          .ofList [("a_k", .int 1), ("a_b_k", .string "1")] ∧
        ¬ nestedAliasQuery.join.Keeps fromLeft fromRight
          (nestedAliasQuery.join.merge fromLeft fromRight) := by
  have leftResolved : Join.resolveColumn nestedLeft.columns "k" "redshift" = .ok "k" := rfl
  have rightResolved : Join.resolveColumn nestedRight.columns "k" "sqlserver" = .ok "k" := rfl
  have ran : nestedAliasQuery.join.run nestedLeft nestedRight = .ok _ :=
    Join.run_of_resolved nestedAliasQuery.join leftResolved rightResolved
  refine ⟨parse_nestedAlias, nested_keyed.1, nested_keyed.2, ran.trans rfl, _,
    List.mem_singleton.mpr rfl, _, List.mem_singleton.mpr rfl, by decide, rfl, ?_⟩
  intro keeps
  exact absurd keeps.size (by decide)

end JoinQuery

end SqlGateway
