import SqlGateway.Join
import Std.Data.HashMap.Lemmas

/-!
# The nested-loop join

A join is specified by a plain double loop over the rows of both sides: every left row
meets every right row of the same key, in left order and then in right order, and rows
without a partner are kept as the kind of join says. The specification knows no index,
no limit and no second pass over keys.

The indexed join computes the first rows of this list. Its places that check the limit
are covered by one invariant, by which the rows joined so far are always the first rows
of what the double loop has produced so far. Rows of a backend are opaque here: repeated
names and names that are no texts make no difference.
-/

namespace SqlGateway.Join

/-- Whether a left and a right row have the same key. -/
def agrees (leftKey rightKey : String) (left right : BackendRow) : Bool :=
  key (right.value rightKey) == key (left.value leftKey)

/-- The rows of both sides that meet at one left row: one pair for each right row of its
    key, or the absent row of the right side if there is none and left rows are kept. -/
def pairsOfLeft (type : JoinType) (agrees : BackendRow → BackendRow → Bool)
    (absent : BackendRow) (rights : List BackendRow) (left : BackendRow) :
    List (BackendRow × BackendRow) :=
  match rights.filter (agrees left) with
  | [] => if type.keepsLeft then [(left, absent)] else []
  | partners => partners.map (left, ·)

/-- The right rows that meet no left row, with the absent row of the left side, if right
    rows are kept. -/
def pairsOfRight (type : JoinType) (agrees : BackendRow → BackendRow → Bool)
    (absent : BackendRow) (lefts rights : List BackendRow) : List (BackendRow × BackendRow) :=
  if type.keepsRight then
    (rights.filter fun right => lefts.all fun left => !agrees left right).map (absent, ·)
  else []

/-- All rows of both sides that a join brings together, in order. -/
def pairs (join : Join) (leftKey rightKey : String) (left right : QueryResult) :
    List (BackendRow × BackendRow) :=
  let agrees := agrees leftKey rightKey
  left.rows.flatMap (pairsOfLeft join.joinType agrees (.ofNulls right.columns) right.rows)
    ++ pairsOfRight join.joinType agrees (.ofNulls left.columns) left.rows right.rows

/-- The joined rows without a limit, by a double loop. -/
def nestedLoop (join : Join) (leftKey rightKey : String) (left right : QueryResult) : List Row :=
  (join.pairs leftKey rightKey left right).map fun pair => join.merge pair.1 pair.2

/-- How the rows of both sides come together: they have the same key, or one of them is
    kept although no row of the other side has its key, and meets the absent row. -/
inductive Meets (join : Join) (leftKey rightKey : String) (left right : QueryResult) :
    BackendRow → BackendRow → Prop
  | partners {fromLeft fromRight : BackendRow} (inLeft : fromLeft ∈ left.rows)
      (inRight : fromRight ∈ right.rows)
      (agree : agrees leftKey rightKey fromLeft fromRight = true) :
      Meets join leftKey rightKey left right fromLeft fromRight
  | leftAlone {fromLeft : BackendRow} (kept : join.joinType.keepsLeft = true)
      (inLeft : fromLeft ∈ left.rows)
      (alone : ∀ other ∈ right.rows, agrees leftKey rightKey fromLeft other = false) :
      Meets join leftKey rightKey left right fromLeft (.ofNulls right.columns)
  | rightAlone {fromRight : BackendRow} (kept : join.joinType.keepsRight = true)
      (inRight : fromRight ∈ right.rows)
      (alone : ∀ other ∈ left.rows, agrees leftKey rightKey other fromRight = false) :
      Meets join leftKey rightKey left right (.ofNulls left.columns) fromRight

/-- The pairs at a left row are this row with each of its partners or, without partners,
    with the absent row if left rows are kept. -/
theorem mem_pairsOfLeft {type : JoinType} {agrees : BackendRow → BackendRow → Bool}
    {absent left : BackendRow} {rights : List BackendRow} {pair : BackendRow × BackendRow} :
    pair ∈ pairsOfLeft type agrees absent rights left ↔
      pair.1 = left ∧
        (pair.2 ∈ rights ∧ agrees left pair.2 = true ∨
          type.keepsLeft = true ∧ (∀ other ∈ rights, agrees left other = false) ∧
            pair.2 = absent) := by
  obtain ⟨fromLeft, fromRight⟩ := pair
  unfold pairsOfLeft
  cases found : rights.filter (agrees left) with
  | nil =>
    have alone : ∀ other ∈ rights, agrees left other = false := by
      simpa using found
    have noPartner : ¬(fromRight ∈ rights ∧ agrees left fromRight = true) := by
      rintro ⟨inRight, agree⟩
      rw [alone fromRight inRight] at agree
      cases agree
    cases type.keepsLeft with
    | false => simp [noPartner]
    | true => simpa [noPartner] using fun _ _ => alone
  | cons partner others =>
    have partnerFound : partner ∈ rights.filter (agrees left) := by simp [found]
    obtain ⟨inRight, agree⟩ := List.mem_filter.mp partnerFound
    have accompanied : ¬∀ other ∈ rights, agrees left other = false := by
      intro alone
      rw [alone partner inRight] at agree
      cases agree
    have members : fromRight ∈ partner :: others ↔
        fromRight ∈ rights ∧ agrees left fromRight = true := by
      rw [← found, List.mem_filter]
    simp only [List.mem_map, Prod.mk.injEq, accompanied, false_and, and_false, or_false, ← members]
    constructor
    · rintro ⟨other, member, rfl, rfl⟩
      exact ⟨rfl, member⟩
    · rintro ⟨rfl, member⟩
      exact ⟨fromRight, member, rfl, rfl⟩

/-- The pairs of the second pass are the right rows without a partner, each with the absent
    row, if right rows are kept. -/
theorem mem_pairsOfRight {type : JoinType} {agrees : BackendRow → BackendRow → Bool}
    {absent : BackendRow} {lefts rights : List BackendRow} {pair : BackendRow × BackendRow} :
    pair ∈ pairsOfRight type agrees absent lefts rights ↔
      type.keepsRight = true ∧ pair.1 = absent ∧ pair.2 ∈ rights ∧
        ∀ other ∈ lefts, agrees other pair.2 = false := by
  obtain ⟨fromLeft, fromRight⟩ := pair
  unfold pairsOfRight
  cases type.keepsRight with
  | false => simp
  | true =>
    simp only [if_true, List.mem_map, List.mem_filter, List.all_eq_true, Prod.mk.injEq,
      Bool.not_eq_true', true_and]
    constructor
    · rintro ⟨right, ⟨inRight, alone⟩, rfl, rfl⟩
      exact ⟨rfl, inRight, alone⟩
    · rintro ⟨rfl, inRight, alone⟩
      exact ⟨fromRight, ⟨inRight, alone⟩, rfl, rfl⟩

/-- The double loop brings together exactly the rows that meet. -/
theorem mem_pairs_iff {join : Join} {leftKey rightKey : String} {left right : QueryResult}
    {pair : BackendRow × BackendRow} :
    pair ∈ join.pairs leftKey rightKey left right ↔
      join.Meets leftKey rightKey left right pair.1 pair.2 := by
  obtain ⟨fromLeft, fromRight⟩ := pair
  rw [pairs, List.mem_append, List.mem_flatMap]
  constructor
  · rintro (⟨row, inLeft, met⟩ | met)
    · obtain ⟨same, ⟨inRight, agree⟩ | ⟨kept, alone, absent⟩⟩ := mem_pairsOfLeft.mp met
      · subst same
        exact .partners inLeft inRight agree
      · subst same absent
        exact .leftAlone kept inLeft alone
    · obtain ⟨kept, absent, inRight, alone⟩ := mem_pairsOfRight.mp met
      subst absent
      exact .rightAlone kept inRight alone
  · intro met
    cases met with
    | partners inLeft inRight agree =>
      exact Or.inl ⟨fromLeft, inLeft, mem_pairsOfLeft.mpr ⟨rfl, Or.inl ⟨inRight, agree⟩⟩⟩
    | leftAlone kept inLeft alone =>
      exact Or.inl ⟨fromLeft, inLeft, mem_pairsOfLeft.mpr ⟨rfl, Or.inr ⟨kept, alone, rfl⟩⟩⟩
    | rightAlone kept inRight alone =>
      exact Or.inr (mem_pairsOfRight.mpr ⟨kept, rfl, inRight, alone⟩)

/-- The first rows up to a limit, all of them without one. -/
def firstRows (limit : Option Nat) (rows : List Row) : List Row :=
  match limit with
  | none => rows
  | some count => rows.take count

/-- What a limit leaves is a prefix. -/
theorem firstRows_prefix (limit : Option Nat) (rows : List Row) :
    firstRows limit rows <+: rows := by
  cases limit with
  | none => exact List.prefix_refl rows
  | some count => exact List.take_prefix count rows

/-- The index holds under a key exactly the rows with this key, in their order and as
    often as they occur. -/
theorem rows_ofRows (column : String) (rows : List BackendRow) (wanted : String) :
    (Index.ofRows column rows).rows wanted =
      rows.filter fun row => key (row.value column) == wanted := by
  induction rows with
  | nil => simp [Index.ofRows, Index.rows]
  | cons row rest inductionHypothesis =>
    have step : (Index.ofRows column (row :: rest)).rows wanted =
        if key (row.value column) == wanted then row :: (Index.ofRows column rest).rows wanted
        else (Index.ofRows column rest).rows wanted := by
      simp only [Index.ofRows, Index.rows, List.foldr_cons, Std.HashMap.getD_insert]
      by_cases same : key (row.value column) = wanted <;> simp [same]
    rw [step, inductionHypothesis, List.filter_cons]

/-- No row stands in the index under a key exactly if every row has another key. -/
theorem isEmpty_rows_ofRows (column : String) (rows : List BackendRow) (wanted : String) :
    ((Index.ofRows column rows).rows wanted).isEmpty =
      rows.all fun row => !(wanted == key (row.value column)) := by
  rw [rows_ofRows]
  induction rows with
  | nil => rfl
  | cons row rest inductionHypothesis =>
    rw [List.filter_cons, List.all_cons, ← inductionHypothesis, Bool.beq_comm]
    cases wanted == key (row.value column) <;> simp

/-- The rows joined so far are the first ones of what the double loop has produced so
    far. This holds also when the limit was reached long ago. -/
def Tracks (join : Join) (joined : Array Row) (produced : List Row) : Prop :=
  joined.toList = firstRows join.limit produced

/-- Once the limit is reached, whatever the double loop goes on to produce is without
    effect. -/
theorem tracks_of_full {join : Join} {joined : Array Row} {produced : List Row}
    (tracked : join.Tracks joined produced) (full : join.isFull joined = true)
    (more : List Row) : join.Tracks joined (produced ++ more) := by
  cases limited : join.limit with
  | none => simp [isFull, limited] at full
  | some count =>
    have reached : count ≤ joined.size := by simpa [isFull, limited] using full
    have first : joined.toList = produced.take count := by
      simpa [Tracks, firstRows, limited] using tracked
    have enough : count ≤ produced.length := by
      have lengths := congrArg List.length first
      rw [Array.length_toList, List.length_take] at lengths
      omega
    simpa [Tracks, firstRows, limited, List.take_append_of_le_length enough] using first

/-- Adding a row follows the double loop by this row. -/
theorem tracks_add {join : Join} {joined : Array Row} {produced : List Row}
    (tracked : join.Tracks joined produced) (row : Row) :
    join.Tracks (join.add joined row) (produced ++ [row]) := by
  by_cases full : join.isFull joined = true
  · simpa only [add, full, if_true] using tracks_of_full tracked full [row]
  · simp only [add, full, if_false, Bool.false_eq_true]
    cases limited : join.limit with
    | none =>
      have whole : joined.toList = produced := by
        simpa [Tracks, firstRows, limited] using tracked
      simp [Tracks, firstRows, limited, whole]
    | some count =>
      have below : joined.size < count := by simpa [isFull, limited] using full
      have first : joined.toList = produced.take count := by
        simpa [Tracks, firstRows, limited] using tracked
      have few : produced.length < count := by
        have lengths := congrArg List.length first
        rw [Array.length_toList, List.length_take] at lengths
        omega
      have whole : joined.toList = produced := by
        rw [first, List.take_of_length_le (Nat.le_of_lt few)]
      have fits : (produced ++ [row]).length ≤ count := by
        rw [List.length_append, List.length_singleton]
        exact few
      simp [Tracks, firstRows, limited, whole, List.take_of_length_le fits]

/-- A loop follows the double loop if each of its rounds does. The induction is on the
    items that are left; what was produced grows by the rows of each item. -/
theorem tracks_foldl {α : Type} {join : Join} (step : Array Row → α → Array Row)
    (rowsOf : α → List Row)
    (round : ∀ joined produced item, join.Tracks joined produced →
      join.Tracks (step joined item) (produced ++ rowsOf item))
    (items : List α) (joined : Array Row) (produced : List Row)
    (tracked : join.Tracks joined produced) :
    join.Tracks (items.foldl step joined) (produced ++ items.flatMap rowsOf) := by
  induction items generalizing joined produced with
  | nil => simpa using tracked
  | cons item rest inductionHypothesis =>
    have next := inductionHypothesis (step joined item) (produced ++ rowsOf item)
      (round joined produced item tracked)
    simpa only [List.foldl_cons, List.flatMap_cons, List.append_assoc] using next

/-- The round of a left row: the index gives the partners of the double loop, so either
    all of them are added or the row is kept with nulls. The round is skipped when the
    limit is reached before it. -/
theorem tracks_addLeft {join : Join} (leftKey rightKey : String) (absent : BackendRow)
    (rights : List BackendRow) (joined : Array Row) (produced : List Row) (left : BackendRow)
    (tracked : join.Tracks joined produced) :
    join.Tracks (join.addLeft (Index.ofRows rightKey rights) leftKey absent joined left)
      (produced ++ (pairsOfLeft join.joinType (agrees leftKey rightKey) absent rights left).map
        fun pair => join.merge pair.1 pair.2) := by
  by_cases full : join.isFull joined = true
  · simpa only [addLeft, full, if_true] using tracks_of_full tracked full _
  · have found : (Index.ofRows rightKey rights).rows (key (left.value leftKey)) =
        rights.filter (agrees leftKey rightKey left) := rows_ofRows rightKey rights _
    simp only [addLeft, full, if_false, Bool.false_eq_true, found, pairsOfLeft]
    cases rights.filter (agrees leftKey rightKey left) with
    | nil =>
      cases join.joinType.keepsLeft with
      | true => exact tracks_add tracked (join.merge left absent)
      | false => simpa using tracked
    | cons partner others =>
      have added := tracks_foldl (fun joined right => join.add joined (join.merge left right))
        (fun right => [join.merge left right])
        (fun joined produced right tracked => tracks_add tracked (join.merge left right))
        (partner :: others) joined produced tracked
      rw [← List.map_eq_flatMap] at added
      rw [List.map_map]
      exact added

/-- The round of a right row adds it exactly if the double loop finds no left row of its
    key. -/
theorem tracks_addRight {join : Join} (leftKey rightKey : String) (absent : BackendRow)
    (lefts : List BackendRow) (joined : Array Row) (produced : List Row) (right : BackendRow)
    (tracked : join.Tracks joined produced) :
    join.Tracks (join.addRight (Index.ofRows leftKey lefts) rightKey absent joined right)
      (produced ++ if lefts.all fun left => !agrees leftKey rightKey left right then
        [join.merge absent right] else []) := by
  have alone : ((Index.ofRows leftKey lefts).rows (key (right.value rightKey))).isEmpty =
      lefts.all fun left => !agrees leftKey rightKey left right :=
    isEmpty_rows_ofRows leftKey lefts _
  rw [addRight, alone]
  cases lefts.all fun left => !agrees leftKey rightKey left right with
  | true => exact tracks_add tracked (join.merge absent right)
  | false => simpa using tracked

/-- Keeping some items and changing them is a loop that gives at most one result for
    each item. -/
theorem flatMap_if {α β : Type} (kept : α → Bool) (change : α → β) (items : List α) :
    (items.flatMap fun item => if kept item then [change item] else []) =
      (items.filter kept).map change := by
  induction items with
  | nil => rfl
  | cons item rest inductionHypothesis =>
    cases keep : kept item <;> simp [keep, inductionHypothesis]

/-- The indexed join computes the first rows of the double loop. Both passes follow it,
    and the second one starts from what the first one has left. -/
theorem rows_eq_firstRows (join : Join) (leftKey rightKey : String) (left right : QueryResult) :
    join.rows leftKey rightKey left right =
      firstRows join.limit (join.nestedLoop leftKey rightKey left right) := by
  have start : join.Tracks #[] [] := by
    cases limited : join.limit <;> simp [Tracks, firstRows, limited]
  have afterLeft := tracks_foldl _ _
    (tracks_addLeft leftKey rightKey (.ofNulls right.columns) right.rows) left.rows #[] [] start
  rw [List.nil_append, ← List.map_flatMap] at afterLeft
  simp only [rows, nestedLoop, pairs, pairsOfRight, List.map_append]
  cases join.joinType.keepsRight with
  | false =>
    simp only [Bool.false_eq_true, if_false, List.map_nil, List.append_nil]
    exact afterLeft
  | true =>
    have afterRight := tracks_foldl _ _
      (tracks_addRight leftKey rightKey (.ofNulls left.columns) left.rows) right.rows _ _ afterLeft
    rw [flatMap_if] at afterRight
    simp only [if_true, List.map_map]
    exact afterRight

/-- A join whose columns are known gives the first rows of the double loop. -/
theorem run_of_resolved (join : Join) {left right : QueryResult} {leftKey rightKey : String}
    (leftResolved :
      resolveColumn left.columns join.leftColumn (Backend.name .warehouse) = .ok leftKey)
    (rightResolved :
      resolveColumn right.columns join.rightColumn (Backend.name .transactional) = .ok rightKey) :
    join.run left right =
      .ok (firstRows join.limit (join.nestedLoop leftKey rightKey left right)) := by
  rw [run, leftResolved, rightResolved, ← rows_eq_firstRows]
  rfl

/-- A left side with a number, a missing value and a number without partners. -/
def customers : QueryResult where
  columns := [.string "id", .string "name"]
  rows := [
    [(.string "id", .int 1), (.string "name", .string "Ada")],
    [(.string "id", .null), (.string "name", .string "Grace")],
    [(.string "id", .int 3), (.string "name", .string "Linus")]]
  rowCount := .int 3
  sql := "SELECT * FROM public.customers"

/-- A right side with a repeated text key, an empty one and one without partners. -/
def orders : QueryResult where
  columns := [.string "order_id", .string "Customer"]
  rows := [
    [(.string "order_id", .int 10), (.string "Customer", .string "1")],
    [(.string "order_id", .int 11), (.string "Customer", .string "9")],
    [(.string "order_id", .int 12), (.string "Customer", .string "1")],
    [(.string "order_id", .int 13), (.string "Customer", .string "")]]
  rowCount := .int 4
  sql := "SELECT * FROM [dbo].[orders]"

end SqlGateway.Join
