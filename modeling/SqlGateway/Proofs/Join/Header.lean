import Mathlib.Data.List.Induction
import SqlGateway.Proofs.Join.Columns
import SqlGateway.Proofs.Join.Resolution

/-!
# The header of a joined answer

An answer takes its columns from its first row. They describe all of its rows, although rows
come about in three ways: from two rows that meet, from a left row beside nulls and from
nulls beside a right row. The keys of a merged row depend on the columns of its two parts
alone, and a row of nulls has the columns that a row of its side would have.

Names may collide; a name then stands once, at its first place. Nothing is assumed of the
kind of join, of the limit or of the values in the rows.
-/

namespace SqlGateway

namespace OrderedMap

variable {κ α : Type} [DecidableEq κ]

/-- The keys of a map are those of its pairs, each one at its first place. -/
theorem keys_ofList (pairs : List (κ × α)) :
    (ofList pairs).keys = (pairs.map Prod.fst).eraseDups := by
  induction pairs using List.reverseRecOn with
  | nil => rfl
  | append_singleton earlier pair inductionHypothesis =>
    have inserted : ofList (earlier ++ [pair]) = (ofList earlier).insert pair.1 pair.2 := by
      rw [ofList, List.foldl_append]
      rfl
    rw [inserted, keys_insert, inductionHypothesis, List.map_append, List.eraseDups_append]
    by_cases known : pair.1 ∈ earlier.map Prod.fst
    · simp [List.removeAll, known]
    · simp [List.removeAll, known, List.eraseDups_cons]

end OrderedMap

/-- A result as a connector declares it: its columns are texts, no two of them equal, and
    every row has exactly these columns in their order. -/
structure QueryResult.IsTable (result : QueryResult) : Prop extends result.Keyed where
  /-- The columns are texts. -/
  titled : result.IsTitled

/-- A row of nulls has all columns if these are different texts. -/
theorem QueryResult.IsTable.keys_ofNulls {result : QueryResult} (isTable : result.IsTable) :
    (BackendRow.ofNulls result.columns).map Prod.fst = result.columns := by
  have asTexts : result.columns = (result.columns.map Value.text).map Value.string := by
    rw [List.map_map]
    symm
    refine (List.map_congr_left fun column member => ?_).trans (List.map_id _)
    have isText := isTable.titled column member
    cases column with
    | string text => rfl
    | null | bool | int | float | bytes | byteBuffer | decimal | uuid | date | dateTime | time
    | list | map | foreign => cases isText
  have kept : Value.withoutRepeated result.columns = result.columns := by
    rw [asTexts]
    exact Value.withoutRepeated_strings _ isTable.distinct
  simp [BackendRow.ofNulls, kept, Function.comp_def]

namespace Join

/-- The columns of a joined row: those of the left side and then those of the right one, with
    the names of the sides before them, each name at its first place. -/
def header (join : Join) (left right : List Value) : List String :=
  (left.map (columnName join.leftAlias) ++ right.map (columnName join.rightAlias)).eraseDups

/-- The keys of a merged row are told by the columns of its parts. -/
theorem keys_merge (join : Join) (left right : BackendRow) :
    (join.merge left right).keys = join.header (left.map Prod.fst) (right.map Prod.fst) := by
  rw [merge, OrderedMap.keys_ofList, List.map_append, names_named, names_named, header]

/-- Whichever way two parts meet, they have the columns of their sides. -/
theorem Meets.keys {join : Join} {leftKey rightKey : String} {left right : QueryResult}
    (leftTable : left.IsTable) (rightTable : right.IsTable) {fromLeft fromRight : BackendRow}
    (met : join.Meets leftKey rightKey left right fromLeft fromRight) :
    (join.merge fromLeft fromRight).keys = join.header left.columns right.columns := by
  rw [keys_merge]
  cases met with
  | partners inLeft inRight _ =>
    rw [leftTable.keyed _ inLeft, rightTable.keyed _ inRight]
  | leftAlone _ inLeft _ =>
    rw [leftTable.keyed _ inLeft, rightTable.keys_ofNulls]
  | rightAlone _ inRight _ =>
    rw [leftTable.keys_ofNulls, rightTable.keyed _ inRight]

end Join

namespace Federation

variable {α β : Type}

end Federation

end SqlGateway
