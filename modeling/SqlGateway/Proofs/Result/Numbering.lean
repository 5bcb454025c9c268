import Mathlib.Order.Bounds.Basic
import SqlGateway.Proofs.Result.Columns

/-!
# Numbers behind repeated columns

Columns that are named by texts are renamed greedily. A name that is none of the columns so
far stays as it is, and any other one gets the least number that makes it none of them. The
numbers are counted on from the last one of a name, and none is passed over by that: whichever
number is not tried again makes a column that is there already. This is the invariant that
one choice after another keeps.

It is about texts alone. Values of other kinds may be the same although they are spelled in
different ways; such names share one count, and the number of the one is passed over for the
other, whatever the columns are.
-/

namespace SqlGateway

/-- Only the text itself is the same as a text. -/
theorem Value.same_string_iff (value : Value) (text : String) :
    value.same (.string text) = true ↔ value = .string text := by
  rw [same_string, beq_iff_eq]
  cases value with
  | string other => simp [string?]
  | _ => simp [string?]

namespace Column

/-- What a name becomes behind the columns so far. -/
inductive Chosen (earlier : List String) (name : String) : String → Prop
  /-- A name that is none of the columns so far stays as it is. -/
  | kept (fresh : name ∉ earlier) : Chosen earlier name name
  /-- Any other name gets the least number that makes it none of them. -/
  | numbered {number : Nat} (repeated : name ∈ earlier)
      (least : IsLeast {number | 1 ≤ number ∧ suffixed (.string name) number ∉ earlier} number) :
      Chosen earlier name (suffixed (.string name) number)

/-- A chosen column is a new one. -/
theorem Chosen.fresh {earlier : List String} {name column : String}
    (chosen : Chosen earlier name column) : column ∉ earlier := by
  cases chosen with
  | kept fresh => exact fresh
  | numbered _ least => exact least.1.2

/-- Columns for names, chosen one after another behind others. -/
structure ChosenBehind (earlier names columns : List String) : Prop where
  /-- There is one for each name. -/
  length : columns.length = names.length
  /-- Each one is chosen behind all that come before it. -/
  chosen : ∀ (position : Nat) (name column : String), names[position]? = some name →
    columns[position]? = some column → Chosen (earlier ++ columns.take position) name column

namespace ChosenBehind

variable {earlier names columns : List String} {name column : String}

/-- No column is chosen where there is no name. -/
theorem nil (earlier : List String) : ChosenBehind earlier [] [] :=
  ⟨rfl, nofun⟩

/-- A column is chosen, and the others behind it. -/
theorem cons (first : Chosen earlier name column)
    (others : ChosenBehind (earlier ++ [column]) names columns) :
    ChosenBehind earlier (name :: names) (column :: columns) where
  length := congrArg (· + 1) others.length
  chosen position other chosen isName isColumn := by
    cases position with
    | zero =>
      cases isName
      cases isColumn
      simpa using first
    | succ position =>
      have behind := others.chosen position other chosen isName isColumn
      simpa using behind

/-- The first column is chosen for the first name, and the others behind it. -/
theorem exists_cons (behind : ChosenBehind earlier names (column :: columns)) :
    ∃ name others, names = name :: others ∧ Chosen earlier name column ∧
      ChosenBehind (earlier ++ [column]) others columns := by
  obtain ⟨length, chosen⟩ := behind
  obtain ⟨name, others, rfl⟩ := List.exists_cons_of_length_eq_add_one length.symm
  have first := chosen 0 name column rfl rfl
  refine ⟨name, others, rfl, by simpa using first, Nat.succ.inj length, ?_⟩
  intro position other later isName isColumn
  simpa using chosen (position + 1) other later isName isColumn

/-- Columns that are chosen behind distinct ones are distinct, and differ from those. -/
theorem nodup (behind : ChosenBehind earlier names columns) (distinct : earlier.Nodup) :
    (earlier ++ columns).Nodup := by
  induction columns generalizing earlier names with
  | nil => simpa using distinct
  | cons column columns inductionHypothesis =>
    obtain ⟨name, others, rfl, chosen, rest⟩ := behind.exists_cons
    have grown : (earlier ++ [column]).Nodup :=
      List.nodup_append_comm.mp (List.nodup_cons.mpr ⟨chosen.fresh, distinct⟩)
    simpa using inductionHypothesis rest grown

/-- Names that are distinct, and differ from the columns before them, stay as they are. -/
theorem eq_of_nodup (behind : ChosenBehind earlier names columns)
    (distinct : (earlier ++ names).Nodup) : columns = names := by
  induction columns generalizing earlier names with
  | nil => exact (List.eq_nil_of_length_eq_zero behind.length.symm).symm
  | cons column columns inductionHypothesis =>
    obtain ⟨name, others, rfl, chosen, rest⟩ := behind.exists_cons
    cases chosen with
    | kept fresh => rw [inductionHypothesis rest (by simpa using distinct)]
    | numbered repeated least =>
      exact absurd (List.mem_cons_self) ((List.nodup_append.mp distinct).2.2 _ repeated _ · rfl)

end ChosenBehind

/-- The names in use are the columns so far, the last one first, and no number up to the last
    one of a name makes it a new column. -/
structure Counted (used : Used) (earlier : List String) : Prop where
  /-- The columns so far are in use. -/
  names : used.map Prod.fst = earlier.reverse.map Value.string
  /-- Every number up to the last one makes a column that is there. -/
  taken : ∀ entry ∈ used, ∀ number, 1 ≤ number → number ≤ entry.2 →
    suffixed entry.1 number ∈ earlier

namespace Counted

variable {used : Used} {earlier : List String} {name : String}

/-- What is in use are the columns so far. -/
theorem exists_entry_iff (counted : Counted used earlier) (text : String) :
    (∃ entry ∈ used, entry.1 = .string text) ↔ text ∈ earlier := by
  have inUse : Value.string text ∈ used.map Prod.fst ↔ text ∈ earlier := by
    simp [counted.names]
  rw [← inUse, List.mem_map]

/-- Only a column so far has a number. -/
theorem number?_eq_none_iff (counted : Counted used earlier) (name : String) :
    used.number? (.string name) = none ↔ name ∉ earlier := by
  rw [Used.number?, Option.map_eq_none_iff, List.find?_eq_none, ← counted.exists_entry_iff]
  simp only [Value.same_string_iff, not_exists, not_and]

/-- A column is in use with its number. -/
theorem mem_of_number?_eq_some {last : Nat} (found : used.number? (.string name) = some last) :
    (.string name, last) ∈ used := by
  obtain ⟨⟨key, number⟩, first, rfl⟩ := Option.map_eq_some_iff.mp found
  have same := List.find?_some first
  obtain rfl := (Value.same_string_iff key name).mp same
  exact List.mem_of_find?_eq_some first

/-- A new column is in use without a number behind it. -/
theorem cons (counted : Counted used earlier) (column : String) :
    Counted ((.string column, 0) :: used) (earlier ++ [column]) where
  names := by simp [counted.names]
  taken entry member number positive upTo := by
    rcases List.mem_cons.mp member with rfl | isUsed
    · omega
    · exact List.mem_append_left _ (counted.taken entry isUsed number positive upTo)

/-- The number that is chosen for a repeated name is the least one that makes a new column. Up
    to the last number this is the invariant, and behind it every smaller one was tried. -/
theorem isLeast_freeNumber (counted : Counted used earlier) {last : Nat}
    (found : used.number? (.string name) = some last) :
    IsLeast {number | 1 ≤ number ∧ suffixed (.string name) number ∉ earlier}
      (freeNumber used (.string name) last) := by
  obtain ⟨beyond, tried⟩ := freeNumber_least used (.string name) last
  constructor
  · refine ⟨by omega, ?_⟩
    rw [← counted.exists_entry_iff]
    rintro ⟨entry, isUsed, same⟩
    have differs := freeNumber_fresh used (.string name) last entry isUsed
    rw [(Value.same_string_iff _ _).mpr same] at differs
    cases differs
  · rintro smaller ⟨positive, free⟩
    by_contra less
    by_cases counts : smaller ≤ last
    · exact free (counted.taken _ (mem_of_number?_eq_some found) smaller positive counts)
    · obtain ⟨entry, isUsed, same⟩ := tried smaller (by omega) (by omega)
      refine free ((counted.exists_entry_iff _).mp ⟨entry, isUsed, ?_⟩)
      exact (Value.same_string_iff _ _).mp same

/-- A repeated name may be counted up to its chosen number, whose column is new. -/
theorem numbered (counted : Counted used earlier) {last : Nat}
    (found : used.number? (.string name) = some last) :
    let number := freeNumber used (.string name) last
    let column := suffixed (.string name) number
    Counted ((.string column, 0) :: used.setNumber (.string name) number) (earlier ++ [column]) := by
  intro number column
  obtain ⟨_, least⟩ := counted.isLeast_freeNumber found
  constructor
  case names => simp [map_fst_setNumber, counted.names]
  case taken =>
    refine List.forall_mem_cons.mpr ⟨fun smaller positive upTo => by omega, ?_⟩
    intro entry member smaller positive upTo
    obtain ⟨old, isUsed, rfl⟩ := List.mem_map.mp member
    split at upTo
    · next same =>
      -- smaller numbers are taken because the chosen one is the least free one
      have isName : old.1 = .string name := (Value.same_string_iff _ _).mp same
      rw [if_pos same]
      dsimp only at upTo ⊢
      rw [isName]
      rcases Nat.lt_or_eq_of_le upTo with before | rfl
      · refine List.mem_append_left _ ?_
        by_contra free
        exact absurd (least ⟨positive, free⟩) (by omega)
      · exact List.mem_append_right _ List.mem_cons_self
    · next differs =>
      rw [if_neg differs]
      exact List.mem_append_left _ (counted.taken old isUsed smaller positive upTo)

/-- One name becomes what is to be chosen for it, and the names in use stay counted. -/
theorem step (counted : Counted used earlier) (name : String) (rest : List Value) :
    ∃ column grown, distinctFrom used (.string name :: rest) =
        .string column :: distinctFrom grown rest ∧
      Chosen earlier name column ∧ Counted grown (earlier ++ [column]) := by
  cases found : used.number? (.string name) with
  | none =>
    have fresh := (counted.number?_eq_none_iff name).mp found
    exact ⟨name, (.string name, 0) :: used, by simp [distinctFrom, found], .kept fresh,
      counted.cons name⟩
  | some last =>
    have repeated : name ∈ earlier := by
      by_contra fresh
      rw [(counted.number?_eq_none_iff name).mpr fresh] at found
      cases found
    exact ⟨_, _, by simp [distinctFrom, found],
      .numbered repeated (counted.isLeast_freeNumber found), counted.numbered found⟩

/-- All names become what is to be chosen for them one after another. The induction is on the
    names that are left; each column is one of the columns so far for those behind it. -/
theorem exists_columns (counted : Counted used earlier) (names : List String) :
    ∃ columns, distinctFrom used (names.map Value.string) = columns.map Value.string ∧
      ChosenBehind earlier names columns := by
  induction names generalizing used earlier with
  | nil => exact ⟨[], rfl, .nil earlier⟩
  | cons name names inductionHypothesis =>
    obtain ⟨column, grown, made, chosen, recounted⟩ :=
      counted.step name (names.map Value.string)
    obtain ⟨columns, others, behind⟩ := inductionHypothesis recounted
    refine ⟨column :: columns, ?_, .cons chosen behind⟩
    rw [List.map_cons, made, others, List.map_cons]

end Counted

/-- Columns that are named by texts are renamed greedily: there is one for each name, no two of
    them are the same, and each is its name or, if this is an earlier column, the name with the
    least number that makes it none of the earlier columns. Names stay as they are exactly if
    they are distinct, and renaming the columns again changes nothing. -/
theorem distinct_greedy (names : List String) :
    ∃ columns : List String, distinct (names.map Value.string) = columns.map Value.string ∧
      columns.Nodup ∧ ChosenBehind [] names columns ∧ (columns = names ↔ names.Nodup) ∧
      distinct (columns.map Value.string) = columns.map Value.string := by
  have unused : Counted [] [] := ⟨rfl, nofun⟩
  obtain ⟨columns, made, behind⟩ := unused.exists_columns names
  obtain ⟨again, remade, behindAgain⟩ := unused.exists_columns columns
  have apart : columns.Nodup := behind.nodup .nil
  have unchanged : again = columns := behindAgain.eq_of_nodup apart
  refine ⟨columns, made, apart, behind, ⟨?_, behind.eq_of_nodup⟩, ?_⟩
  · rintro rfl
    exact apart
  · rw [distinct, remade, unchanged]

end Column

end SqlGateway
