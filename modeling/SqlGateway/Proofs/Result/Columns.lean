import Mathlib.Data.List.Forall2
import Mathlib.Data.List.Nodup
import Mathlib.Data.List.Perm.Subperm
import SqlGateway.Proofs.Fault.Outcomes
import SqlGateway.Result
import Std.Data.String.ToNat

/-!
# Distinct columns

A backend may name several columns alike. Their names are told apart by numbers, so that
no two columns of a result have the same name: a name that is in use gets a number with
which it is no name in use. Such a number is always found among one more numbers than
there are names in use, because different numbers make different names.

Names may be values of any kind that can be a name. A value that is not even the same as
itself is the same as no other one either.

Under distinct columns a record loses nothing. A result tabulates records if every row has
the columns in their order with the values of one record, and the rows are counted.
-/

namespace SqlGateway

namespace Value

/-- Two numbers are worth the same whichever comes first. -/
theorem equals_comm (first second : Number) : first.equals second = second.equals first := by
  cases first <;> cases second <;> simp only [Number.equals] <;> exact Bool.beq_comm

/-- Values that are not both lists or both maps are the same whichever comes first. -/
theorem sameAlone_comm (first second : Value) :
    first.sameAlone second = second.sameAlone first := by
  cases first <;> cases second <;>
    simp only [sameAlone, bytes?, number?, Calendar.DateTime.meets, Calendar.Time.meets,
      Bool.beq_comm, equals_comm]

/-- Whether a value may be a name. Its owner cannot change it. -/
def IsName (value : Value) : Prop :=
  value.asName = .ok value

/-- What is taken for a name is the value itself. -/
theorem eq_of_asName {value name : Value} (named : value.asName = .ok name) : name = value := by
  cases value with
  | byteBuffer | list | map => cases named
  | decimal text =>
    unfold asName at named
    dsimp only at named
    split at named
    · cases named
    · cases named
      rfl
  | null | bool | int | float | string | bytes | uuid | date | dateTime | time | foreign =>
    cases named
    rfl

/-- A name is the same as another value whichever comes first. -/
theorem IsName.same_comm {name : Value} (named : name.IsName) (other : Value) :
    name.same other = other.same name := by
  have alone : name.same other = name.sameAlone other := by
    cases name with
    | list | map => cases named
    | null | bool | int | float | string | bytes | byteBuffer | decimal | uuid | date | dateTime
    | time | foreign => rfl
  have aloneToo : other.same name = other.sameAlone name := by
    cases name with
    | list | map => cases named
    | null | bool | int | float | string | bytes | byteBuffer | decimal | uuid | date | dateTime
    | time | foreign => cases other <;> rfl
  rw [alone, aloneToo, sameAlone_comm]

/-- Values that are all taken for names are names. -/
theorem isName_of_mapM {values names : List Value} (named : values.mapM asName = .ok names) :
    names = values ∧ ∀ name ∈ values, name.IsName := by
  have each := forall₂_of_mapM named
  have equal : List.Forall₂ (· = ·) values names :=
    List.Forall₂.imp (fun _ _ isNamed => (eq_of_asName isNamed).symm) each
  rw [List.forall₂_eq_eq_eq] at equal
  subst equal
  refine ⟨rfl, fun name member => ?_⟩
  exact List.forall₂_same.mp each name member

end Value

namespace Column

/-- Different numbers make different names. -/
theorem suffixed_injective (name : Value) : Function.Injective (suffixed name) := by
  intro first second same
  have numbers : toString first = toString second := (String.append_right_inj _).mp same
  exact Nat.repr_inj.mp numbers

/-- One of the numbers that are tried behind a name makes it none of those in use. Otherwise
    all of them would make names in use, and these are more than there are. -/
theorem exists_freeNumber (used : Used) (name : Value) (last : Nat) :
    ∃ number, (List.range' (last + 1) (used.length + 1)).find?
      (fun number => !(taken used).contains (suffixed name number)) = some number := by
  rw [← Option.ne_none_iff_exists']
  intro found
  have allTaken : (List.range' (last + 1) (used.length + 1)).map (suffixed name) ⊆
      used.filterMap fun entry => entry.1.string? := by
    intro text member
    obtain ⟨number, tried, rfl⟩ := List.mem_map.mp member
    have inUse := List.find?_eq_none.mp found number tried
    rw [Bool.not_eq_true', Bool.not_eq_false, contains_taken, List.any_eq_true] at inUse
    obtain ⟨entry, isUsed, same⟩ := inUse
    rw [Value.same_string, beq_iff_eq] at same
    exact List.mem_filterMap.mpr ⟨entry, isUsed, same⟩
  have distinct : ((List.range' (last + 1) (used.length + 1)).map (suffixed name)).Nodup :=
    List.Nodup.map (suffixed_injective name) List.nodup_range'
  have fits := (distinct.subperm allTaken).length_le
  have few := List.length_filterMap_le (fun entry : Value × Nat => entry.1.string?) used
  rw [List.length_map, List.length_range'] at fits
  omega

/-- The number that is put behind a name makes it none of those in use. -/
theorem freeNumber_fresh (used : Used) (name : Value) (last : Nat) :
    ∀ entry ∈ used, entry.1.same (.string (suffixed name (freeNumber used name last))) = false := by
  obtain ⟨number, found⟩ := exists_freeNumber used name last
  have chosen : freeNumber used name last = number := by simp [freeNumber, found]
  have free : (taken used).contains (suffixed name number) = false := by
    simpa using List.find?_some found
  rw [contains_taken, List.any_eq_false] at free
  intro entry member
  rw [chosen]
  exact Bool.eq_false_iff.mpr (free entry member)

/-- It is behind the last number, and every number between them makes a name in use. -/
theorem freeNumber_least (used : Used) (name : Value) (last : Nat) :
    last < freeNumber used name last ∧
      ∀ smaller, last < smaller → smaller < freeNumber used name last →
        ∃ entry ∈ used, entry.1.same (.string (suffixed name smaller)) = true := by
  obtain ⟨number, found⟩ := exists_freeNumber used name last
  have chosen : freeNumber used name last = number := by simp [freeNumber, found]
  obtain ⟨_, tried, least⟩ := List.find?_range'_eq_some.mp found
  rw [chosen]
  refine ⟨(List.mem_range'_1.mp tried).1, fun smaller beyond before => ?_⟩
  have inUse := least smaller beyond before
  rwa [Bool.not_not, contains_taken, List.any_eq_true] at inUse

/-- Counting a name again does not change which names are in use. -/
theorem map_fst_setNumber (used : Used) (name : Value) (number : Nat) :
    (used.setNumber name number).map Prod.fst = used.map Prod.fst := by
  rw [Used.setNumber, List.map_map]
  refine List.map_congr_left fun entry _ => ?_
  simp only [Function.comp]
  split <;> rfl

/-- A name that has no number is none of those in use. -/
theorem fresh_of_number?_eq_none {used : Used} {name : Value}
    (unused : used.number? name = none) : ∀ other ∈ used.map Prod.fst, other.same name = false := by
  rw [Used.number?, Option.map_eq_none_iff, List.find?_eq_none] at unused
  intro other member
  obtain ⟨entry, isUsed, rfl⟩ := List.mem_map.mp member
  exact Bool.eq_false_iff.mpr (unused entry isUsed)

/-- The chosen names differ from the names in use and from one another. The induction is on
    the names that are left; each chosen name is in use for those behind it. -/
theorem distinctFrom_apart (used : Used) (names : List Value) :
    (∀ chosen ∈ distinctFrom used names, ∀ other ∈ used.map Prod.fst, other.same chosen = false) ∧
      (distinctFrom used names).Pairwise fun earlier later => earlier.same later = false := by
  induction names generalizing used with
  | nil => exact ⟨nofun, .nil⟩
  | cons name rest inductionHypothesis =>
    -- whichever name is chosen, it is fresh, and the names in use grow by it
    have step : ∀ (chosen : Value) (grown : Used),
        distinctFrom used (name :: rest) = chosen :: distinctFrom grown rest →
        grown.map Prod.fst = chosen :: used.map Prod.fst →
        (∀ other ∈ used.map Prod.fst, other.same chosen = false) →
        (∀ chosen ∈ distinctFrom used (name :: rest), ∀ other ∈ used.map Prod.fst,
            other.same chosen = false) ∧
          (distinctFrom used (name :: rest)).Pairwise
            fun earlier later => earlier.same later = false := by
      intro chosen grown made inUse fresh
      obtain ⟨apart, pairwise⟩ := inductionHypothesis grown
      rw [inUse] at apart
      rw [made]
      refine ⟨List.forall_mem_cons.mpr ⟨fresh, ?_⟩, List.pairwise_cons.mpr ⟨?_, pairwise⟩⟩
      · intro later member other isUsed
        exact apart later member other (List.mem_cons_of_mem _ isUsed)
      · intro later member
        exact apart later member chosen List.mem_cons_self
    cases found : used.number? name with
    | none =>
      exact step name ((name, 0) :: used) (by simp [distinctFrom, found]) rfl
        (fresh_of_number?_eq_none found)
    | some last =>
      let number := freeNumber used name last
      refine step (.string (suffixed name number))
        ((.string (suffixed name number), 0) :: used.setNumber name number)
        (by simp [distinctFrom, found, number]) ?_ ?_
      · rw [List.map_cons, map_fst_setNumber]
      · intro other member
        obtain ⟨entry, isUsed, rfl⟩ := List.mem_map.mp member
        exact freeNumber_fresh used name last entry isUsed

/-- Every chosen name is one of the given names or a text. -/
theorem mem_distinctFrom {used : Used} {names : List Value} {chosen : Value}
    (member : chosen ∈ distinctFrom used names) :
    chosen ∈ names ∨ ∃ text, chosen = .string text := by
  induction names generalizing used with
  | nil => cases member
  | cons name rest inductionHypothesis =>
    rw [distinctFrom] at member
    split at member
    · rcases List.mem_cons.mp member with here | later
      · exact Or.inl (here ▸ List.mem_cons_self)
      · exact (inductionHypothesis later).imp_left (List.mem_cons_of_mem _)
    · rcases List.mem_cons.mp member with here | later
      · exact Or.inr ⟨_, here⟩
      · exact (inductionHypothesis later).imp_left (List.mem_cons_of_mem _)

/-- Two columns differ, whichever comes first. -/
def Differ (one other : Value) : Prop :=
  one.same other = false ∧ other.same one = false

/-- The columns that a backend names by some values differ from one another, and are as
    many as there are names. -/
theorem pairwise_ofNames {names columns : List Value} (named : ofNames names = .ok columns) :
    columns.Pairwise Differ ∧ columns.length = names.length := by
  unfold ofNames at named
  cases found : names.mapM Value.asName with
  | error failure => rw [found] at named; cases named
  | ok given =>
    rw [found] at named
    cases named
    obtain ⟨rfl, areNames⟩ := Value.isName_of_mapM found
    refine ⟨?_, length_distinctFrom [] given⟩
    refine (distinctFrom_apart [] given).2.imp_of_mem fun {earlier later} first _ apart => ?_
    have isName : earlier.IsName := by
      rcases mem_distinctFrom first with isGiven | ⟨text, rfl⟩
      · exact areNames earlier isGiven
      · exact Value.asName_string text
    exact ⟨apart, isName.same_comm later ▸ apart⟩

end Column

/-- A result has the values of records in its rows, in the order of the records: its columns
    differ from one another, every row has exactly these columns in their order with the
    values of a record at the same places, and the rows are counted. -/
structure QueryResult.Tabulates (result : QueryResult) (records : List (List Value)) : Prop where
  /-- No two columns are the same. -/
  distinct : result.columns.Pairwise Column.Differ
  /-- Every row has the columns in their order. -/
  keys : ∀ row ∈ result.rows, row.map Prod.fst = result.columns
  /-- The rows have the values of the records. -/
  values : result.rows.map (List.map Prod.snd) = records
  /-- The rows are counted. -/
  counted : result.rowCount = .int result.rows.length

/-- A result without a table: there are no columns and no rows, and what is counted is not
    below zero. -/
structure QueryResult.Counts (result : QueryResult) : Prop where
  /-- There are no columns. -/
  columns : result.columns = []
  /-- There are no rows. -/
  rows : result.rows = []
  /-- The number of changed rows is not below zero. -/
  count : ∃ number, result.rowCount.number? = some number ∧ number.isLess (.whole 0) = false

/-- The columns of a row for a record of their width. -/
theorem BackendRow.keys_ofRecord {columns record : List Value}
    (wide : record.length = columns.length) :
    (BackendRow.ofRecord columns record).map Prod.fst = columns :=
  List.map_fst_zip (Nat.le_of_eq wide.symm)

/-- The values of a row for a record as wide as the columns. -/
theorem BackendRow.values_ofRecord {columns record : List Value}
    (wide : record.length = columns.length) :
    (BackendRow.ofRecord columns record).map Prod.snd = record :=
  List.map_snd_zip (Nat.le_of_eq wide)

/-- Records as wide as distinct columns are tabulated under them. -/
theorem QueryResult.tabulates_ofRecords {columns : List Value} {records : List (List Value)}
    (distinct : columns.Pairwise Column.Differ)
    (wide : ∀ record ∈ records, record.length = columns.length) (sql : String) :
    QueryResult.Tabulates
      { columns, rows := records.map (BackendRow.ofRecord columns)
        rowCount := .int (records.map (BackendRow.ofRecord columns)).length, sql } records where
  distinct := distinct
  keys row member := by
    obtain ⟨record, isRecord, rfl⟩ := List.mem_map.mp member
    exact BackendRow.keys_ofRecord (wide record isRecord)
  values := by
    rw [List.map_map]
    refine (List.map_congr_left fun record isRecord => ?_).trans (List.map_id records)
    exact BackendRow.values_ofRecord (wide record isRecord)
  counted := rfl

end SqlGateway
