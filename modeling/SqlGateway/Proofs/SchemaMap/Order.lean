import Mathlib.Data.List.Nodup
import Mathlib.Data.String.Basic
import SqlGateway.Proofs.Fault.Outcomes
import SqlGateway.SchemaMap

/-!
# Schema maps in order

Tables with texts for names are grouped by schema, whatever the order in which they are given.
The map that comes of them has its schemas in strict order and the tables of each in order, and
a table is in a schema as often as it is given with it. No other map has all of this, so the
map depends on the tables alone and not on their order.
-/

namespace SqlGateway

namespace Value

/-- Items with texts for keys are put in order by these. -/
theorem sortedOn_texts {α β : Type} {key : α → Value} {item : β → α} {text : β → String}
    (keyed : ∀ given, key (item given) = .string (text given)) (items : List β) :
    sortedOn key (items.map item) =
      .ok ((items.mergeSort fun first second => decide (text first ≤ text second)).map item) := by
  have areTexts : ((items.map item).all fun given => (key given).isText) = true := by
    simp [keyed, isText]
  have ordered : (items.mergeSort fun first second => decide (text first ≤ text second)).map item =
      (items.map item).mergeSort fun first second => notBehind (key first) (key second) :=
    List.map_mergeSort fun first _ second _ => by simp only [keyed, notBehind]
  rw [sortedOn, if_pos areTexts, ordered]

/-- Groups of entries by their names: every name has one, in which all its values are in
    their order. -/
structure Groups {α : Type} (entries : List (String × α)) (groups : List (String × List α)) :
    Prop where
  /-- No name has two groups. -/
  distinct : (groups.map Prod.fst).Nodup
  /-- A group has all the values of its name. -/
  whole : ∀ group ∈ groups,
    group.2 = (entries.filter fun entry => entry.1 = group.1).map Prod.snd
  /-- A name has a group exactly if an entry has it. -/
  names : ∀ name, name ∈ groups.map Prod.fst ↔ name ∈ entries.map Prod.fst

/-- The group of a first entry comes before the groups of the entries with other names. -/
theorem Groups.cons {α : Type} {name : String} {value : α} {rest : List (String × α)}
    {groups : List (String × List α)}
    (others : Groups (rest.filter fun entry => entry.1 ≠ name) groups) :
    Groups ((name, value) :: rest)
      ((name, value :: (rest.filter fun entry => entry.1 = name).map Prod.snd) :: groups) := by
  have different : ∀ other, other ∈ groups.map Prod.fst → other ≠ name := by
    intro other member
    obtain ⟨entry, isEntry, rfl⟩ := List.mem_map.mp ((others.names other).mp member)
    exact of_decide_eq_true (List.mem_filter.mp isEntry).2
  refine ⟨List.nodup_cons.mpr ⟨fun member => different name member rfl, others.distinct⟩, ?_, ?_⟩
  · refine List.forall_mem_cons.mpr ⟨by simp, fun group member => ?_⟩
    have other := different group.1 (List.mem_map_of_mem member)
    rw [others.whole group member, List.filter_filter,
      List.filter_cons_of_neg (by simp [other.symm])]
    congr 1
    apply List.filter_congr
    intro entry _
    by_cases same : entry.1 = group.1
    · simp [same, other]
    · simp [same]
  · intro wanted
    rw [List.map_cons, List.map_cons, List.mem_cons, List.mem_cons, others.names]
    by_cases same : wanted = name
    · simp [same]
    · simp only [same, false_or, List.mem_map, List.mem_filter]
      constructor
      · rintro ⟨entry, ⟨isEntry, _⟩, rfl⟩
        exact ⟨entry, isEntry, rfl⟩
      · rintro ⟨entry, isEntry, rfl⟩
        exact ⟨entry, ⟨isEntry, decide_eq_true same⟩, rfl⟩

/-- Entries with texts for names are grouped by them. The induction is on the number of
    entries, because the entries of the first name are taken out of the rest. -/
theorem exists_grouped {α β : Type} (value : α → β) (entries : List (String × α)) :
    ∃ groups, grouped (entries.map fun entry => (string entry.1, value entry.2)) =
        groups.map (fun group => (string group.1, group.2.map value)) ∧
      Groups entries groups := by
  induction count : entries.length using Nat.strong_induction_on generalizing entries with
  | _ size inductionHypothesis =>
    cases entries with
    | nil =>
      refine ⟨[], ?_, List.nodup_nil, by simp, by simp⟩
      rw [List.map_nil, grouped]
      rfl
    | cons entry rest =>
      obtain ⟨name, first⟩ := entry
      have shorter : (rest.filter fun entry => entry.1 ≠ name).length < size := by
        have atMost := List.length_filter_le (fun entry => decide (entry.1 ≠ name)) rest
        rw [← count, List.length_cons]
        omega
      obtain ⟨groups, others, grouping⟩ := inductionHypothesis _ shorter _ rfl
      refine ⟨_, ?_, grouping.cons⟩
      rw [List.map_cons, grouped, List.map_cons, ← others]
      simp [List.filter_map, Function.comp_def, same_string, string?, beq_eq_decide]

end Value

/-- A table is among those of its schema as often as it is given with it. -/
theorem count_under (tables : List (String × String)) (schema table : String) :
    ((tables.filter fun entry => entry.1 = schema).map Prod.snd).count table =
      tables.count (schema, table) := by
  induction tables with
  | nil => rfl
  | cons entry rest inductionHypothesis =>
    obtain ⟨first, second⟩ := entry
    by_cases same : first = schema
    · simp [same, List.count_cons, inductionHypothesis]
    · simp [same, inductionHypothesis]

namespace SchemaMap

/-- The tables of a schema, none if it is not in the map. -/
def tablesIn (map : SchemaMap) (schema : String) : List String :=
  (map.get? schema).getD []

/-- A map shows tables that are each given with a schema, all of them and in order. -/
structure Arranges (map : SchemaMap) (tables : List (String × String)) : Prop where
  /-- The schemas are in strict order. -/
  schemas : map.keys.Pairwise (· < ·)
  /-- The tables of each schema are in order. -/
  sorted : ∀ schema, (map.tablesIn schema).Pairwise (· ≤ ·)
  /-- Every schema has tables. -/
  nonempty : ∀ schema ∈ map.keys, map.tablesIn schema ≠ []
  /-- A table is in a schema as often as it is given with it. -/
  counts : ∀ schema table, (map.tablesIn schema).count table = tables.count (schema, table)

/-- The tables of an entry are those of its schema. -/
theorem tablesIn_of_mem {map : SchemaMap} {entry : String × List String}
    (member : entry ∈ map.toList) : map.tablesIn entry.1 = entry.2 := by
  rw [tablesIn, map.get?_of_mem member]
  rfl

/-- A schema that is not in the map has no tables. -/
theorem tablesIn_of_not_mem {map : SchemaMap} {schema : String} (absent : schema ∉ map.keys) :
    map.tablesIn schema = [] := by
  have unfound : map.get? schema = none := by
    rw [OrderedMap.get?, List.lookup_eq_none_iff]
    intro entry member
    exact bne_iff_ne.mpr fun same => absent (same ▸ List.mem_map_of_mem member)
  rw [tablesIn, unfound]
  rfl

/-- A map is made of its schemas and their tables. -/
theorem toList_eq (map : SchemaMap) :
    map.toList = map.keys.map fun schema => (schema, map.tablesIn schema) := by
  have pairs : map.toList.map (fun entry => (entry.1, map.tablesIn entry.1)) =
      map.toList.map id :=
    List.map_congr_left fun entry member => by rw [tablesIn_of_mem member, id]
  rw [OrderedMap.keys, List.map_map]
  exact (pairs.trans (List.map_id map.toList)).symm

/-- A schema is in the map exactly if a table is given with it. -/
theorem Arranges.mem_keys_iff {map : SchemaMap} {tables : List (String × String)}
    (arranges : map.Arranges tables) (schema : String) :
    schema ∈ map.keys ↔ ∃ table, (schema, table) ∈ tables := by
  constructor
  · intro member
    obtain ⟨table, inSchema⟩ := List.exists_mem_of_ne_nil _ (arranges.nonempty schema member)
    refine ⟨table, List.count_pos_iff.mp ?_⟩
    rw [← arranges.counts]
    exact List.count_pos_iff.mpr inSchema
  · rintro ⟨table, member⟩
    by_contra absent
    have counted := arranges.counts schema table
    rw [tablesIn_of_not_mem absent, List.count_nil] at counted
    exact absurd (List.count_pos_iff.mpr member) (by omega)

/-- Two maps that show the same tables are the same, in whatever order these are given. -/
theorem Arranges.eq_of_perm {map other : SchemaMap} {tables others : List (String × String)}
    (arranges : map.Arranges tables) (otherArranges : other.Arranges others)
    (reordered : others.Perm tables) : other = map := by
  have keys : other.keys = map.keys := by
    refine List.Perm.eq_of_pairwise ?_ otherArranges.schemas arranges.schemas ?_
    · exact fun _ _ _ _ less more => absurd (lt_trans less more) (lt_irrefl _)
    · refine (List.perm_ext_iff_of_nodup other.nodup map.nodup).mpr fun schema => ?_
      change schema ∈ other.keys ↔ schema ∈ map.keys
      simp only [arranges.mem_keys_iff, otherArranges.mem_keys_iff, reordered.mem_iff]
  have tablesIn : ∀ schema, other.tablesIn schema = map.tablesIn schema := by
    intro schema
    refine List.Perm.eq_of_pairwise (fun _ _ _ _ => le_antisymm) (otherArranges.sorted schema)
      (arranges.sorted schema) ?_
    rw [List.perm_iff_count]
    intro table
    rw [arranges.counts, otherArranges.counts, reordered.count_eq]
  have entries : other.toList = map.toList := by
    rw [toList_eq other, toList_eq map, keys]
    exact List.map_congr_left fun schema _ => by rw [tablesIn]
  rw [← other.ofList_toList, entries, map.ofList_toList]

end SchemaMap

/-- Items that were put in order by texts are in order. -/
theorem pairwise_orderedBy {α : Type} (text : α → String) (items : List α) :
    (items.mergeSort fun first second => decide (text first ≤ text second)).Pairwise
      fun first second => text first ≤ text second := by
  have transitive : ∀ first second third, decide (text first ≤ text second) = true →
      decide (text second ≤ text third) = true → decide (text first ≤ text third) = true := by
    intro first second third one other
    exact decide_eq_true ((of_decide_eq_true one).trans (of_decide_eq_true other))
  have total : ∀ first second,
      (decide (text first ≤ text second) || decide (text second ≤ text first)) = true := by
    intro first second
    simpa using le_total (text first) (text second)
  exact (List.pairwise_mergeSort transitive total items).imp of_decide_eq_true

/-- Groups of tables make a map that shows the tables, if the groups are put in order by their
    names and so is every group. -/
theorem Value.Groups.arranges {tables : List (String × String)}
    {groups : List (String × List String)} (grouped : Groups tables groups)
    {order : List String → List String} (perm : ∀ names, (order names).Perm names)
    (sorted : ∀ names, (order names).Pairwise (· ≤ ·)) {map : SchemaMap}
    (entries : map.toList.Perm (groups.map fun group => (group.1, order group.2)))
    (schemas : map.keys.Pairwise (· ≤ ·)) : map.Arranges tables := by
  have named : ∀ schema, schema ∈ map.keys ↔ schema ∈ tables.map Prod.fst := by
    intro schema
    rw [← grouped.names, OrderedMap.keys, (entries.map Prod.fst).mem_iff, List.map_map]
    rfl
  have tablesIn : ∀ schema ∈ map.keys,
      map.tablesIn schema = order ((tables.filter fun entry => entry.1 = schema).map Prod.snd) := by
    intro schema member
    obtain ⟨entry, isEntry, rfl⟩ := List.mem_map.mp member
    obtain ⟨group, isGroup, rfl⟩ := List.mem_map.mp (entries.mem_iff.mp isEntry)
    rw [SchemaMap.tablesIn_of_mem isEntry, grouped.whole group isGroup]
  constructor
  · exact (schemas.and map.nodup).imp fun both => lt_of_le_of_ne both.1 both.2
  · intro schema
    by_cases member : schema ∈ map.keys
    · rw [tablesIn schema member]
      exact sorted _
    · rw [SchemaMap.tablesIn_of_not_mem member]
      exact .nil
  · intro schema member none
    obtain ⟨entry, isEntry, rfl⟩ := List.mem_map.mp ((named schema).mp member)
    rw [tablesIn _ member] at none
    have table : entry.2 ∈ order ((tables.filter fun other => other.1 = entry.1).map Prod.snd) :=
      (perm _).mem_iff.mpr (List.mem_map_of_mem (List.mem_filter.mpr ⟨isEntry, by simp⟩))
    rw [none] at table
    cases table
  · intro schema table
    by_cases member : schema ∈ map.keys
    · rw [tablesIn schema member, (perm _).count_eq, count_under]
    · rw [SchemaMap.tablesIn_of_not_mem member, List.count_nil, eq_comm, List.count_eq_zero]
      exact fun given => member ((named schema).mpr (List.mem_map_of_mem given))

namespace SchemaListing

/-- A table that is given by texts. -/
def named (table : String × String) : Value × Value :=
  (.string table.1, .string table.2)

/-- Tables with texts for names make a map that shows them. -/
theorem exists_ofTables (tables : List (String × String)) :
    ∃ map : SchemaMap, ofTables (tables.map named) = .ok (.ofMap map) ∧ map.Arranges tables := by
  let order : List String → List String :=
    fun names => names.mergeSort fun first second => decide (first ≤ second)
  have orders : ∀ names : List String,
      Value.sorted (names.map .string) = .ok ((order names).map .string) :=
    Value.sortedOn_texts fun _ => rfl
  obtain ⟨groups, isGrouped, grouped⟩ := Value.exists_grouped Value.string tables
  change Value.grouped (tables.map named) = _ at isGrouped
  let schemas := groups.mergeSort fun first second => decide (first.1 ≤ second.1)
  have ordered : Value.sortedOn Prod.fst
      (groups.map fun group => (Value.string group.1, group.2.map Value.string)) =
        .ok (schemas.map fun group => (.string group.1, group.2.map .string)) := by
    have keyed : ∀ group : String × List String,
        (Value.string group.1, group.2.map Value.string).1 = .string group.1 := fun _ => rfl
    exact Value.sortedOn_texts keyed groups
  have rearranged : schemas.Perm groups := List.mergeSort_perm groups _
  let entries := schemas.map fun group => (group.1, order group.2)
  have keys : entries.map Prod.fst = schemas.map Prod.fst := by
    rw [List.map_map]
    rfl
  have distinct : (entries.map Prod.fst).Nodup := by
    rw [keys, (rearranged.map Prod.fst).nodup_iff]
    exact grouped.distinct
  refine ⟨⟨entries, distinct⟩, ?_, ?_⟩
  · have each : (schemas.map fun group => (Value.string group.1, group.2.map Value.string)).mapM
        (fun schema => do return (schema.1, ← Value.sorted schema.2)) =
          .ok (schemas.map fun group => (.string group.1, (order group.2).map .string)) := by
      rw [List.mapM_map]
      refine mapM_of_forall _ fun group _ => ?_
      rw [Function.comp_apply, orders]
      rfl
    rw [ofTables, isGrouped, ordered]
    refine each.trans ?_
    rw [ofMap, List.map_map]
    rfl
  · have perm : ∀ names, (order names).Perm names := fun names => List.mergeSort_perm names _
    refine grouped.arranges perm (pairwise_orderedBy id) (rearranged.map _) ?_
    change (entries.map Prod.fst).Pairwise (· ≤ ·)
    rw [keys, List.pairwise_map]
    exact pairwise_orderedBy Prod.fst groups

/-- The map of tables does not depend on their order. -/
theorem exists_ofTables_reordered (tables : List (String × String)) :
    ∃ map : SchemaMap, ofTables (tables.map named) = .ok (.ofMap map) ∧ map.Arranges tables ∧
      ∀ others : List (String × String), others.Perm tables →
        ofTables (others.map named) = .ok (.ofMap map) := by
  obtain ⟨map, made, arranges⟩ := exists_ofTables tables
  refine ⟨map, made, arranges, fun others reordered => ?_⟩
  obtain ⟨other, otherMade, otherArranges⟩ := exists_ofTables others
  rw [otherMade, arranges.eq_of_perm otherArranges reordered]

end SchemaListing

end SqlGateway
