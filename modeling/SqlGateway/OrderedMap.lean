/-!
# Ordered maps

Maps that keep their keys in the order in which they were first inserted. A repeated
key keeps its place and takes the later value. Rows, schema maps and the objects of a
document are ordered maps.
-/

namespace SqlGateway

/-- The pairs with a key set to a value: in its old place if the key is there, and at
    the end otherwise. -/
def insertPair {κ α : Type} [DecidableEq κ] (key : κ) (value : α) : List (κ × α) → List (κ × α)
  | [] => [(key, value)]
  | pair :: rest =>
      if pair.1 = key then (key, value) :: rest else pair :: insertPair key value rest

/-- Setting a key keeps the keys, and adds it at the end if it is new. -/
theorem keys_insertPair {κ α : Type} [DecidableEq κ] (key : κ) (value : α)
    (pairs : List (κ × α)) :
    (insertPair key value pairs).map Prod.fst =
      if key ∈ pairs.map Prod.fst then pairs.map Prod.fst else pairs.map Prod.fst ++ [key] := by
  induction pairs with
  | nil => simp [insertPair]
  | cons pair rest ih =>
    by_cases same : pair.1 = key
    · simp [insertPair, same]
    · have other : ¬ key = pair.1 := fun equal => same equal.symm
      simp only [insertPair, same, if_false, List.map_cons, ih, List.mem_cons, other, false_or]
      split <;> simp

/-- A key that is not there yet comes at the end. -/
theorem insertPair_of_fresh {κ α : Type} [DecidableEq κ] (key : κ) (value : α)
    (pairs : List (κ × α)) (fresh : key ∉ pairs.map Prod.fst) :
    insertPair key value pairs = pairs ++ [(key, value)] := by
  induction pairs with
  | nil => rfl
  | cons pair rest ih =>
    simp only [List.map_cons, List.mem_cons, not_or] at fresh
    obtain ⟨other, fresh⟩ := fresh
    simp [insertPair, Ne.symm other, ih fresh]

/-- A map from keys to values in the order of first insertion. -/
structure OrderedMap (κ α : Type) where
  /-- The pairs in order. -/
  toList : List (κ × α)
  /-- No key occurs twice. -/
  nodup : (toList.map Prod.fst).Nodup
  deriving DecidableEq, Repr

namespace OrderedMap

variable {κ α β : Type}

/-- The map without pairs. -/
def empty : OrderedMap κ α := ⟨[], List.nodup_nil⟩

instance : Inhabited (OrderedMap κ α) := ⟨empty⟩
instance : EmptyCollection (OrderedMap κ α) := ⟨empty⟩

/-- The keys in order. -/
def keys (map : OrderedMap κ α) : List κ :=
  map.toList.map Prod.fst

/-- The values in order. -/
def values (map : OrderedMap κ α) : List α :=
  map.toList.map Prod.snd

/-- The number of keys. -/
def size (map : OrderedMap κ α) : Nat :=
  map.toList.length

/-- The same keys with changed values. -/
def mapValues (change : α → β) (map : OrderedMap κ α) : OrderedMap κ β :=
  ⟨map.toList.map fun pair => (pair.1, change pair.2), by
    rw [List.map_map]
    exact map.nodup⟩

variable [DecidableEq κ]

/-- The map with a key set to a value. -/
def insert (map : OrderedMap κ α) (key : κ) (value : α) : OrderedMap κ α :=
  ⟨insertPair key value map.toList, by
    rw [keys_insertPair]
    split
    · exact map.nodup
    · next absent =>
      rw [List.nodup_append]
      refine ⟨map.nodup, by simp, ?_⟩
      intro first member second single equal
      rw [List.mem_singleton] at single
      exact absent (single ▸ equal ▸ member)⟩

/-- The pairs inserted from left to right. -/
def ofList (pairs : List (κ × α)) : OrderedMap κ α :=
  pairs.foldl (fun map pair => map.insert pair.1 pair.2) empty

/-- The value of a key. -/
def get? (map : OrderedMap κ α) (key : κ) : Option α :=
  map.toList.lookup key

/-- The map with the pairs of another one inserted from left to right. -/
def append (map other : OrderedMap κ α) : OrderedMap κ α :=
  other.toList.foldl (fun merged pair => merged.insert pair.1 pair.2) map

instance : Append (OrderedMap κ α) := ⟨append⟩

/-- The keys after an insertion. -/
theorem keys_insert (map : OrderedMap κ α) (key : κ) (value : α) :
    (map.insert key value).keys = if key ∈ map.keys then map.keys else map.keys ++ [key] :=
  keys_insertPair key value map.toList

/-- A key has the value that it was last set to. -/
theorem get?_insert (map : OrderedMap κ α) (key : κ) (value : α) (wanted : κ) :
    (map.insert key value).get? wanted = if wanted = key then some value else map.get? wanted := by
  have walked : ∀ pairs : List (κ × α), (insertPair key value pairs).lookup wanted =
      if wanted = key then some value else pairs.lookup wanted := by
    intro pairs
    induction pairs with
    | nil =>
      by_cases same : wanted = key
      · simp [insertPair, same]
      · have other : (wanted == key) = false := beq_eq_false_iff_ne.mpr same
        simp only [insertPair, same, if_false, List.lookup_cons, other, List.lookup_nil]
    | cons pair rest inductionHypothesis =>
      obtain ⟨first, held⟩ := pair
      by_cases replaced : first = key
      · subst replaced
        by_cases same : wanted = first
        · simp [insertPair, same]
        · have other : (wanted == first) = false := beq_eq_false_iff_ne.mpr same
          simp only [insertPair, if_true, same, if_false, List.lookup_cons, other]
      · by_cases found : wanted = first
        · subst found
          simp [insertPair, replaced]
        · have other : (wanted == first) = false := beq_eq_false_iff_ne.mpr found
          simp only [insertPair, replaced, if_false, List.lookup_cons, other, inductionHypothesis]
  exact walked map.toList

/-- Inserting pairs whose keys are new and differ from one another appends them. -/
theorem toList_foldl_insert (pairs : List (κ × α)) (map : OrderedMap κ α)
    (distinct : (map.toList.map Prod.fst ++ pairs.map Prod.fst).Nodup) :
    (pairs.foldl (fun map pair => map.insert pair.1 pair.2) map).toList = map.toList ++ pairs := by
  induction pairs generalizing map with
  | nil => simp
  | cons pair rest ih =>
    have fresh : pair.1 ∉ map.toList.map Prod.fst := by
      intro member
      exact (List.nodup_append.mp distinct).2.2 pair.1 member pair.1 (by simp) rfl
    have inserted : (map.insert pair.1 pair.2).toList = map.toList ++ [pair] :=
      insertPair_of_fresh pair.1 pair.2 map.toList fresh
    rw [List.foldl_cons, ih (map.insert pair.1 pair.2) (by simpa [inserted] using distinct),
      inserted, List.append_assoc, List.singleton_append]

/-- Pairs without a repeated key stay as they are. -/
theorem toList_ofList (pairs : List (κ × α)) (distinct : (pairs.map Prod.fst).Nodup) :
    (ofList pairs).toList = pairs := by
  rw [ofList, toList_foldl_insert pairs empty (by simpa [empty] using distinct)]
  rfl

/-- A map is made of its pairs. -/
theorem ofList_toList (map : OrderedMap κ α) : ofList map.toList = map := by
  have same := toList_ofList map.toList map.nodup
  cases made : ofList map.toList
  cases map
  rw [made] at same
  subst same
  rfl

/-- The value of a pair is found under its key. -/
theorem get?_of_mem (map : OrderedMap κ α) {key : κ} {value : α}
    (member : (key, value) ∈ map.toList) : map.get? key = some value := by
  obtain ⟨before, after, split⟩ := List.append_of_mem member
  have distinct := map.nodup
  rw [get?, List.lookup_eq_some_iff]
  refine ⟨before, after, split, fun pair earlier => ?_⟩
  rw [split, List.map_append, List.map_cons, List.nodup_append] at distinct
  have different := distinct.2.2 pair.1 (List.mem_map_of_mem earlier) key List.mem_cons_self
  simpa using different.symm

end OrderedMap

end SqlGateway
