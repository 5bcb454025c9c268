import SqlGateway.Proofs.Warehouse.Foreign

/-!
# Tables that have no order

Tables are listed in the order of their names. Names that are texts always have one; for
other names every comparison may fail. Such a failure is one of reading the names, and no
connector tells it any better: sorting raises nothing of its own.
-/

namespace SqlGateway

open Foreign

namespace Sorting

variable {α : Type} {isBefore : α → α → Outcome Bool}

/-- Only a comparison breaks off a run in order. -/
theorem foreign_rising (compares : ∀ first second, Foreign (isBefore first second)) (last : α)
    (items : List α) : Foreign (rising isBefore last items) := by
  induction items generalizing last with
  | nil => exact ok _
  | cons item rest inductionHypothesis =>
    apply bind (compares item last)
    intro before
    cases before with
    | true => exact ok _
    | false =>
      apply bind (inductionHypothesis item)
      exact fun found => ok _

/-- Only a comparison breaks off a run in which each item is before the one in front of it. -/
theorem foreign_falling (compares : ∀ first second, Foreign (isBefore first second)) (last : α)
    (known items : List α) : Foreign (falling isBefore last known items) := by
  induction items generalizing last known with
  | nil => exact ok _
  | cons item rest inductionHypothesis =>
    apply bind (compares item last)
    intro before
    cases before with
    | true => exact inductionHypothesis item (item :: known)
    | false => exact ok _

/-- Only a comparison breaks off the run at the start of a list. -/
theorem foreign_run (compares : ∀ first second, Foreign (isBefore first second))
    (items : List α) : Foreign (run isBefore items) := by
  match items with
  | [] => exact ok _
  | [item] => exact ok _
  | first :: second :: rest =>
    apply bind (compares second first)
    intro before
    cases before with
    | true => exact foreign_falling compares second _ rest
    | false =>
      apply bind (foreign_rising compares second rest)
      exact fun found => ok _

/-- Only a comparison breaks off the search for the place of an item. The induction is on the
    search, which halves what is left. -/
theorem foreign_place (compares : ∀ first second, Foreign (isBefore first second)) (item : α)
    (items : List α) (low high : Nat) : Foreign (place isBefore item items low high) := by
  fun_induction place isBefore item items low high with
  | case1 low high inside middle outside => exact ok low
  | case2 low high inside middle other found lower upper =>
    apply bind (compares item other)
    intro before
    cases before with
    | true => exact lower
    | false => exact upper
  | case3 low high done => exact ok low

/-- Only a comparison breaks off sorting. -/
theorem foreign_sort (compares : ∀ first second, Foreign (isBefore first second))
    (items : List α) : Foreign (sort isBefore items) := by
  have inserts : ∀ rest sorted : List α, Foreign (rest.foldlM (insert isBefore) sorted) := by
    intro rest
    induction rest with
    | nil => exact fun sorted => ok sorted
    | cons item rest inductionHypothesis =>
      intro sorted
      rw [List.foldlM_cons]
      refine bind ?_ inductionHypothesis
      apply bind (foreign_place compares item sorted 0 sorted.length)
      exact fun count => ok _
  apply bind (foreign_run compares items)
  exact fun found => inserts found.2 found.1

end Sorting

namespace Value

/-- Not every two values that are not both lists can be compared. -/
theorem foreign_isBeforeAlone (first second : Value) : Foreign (isBeforeAlone first second) := by
  have timed : ∀ name one other before, Foreign (inTime name one other before) :=
    fun name one other before => ite (ok before) (raise rfl)
  fun_cases isBeforeAlone first second
  all_goals first | exact ok _ | exact timed _ _ _ _ | exact raise rfl | exact ite (raise rfl) (ok _)

/-- Not every two values can be compared. The induction is on the comparison, which goes
    through lists element by element. -/
theorem foreign_isBefore (first second : Value) : Foreign (isBefore first second) := by
  refine isBefore.induct (fun some others => Foreign (isBefore.isBeforeElements some others))
    (fun first second => Foreign (isBefore first second)) ?_ ?_ ?_ ?_ ?_ ?_ ?_ first second
  · intro some others elements
    rw [isBefore]
    exact elements
  · intro first second notBoth
    rw [isBefore.eq_2 first second notBoth]
    exact foreign_isBeforeAlone first second
  · exact ok false
  · exact fun _ _ => ok false
  · exact fun _ _ => ok true
  · intro first rest second others same later
    rw [isBefore.isBeforeElements, if_pos same]
    exact later
  · intro first rest second others different decides
    rw [isBefore.isBeforeElements, if_neg different]
    exact decides

/-- Not every items can be put in the order of their keys. -/
theorem foreign_sortedOn {α : Type} (key : α → Value) (items : List α) :
    Foreign (sortedOn key items) :=
  ite (ok _) (Sorting.foreign_sort (fun _ _ => foreign_isBefore _ _) items)

end Value

/-- Not all tables can be listed in order. -/
theorem SchemaListing.foreign_ofTables (tables : List (Value × Value)) :
    Foreign (ofTables tables) := by
  apply bind (Value.foreign_sortedOn _ _)
  apply mapM
  intro schema
  apply bind (Value.foreign_sortedOn id schema.2)
  exact fun sorted => ok _

end SqlGateway
