import SqlGateway.Fault

/-!
# Sorting

Items are put in order by comparisons that may fail. A list starts with a run of items
that are in order, or each of which is before the one in front of it, and every item
behind the run is put into its place by halving. Which items are compared matters, since
the first comparison that fails tells why the items have no order.
-/

namespace SqlGateway.Sorting

variable {α : Type} (isBefore : α → α → Outcome Bool)

/-- The items that go on with a run in order behind its last item, and those behind the
    run. -/
def rising (last : α) : List α → Outcome (List α × List α)
  | [] => .ok ([], [])
  | item :: rest => do
      if ← isBefore item last then return ([], item :: rest)
      let (run, rest) ← rising item rest
      return (item :: run, rest)

/-- The items that go on with a run in which each item is before the one in front of it.
    `run` holds it from its last item on, which puts it in order. -/
def falling (last : α) (run : List α) : List α → Outcome (List α × List α)
  | [] => .ok (run, [])
  | item :: rest => do
      if ← isBefore item last then falling item (item :: run) rest
      else return (run, item :: rest)

/-- The run at the start of a list, put in order, and the items behind it. -/
def run : List α → Outcome (List α × List α)
  | [] => .ok ([], [])
  | [item] => .ok ([item], [])
  | first :: second :: rest => do
      if ← isBefore second first then falling isBefore second [second, first] rest
      else
        let (run, rest) ← rising isBefore second rest
        return (first :: second :: run, rest)

/-- How many of some items in order an item stands behind, if they are at least `low` and
    at most `high`. Items that are not told apart keep their order. -/
def place (item : α) (items : List α) (low high : Nat) : Outcome Nat := do
  if low < high then
    let middle := (low + high) / 2
    match items[middle]? with
    | none => return low
    | some other =>
        if ← isBefore item other then place item items low middle
        else place item items (middle + 1) high
  else return low
termination_by high - low

/-- Items in order with one more of them in its place. -/
def insert (items : List α) (item : α) : Outcome (List α) := do
  let count ← place isBefore item items 0 items.length
  return items.take count ++ item :: items.drop count

/-- Items in order. -/
def sort (items : List α) : Outcome (List α) := do
  let (run, rest) ← run isBefore items
  rest.foldlM (insert isBefore) run

/-- A run in order is the start of the list. -/
theorem append_of_rising {last : α} {items run rest : List α}
    (found : rising isBefore last items = .ok (run, rest)) : run ++ rest = items := by
  induction items generalizing last run with
  | nil => simp_all [rising]
  | cons item items ih =>
    unfold rising at found
    cases before : isBefore item last with
    | error failure => simp [before, bind, Except.bind] at found
    | ok decided =>
      cases decided with
      | true => simp_all [bind, Except.bind, pure, Except.pure]
      | false =>
        cases next : rising isBefore item items with
        | error failure => simp [before, next, bind, Except.bind] at found
        | ok pair =>
          simp only [before, next, bind, Except.bind, pure, Except.pure, Bool.false_eq_true,
            if_false, Except.ok.injEq, Prod.mk.injEq] at found
          obtain ⟨rfl, rfl⟩ := found
          simp [ih next]

/-- A run that was turned round is the start of the list, from its end on. -/
theorem append_of_falling {last : α} {items known run rest : List α}
    (found : falling isBefore last known items = .ok (run, rest)) :
    run.reverse ++ rest = known.reverse ++ items := by
  induction items generalizing last known with
  | nil => simp_all [falling]
  | cons item items ih =>
    unfold falling at found
    cases before : isBefore item last with
    | error failure => simp [before, bind, Except.bind] at found
    | ok decided =>
      cases decided with
      | true =>
        have found : falling isBefore item (item :: known) items = .ok (run, rest) := by
          simpa [before, bind, Except.bind] using found
        rw [ih found, List.reverse_cons, List.append_assoc, List.singleton_append]
      | false => simp_all [bind, Except.bind, pure, Except.pure]

/-- A run and the items behind it are those of the list. -/
theorem perm_of_run {items first rest : List α} (found : run isBefore items = .ok (first, rest)) :
    (first ++ rest).Perm items := by
  match items with
  | [] | [_] => simp_all [run]
  | one :: two :: items =>
    unfold run at found
    cases before : isBefore two one with
    | error failure => simp [before, bind, Except.bind] at found
    | ok decided =>
      cases decided with
      | true =>
        have turned := append_of_falling isBefore
          (by simpa [before, bind, Except.bind] using found)
        exact ((List.reverse_perm first).symm.append_right rest).trans (by simp_all)
      | false =>
        cases next : rising isBefore two items with
        | error failure => simp [before, next, bind, Except.bind] at found
        | ok pair =>
          simp only [before, next, bind, Except.bind, pure, Except.pure, Bool.false_eq_true,
            if_false, Except.ok.injEq, Prod.mk.injEq] at found
          obtain ⟨rfl, rfl⟩ := found
          simp [append_of_rising isBefore next]

/-- Items in order are the given ones with the inserted one. -/
theorem perm_of_insert {items sorted : List α} {item : α}
    (inserted : insert isBefore items item = .ok sorted) : sorted.Perm (item :: items) := by
  unfold insert at inserted
  cases counted : place isBefore item items 0 items.length with
  | error failure => simp [counted, bind, Except.bind] at inserted
  | ok count =>
    simp only [counted, bind, Except.bind, pure, Except.pure, Except.ok.injEq] at inserted
    subst inserted
    have moved : (items.take count ++ item :: items.drop count).Perm
        (item :: (items.take count ++ items.drop count)) := List.perm_middle
    simpa using moved

/-- Sorting neither loses nor adds items. -/
theorem perm_of_sort {items sorted : List α} (result : sort isBefore items = .ok sorted) :
    sorted.Perm items := by
  unfold sort at result
  cases found : run isBefore items with
  | error failure => simp [found, bind, Except.bind] at result
  | ok pair =>
    have inserted : ∀ (rest known : List α),
        rest.foldlM (insert isBefore) known = .ok sorted → sorted.Perm (known ++ rest) := by
      intro rest
      induction rest with
      | nil => intro known result; simp_all [pure, Except.pure]
      | cons item rest ih =>
        intro known result
        cases next : insert isBefore known item with
        | error failure => simp [next, bind, Except.bind] at result
        | ok more =>
          have result : rest.foldlM (insert isBefore) more = .ok sorted := by
            simpa [next, bind, Except.bind] using result
          exact (ih more result).trans
            (((perm_of_insert isBefore next).append_right rest).trans List.perm_middle.symm)
    exact (inserted pair.2 pair.1 (by simpa [found, bind, Except.bind] using result)).trans
      (perm_of_run isBefore found)

end SqlGateway.Sorting
