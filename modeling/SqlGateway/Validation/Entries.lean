import SqlGateway.OrderedMap
import SqlGateway.Validation.Fields
import SqlGateway.Value.Text

/-!
# Checks of entries

A backend names columns and schemas by values of any kind. A map by such names is checked
entry by entry, and its names have to be texts.
-/

namespace SqlGateway.Validation

/-- How a name is shown in the place of an error. -/
def placeName : Value → String
  | .string text => text
  | .bool value => if value then "1" else "0"
  | name => name.nested

/-- The entry of a map, whose name has to be a text and whose value is checked under it. -/
def entry {α β : Type} (check : α → Checked β) (given : Value × α) : Checked (String × β) :=
  (Prod.mk <$> (text given.1).under "[key]" <*> check given.2).under (placeName given.1)

/-- The entries of a map. A repeated name keeps its place and takes the later value. -/
def entries {α β : Type} (check : α → Checked β) (given : List (Value × α)) :
    Checked (OrderedMap String β) :=
  OrderedMap.ofList <$> go given
where
  /-- The entries one after another. -/
  go : List (Value × α) → Checked (List (String × β))
    | [] => .valid []
    | first :: rest => List.cons <$> entry check first <*> go rest

/-- Entries with texts for names all pass if their values do. -/
theorem go_strings {α β : Type} (check : α → Checked β) (pass : α → β)
    (passes : ∀ value, check value = .valid (pass value)) (given : List (String × α)) :
    entries.go check (given.map fun pair => (.string pair.1, pair.2)) =
      .valid (given.map fun pair => (pair.1, pass pair.2)) := by
  induction given with
  | nil => rfl
  | cons pair rest ih =>
    simp only [List.map_cons, entries.go, ih, entry, text_string, passes]
    rfl

end SqlGateway.Validation
