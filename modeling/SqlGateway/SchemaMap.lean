import SqlGateway.Validation.Entries
import SqlGateway.Value.Name

/-!
# Schema maps

The tables that a backend shows, grouped by schema. Schemas and the tables of each are in
order, in whatever order the backend lists them. A backend may name its tables by values
of any kind; a schema map has texts for names.
-/

namespace SqlGateway

/-- Tables by schema. -/
abbrev SchemaMap := OrderedMap String (List String)

/-- What a schema map amounts to. -/
structure SchemaSummary where
  /-- Number of schemas. -/
  schemas : Nat
  /-- Number of tables in all schemas. -/
  tables : Nat
  deriving DecidableEq, Repr

namespace SchemaMap

/-- The number of tables in all schemas. -/
def tableCount (map : SchemaMap) : Nat :=
  map.values.foldr (fun tables count => tables.length + count) 0

/-- The numbers of schemas and tables. -/
def summary (map : SchemaMap) : SchemaSummary :=
  { schemas := map.size, tables := map.tableCount }

end SchemaMap

/-- Tables by schema, under the names that a backend gives them. -/
abbrev SchemaListing := List (Value × List Value)

namespace SchemaListing

/-- The listing of tables that are each given with its schema. A table that is listed
    twice occurs twice. -/
def ofTables (tables : List (Value × Value)) : Outcome SchemaListing := do
  let schemas ← Value.sortedOn Prod.fst (Value.grouped tables)
  schemas.mapM fun schema => do return (schema.1, ← Value.sorted schema.2)

/-- A schema map as a listing. -/
def ofMap (map : SchemaMap) : SchemaListing :=
  map.toList.map fun entry => (.string entry.1, entry.2.map .string)

/-- The schema map of a listing, in which every name has to be a text. -/
def checked (listing : SchemaListing) : Checked SchemaMap :=
  Validation.entries (Checked.all Validation.text) listing

/-- No table has an empty listing. -/
theorem ofTables_nil : ofTables [] = .ok [] := by
  simp [ofTables, Value.grouped, Value.sortedOn, bind, Except.bind, pure, Except.pure]

end SchemaListing

end SqlGateway
