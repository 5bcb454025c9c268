import SqlGateway.Proofs.Join.Exclusion

/-!
# Join columns that a side lacks

A join column is found under its own name or, failing that, under the first name that
differs from it only in the case of its letters. A side without columns takes any name. So
a side lacks the column only if it has columns, none of which has this name up to case, and
then the join is refused with the name of this side. The left side is looked at first.

Columns are texts here, as results name them. How often a name occurs is immaterial, and
nothing is assumed of the rows.
-/

namespace SqlGateway

/-- The columns of a result have texts for names. -/
def QueryResult.IsTitled (result : QueryResult) : Prop :=
  ∀ column ∈ result.columns, column.isText = true

namespace Join

end Join

namespace Federation

variable {α β : Type}

end Federation

end SqlGateway
