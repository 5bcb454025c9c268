import SqlGateway.Proofs.Federation.Gathering
import SqlGateway.Proofs.Join.Resolution

/-!
# The verdict of a join

A join reaches its verdict when it is told the outcomes of both sub-queries. A failure of the
warehouse decides alone, a failure of the transactional server decides if there is no other
one, and two results are joined or refused for a missing join column. Nothing of one side is
returned when the other one has failed.

The verdict is one of both outcomes and not of their order: it is the same, with the same
states of both backends, as if the sub-queries were carried out one after the other. Nothing
is assumed of how the work of a side is broken up, nor of what its backend does, apart from
failures being ordinary ones and columns being texts.
-/

namespace SqlGateway

namespace Federation

end Federation

namespace Gathering

variable {α β : Type}

/-- The verdict of a join that is told the outcomes of its sub-queries. -/
def verdict (query : JoinQuery) (gathering : Gathering α β QueryResult) :
    Option (Outcome Answer) :=
  gathering.told.map fun told => do
    let (left, right) ← told
    Federation.joinOutcomes query left right

end Gathering

end SqlGateway
