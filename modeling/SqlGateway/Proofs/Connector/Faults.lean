import SqlGateway.Connector
import SqlGateway.Proofs.Warehouse.Foreign

/-!
# Faults that connectors pass on

A backend may fail with any ordinary fault, but not with one of the connectors' own. What a
connector cannot tell any better it passes on as a fault of its family, which says neither
that the backend is unavailable nor that it refuses the caller.
-/

namespace SqlGateway

/-- Backends that are unavailable and refusals belong to the connectors' family. -/
theorem Kind.connector_of_unavailable {kind : Kind}
    (member : kind.isA .backendUnavailable = true ∨ kind.isA .auth = true) :
    kind.isA .connector = true := by
  revert member
  cases kind <;> decide

namespace Fault

/-- Whether a fault may come from outside: it is an ordinary one, but none of the
    connectors'. -/
def isExternal (fault : Fault) : Bool :=
  fault.isA .ordinary && !fault.isA .connector

/-- Whether a fault is an ordinary one that is told in neither of two ways: as a backend that
    is unavailable, or as a refusal. -/
def isPlain (fault : Fault) : Bool :=
  fault.isA .ordinary && !fault.isA .backendUnavailable && !fault.isA .auth

/-- Faults of reading are plain. -/
theorem isPlain_of_reading {fault : Fault} (reading : fault.isOfReading = true) :
    fault.isPlain = true := by
  cases fault with
  | invalidValue | missingKey | wrongType | unsupported | overflow | undefined => rfl
  | _ => cases reading

/-- Faults from outside are plain. -/
theorem isPlain_of_external {fault : Fault} (external : fault.isExternal = true) :
    fault.isPlain = true := by
  cases fault with
  | auth | backendUnavailable => cases external
  | cancelled | unfinished => cases external
  | _ => rfl

end Fault

end SqlGateway
