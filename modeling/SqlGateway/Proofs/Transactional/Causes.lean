import SqlGateway.Proofs.Connector.Faults
import SqlGateway.Transactional.Client

/-!
# What a query of the transactional server fails of

A query fails because its transaction fails or does not begin, or because its result cannot be
read. The caller is told that the server is unavailable only in the first case: if no
connection of the pool was free in time, or if the driver has lost the connection. The caller
is never told to be refused.
-/

namespace SqlGateway

/-- Whether a fault tells that there is no connection to the server. -/
def Fault.isDisconnected : Fault → Bool
  | .poolTimeout _ => true
  | .engineDriver _ invalidated => invalidated
  | _ => false

namespace Transactional

/-- The fault of a transaction that has failed or did not begin. -/
def Reply.fault? : Reply → Option Fault
  | failed fault | refused fault => some fault
  | selected _ _ | changed _ => none

/-- Not every value counts rows. -/
theorem foreign_countOfRows (rowCount : Value) : Foreign (countOfRows rowCount) := by
  unfold countOfRows
  cases rowCount.number? with
  | none => exact .raise rfl
  | some number =>
    apply Foreign.bind
    · exact .ite (.raise rfl) (.ok _)
    · intro below
      cases below with
      | true => exact .ok _
      | false => exact .ok _

/-- Not every reply that has no fault can be read. -/
theorem foreign_result {reply : Reply} (unfailed : reply.fault? = none) (sql : String) :
    Foreign (reply.result sql) := by
  cases reply with
  | selected names records =>
    apply Foreign.bind
    · exact (Foreign.mapM Value.foreign_asName names).map Column.distinct
    · exact fun columns => .ok _
  | changed rowCount =>
    apply Foreign.bind (foreign_countOfRows rowCount)
    exact fun count => .ok _
  | failed => cases unfailed
  | refused => cases unfailed

/-- How a query of the transactional server comes out for its caller. -/
structure Told (reply : Reply) (outcome : Outcome QueryResult) : Prop where
  /-- A failure is told by a fault of the connectors' family. -/
  contained : ∀ failure, outcome = .error failure → failure.isA .connector = true
  /-- The server is told to be unavailable exactly if there was no connection to it. -/
  unavailable : (∃ failure, outcome = .error failure ∧ failure.isA .backendUnavailable = true) ↔
    ∃ fault, reply.fault? = some fault ∧ fault.isDisconnected = true
  /-- The caller is never told to be refused. -/
  admitted : ∀ failure, outcome = .error failure → failure.isA .auth = false

end Transactional

end SqlGateway
