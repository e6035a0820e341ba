import Criteria.Proofs.Service.Batch
import Criteria.Service.Http

/-!
# The transports agree

A message may be posted or be part of a batch.  A body that is posted is read as
a whole, a batch message by message; both accept a body as one message exactly
if it is a message with blanks around it.  The response is then the line that a
batch of the same bytes writes, without its line feed.
-/

namespace Criteria

namespace Service

variable {service : Service} {request : Request} {bytes : List UInt8}
  {message : Message}

/-! ## One message in a batch -/

end Service

end Criteria
