import SealingProxy.Operation
/-! # Exchanges -/

namespace SealingProxy

/-- One call of a client: the request, the response once there is one, and the operation, which
the request half assigns and the response half goes by. -/
structure Exchange where
  request : Request
  response : Option Response := none
  operation : Option Operation := none
  deriving DecidableEq, Repr

end SealingProxy
