import KnxGateway.Datapoint.Value
import KnxGateway.GroupAddress

set_option autoImplicit false

/-! # The bus as the gateway sees it

The gateway asks three things of a bus: to have an address read, to have a value written, and for
the last value known at an address. The first two are requests, which the bus acknowledges or not
and which can fail; the value of a read arrives in the pool of last values, not in the answer. -/

namespace KnxGateway

/-- Why a bus could not carry out a request. -/
inductive BusError where
  /-- The bus cannot be reached. -/
  | unavailable (reason : String)
  /-- The bus was reached and the request failed. -/
  | request (reason : String)
deriving DecidableEq

namespace BusError

def kind : BusError → String
  | unavailable _ => "Unavailable"
  | request _ => "Request"

def message : BusError → String
  | unavailable reason => "bus unavailable: " ++ reason
  | request reason => "bus request failed: " ++ reason

end BusError

/-- What a bus says to a request: whether it acknowledges it, or why it failed. -/
abbrev BusAnswer := Except BusError Bool

/-- Whether an answer acknowledges the request. -/
def BusAnswer.isAcknowledged : BusAnswer → Bool
  | .ok acknowledged => acknowledged
  | .error _ => false

/-- A bus with states in `β`. -/
class Bus (β : Type) where
  readRequest : β → GroupAddress → BusAnswer × β
  writeRequest : β → GroupAddress → DatapointValue → BusAnswer × β
  lastValue : β → GroupAddress → Option (List UInt8)

end KnxGateway
