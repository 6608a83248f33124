import KnxGateway.Bus.Memory

set_option autoImplicit false

/-! # Operations on a bus in memory

A bus in memory is used from two sides. Whoever sets it up chooses its mode and puts values into
its pool or takes them out; whoever uses it as a bus reads and writes. Each use is one operation
with one result, and a session with the bus is a list of them. -/

namespace KnxGateway

/-- One use of a bus in memory. -/
inductive BusOperation where
  | setMode (mode : BusMode)
  /-- Puts a value into the pool, whatever the mode is. -/
  | setValue (a : GroupAddress) (bytes : List UInt8)
  /-- Takes a value out of the pool. -/
  | removeValue (a : GroupAddress)
  | read (a : GroupAddress)
  | write (a : GroupAddress) (v : DatapointValue)

/-- What an operation says. -/
inductive BusResult where
  | done
  /-- The value that was taken out. -/
  | removed (previous : Option (List UInt8))
  /-- The answer to a request. -/
  | answered (answer : BusAnswer)

/-- Whether an operation is a request to the bus. -/
def BusOperation.isRequest : BusOperation → Bool
  | .read _ | .write _ _ => true
  | .setMode _ | .setValue _ _ | .removeValue _ => false

namespace MemoryBus

/-- Carries out an operation. -/
def perform (b : MemoryBus) : BusOperation → BusResult × MemoryBus
  | .setMode mode => (.done, ⟨mode, b.pool, b.requestCount⟩)
  | .setValue a bytes => (.done, ⟨b.mode, b.pool.set a bytes, b.requestCount⟩)
  | .removeValue a => (.removed (b.pool.remove a).1, ⟨b.mode, (b.pool.remove a).2, b.requestCount⟩)
  | .read a => (.answered (b.read a).1, (b.read a).2)
  | .write a v => (.answered (b.write a v).1, (b.write a v).2)

/-- Carries out operations one after another. The history has each of them with its result. -/
def performAll (b : MemoryBus) : List BusOperation → List (BusOperation × BusResult) × MemoryBus
  | [] => ([], b)
  | op :: operations =>
    let rest := (b.perform op).2.performAll operations
    ((op, (b.perform op).1) :: rest.1, rest.2)

end MemoryBus

end KnxGateway
