import KnxGateway.Bus.Basic
import KnxGateway.Bus.StatusPool

set_option autoImplicit false

/-! # A bus in memory

This bus has no wires: a write that it acknowledges goes straight into its pool. Its mode decides
what it acknowledges, so that every answer of a real bus can be had. It counts its requests,
whatever comes of them.

A bus with a fault in front of it fails every request before it reaches the bus in memory. -/

namespace KnxGateway

/-- What a bus in memory acknowledges. -/
inductive BusMode where
  /-- Reads of addresses that have a value, and all writes. -/
  | acknowledgeKnown
  /-- All reads and writes. -/
  | acknowledgeAll
  | rejectAll
  /-- Nothing: every request fails. -/
  | offline
deriving DecidableEq

namespace BusMode

def all : List BusMode :=
  [acknowledgeKnown, acknowledgeAll, rejectAll, offline]

def name : BusMode → String
  | acknowledgeKnown => "AcknowledgeKnown"
  | acknowledgeAll => "AcknowledgeAll"
  | rejectAll => "RejectAll"
  | offline => "Offline"

def ofName? (name : String) : Option BusMode :=
  all.find? fun mode => mode.name = name

end BusMode

/-- A bus in memory. -/
structure MemoryBus where
  /-- What the bus acknowledges. -/
  mode : BusMode
  pool : StatusPool
  /-- The number of requests so far, without a bound. On the machine the count has 64 bits and
      starts again from zero behind the greatest of them. -/
  requestCount : Nat

namespace MemoryBus

/-- The bus without values, which acknowledges what it knows. -/
def initial : MemoryBus :=
  ⟨.acknowledgeKnown, .empty, 0⟩

/-- The answer of an offline bus. -/
def offlineError : BusError :=
  .unavailable "in-memory bus is offline"

/-- What the bus says to a read of an address. -/
def readAnswer (b : MemoryBus) (a : GroupAddress) : BusAnswer :=
  match b.mode with
  | .acknowledgeKnown => .ok (b.pool.contains a)
  | .acknowledgeAll => .ok true
  | .rejectAll => .ok false
  | .offline => .error offlineError

/-- What the bus says to a write. -/
def writeAnswer (b : MemoryBus) : BusAnswer :=
  match b.mode with
  | .acknowledgeKnown | .acknowledgeAll => .ok true
  | .rejectAll => .ok false
  | .offline => .error offlineError

def read (b : MemoryBus) (a : GroupAddress) : BusAnswer × MemoryBus :=
  (b.readAnswer a, ⟨b.mode, b.pool, b.requestCount + 1⟩)

/-- Writes a value, which goes into the pool when the bus acknowledges it. -/
def write (b : MemoryBus) (a : GroupAddress) (v : DatapointValue) : BusAnswer × MemoryBus :=
  (b.writeAnswer,
    ⟨b.mode, if b.writeAnswer.isAcknowledged then b.pool.set a v.bytes else b.pool,
      b.requestCount + 1⟩)

/-! ## Answers -/

variable {b b' : MemoryBus} {a : GroupAddress}

theorem writeAnswer_congr (h : b'.mode = b.mode) : b'.writeAnswer = b.writeAnswer := by
  unfold writeAnswer
  rw [h]

theorem readAnswer_congr (h : b'.mode = b.mode)
    (hvalue : b'.pool.lastValue a = b.pool.lastValue a) : b'.readAnswer a = b.readAnswer a := by
  unfold readAnswer
  rw [h, StatusPool.contains_eq, hvalue, ← StatusPool.contains_eq]

/-- A write is acknowledged by its mode alone. -/
theorem writeAnswer_eq_iff (b : MemoryBus) :
    b.writeAnswer = .ok true ↔ b.mode = .acknowledgeKnown ∨ b.mode = .acknowledgeAll := by
  unfold writeAnswer
  cases b.mode <;> simp

/-- A read is acknowledged by the mode and by what is known. -/
theorem readAnswer_eq_iff (b : MemoryBus) (a : GroupAddress) :
    b.readAnswer a = .ok true ↔
      b.mode = .acknowledgeAll ∨
        (b.mode = .acknowledgeKnown ∧ ∃ bytes, b.pool.lastValue a = some bytes) := by
  unfold readAnswer
  cases b.mode <;> simp [StatusPool.contains_eq, Option.isSome_iff_exists]

instance : Bus MemoryBus where
  readRequest := read
  writeRequest := write
  lastValue b a := b.pool.lastValue a

end MemoryBus

/-! ## Faults -/

/-- A bus in memory behind a line that may be faulty. -/
structure FaultyBus where
  bus : MemoryBus
  /-- What is wrong with the line, if anything. -/
  fault : Option String

namespace FaultyBus

def initial : FaultyBus :=
  ⟨.initial, none⟩

def read (b : FaultyBus) (a : GroupAddress) : BusAnswer × FaultyBus :=
  match b.fault with
  | some reason => (.error (.request reason), b)
  | none => ((b.bus.read a).1, ⟨(b.bus.read a).2, b.fault⟩)

def write (b : FaultyBus) (a : GroupAddress) (v : DatapointValue) : BusAnswer × FaultyBus :=
  match b.fault with
  | some reason => (.error (.request reason), b)
  | none => ((b.bus.write a v).1, ⟨(b.bus.write a v).2, b.fault⟩)

instance : Bus FaultyBus where
  readRequest := read
  writeRequest := write
  lastValue b a := b.bus.pool.lastValue a

end FaultyBus

end KnxGateway
