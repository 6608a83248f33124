import KnxGateway.Connection.Outcome

set_option autoImplicit false

/-! # The packet queue

Packets wait for the dispatcher in one bounded queue. A packet is what one read from a connection
yielded, together with the connection it came from. Packets leave the queue in the order in which
they entered it; when the queue is full, those who publish wait. The queue ends when everybody who
could publish is gone and all packets have left. -/

namespace KnxGateway

/-- The bytes of one read, and where they came from. -/
structure Packet where
  connection : ConnectionId
  bytes : List UInt8
deriving DecidableEq

/-- A bounded queue of packets. -/
structure PacketQueue where
  /-- The greatest number of packets that wait. -/
  capacity : Nat
  /-- The packets that wait, the next to leave first. -/
  waiting : List Packet
  /-- Whether everybody who could publish is gone. -/
  closed : Bool

namespace PacketQueue

/-- The greatest capacity that a queue can be given, one less than 2 to the power of 61. -/
def maxCapacity : Nat := 2305843009213693951

/-- The empty queue for a wanted capacity, of which 0 counts as 1. There is no queue with more
    than the greatest capacity: asking for one ends the program. -/
def ofCapacity? (wanted : Nat) : Option PacketQueue :=
  if max wanted 1 ≤ maxCapacity then some ⟨max wanted 1, [], false⟩ else none

/-- Whether a packet can be published now. -/
def hasRoom (q : PacketQueue) : Bool :=
  q.waiting.length < q.capacity

/-- The queue with a packet at its end, if there is room. -/
def publish? (q : PacketQueue) (p : Packet) : Option PacketQueue :=
  if q.hasRoom then some { q with waiting := q.waiting ++ [p] } else none

/-- The packet that leaves next, and the queue without it. -/
def take? (q : PacketQueue) : Option (Packet × PacketQueue) :=
  match q.waiting with
  | [] => none
  | p :: rest => some (p, { q with waiting := rest })

/-- The queue after everybody who could publish is gone. -/
def close (q : PacketQueue) : PacketQueue :=
  { q with closed := true }

/-- A new queue is empty and has room for a packet at least. -/
theorem eq_of_ofCapacity? {wanted : Nat} {q : PacketQueue} (h : ofCapacity? wanted = some q) :
    q = ⟨max wanted 1, [], false⟩ := by
  rw [ofCapacity?, Option.ite_none_right_eq_some, Option.some.injEq] at h
  exact h.2.symm

theorem take?_eq_some_iff {q q' : PacketQueue} {p : Packet} :
    q.take? = some (p, q') ↔
      q.waiting = p :: q'.waiting ∧ q'.capacity = q.capacity ∧ q'.closed = q.closed := by
  obtain ⟨capacity, waiting, closed⟩ := q
  obtain ⟨capacity', waiting', closed'⟩ := q'
  cases waiting with
  | nil => simp [take?]
  | cons first rest =>
    simp only [take?, Option.some.injEq, Prod.mk.injEq, PacketQueue.mk.injEq, List.cons.injEq]
    constructor
    · rintro ⟨rfl, rfl, rfl, rfl⟩
      exact ⟨⟨rfl, rfl⟩, rfl, rfl⟩
    · rintro ⟨⟨rfl, rfl⟩, rfl, rfl⟩
      exact ⟨rfl, rfl, rfl, rfl⟩

theorem publish?_eq_some_iff {q q' : PacketQueue} {p : Packet} :
    q.publish? p = some q' ↔ q.hasRoom = true ∧ q' = { q with waiting := q.waiting ++ [p] } := by
  rw [publish?, Option.ite_none_right_eq_some, Option.some.injEq, @eq_comm _ q']

/-- Publishing respects the capacity. -/
theorem length_le_of_publish? {q q' : PacketQueue} {p : Packet} (h : q.publish? p = some q') :
    q'.waiting.length ≤ q'.capacity := by
  simp only [publish?, hasRoom, decide_eq_true_eq, Option.ite_none_right_eq_some,
    Option.some.injEq] at h
  obtain ⟨hroom, rfl⟩ := h
  simp only [List.length_append, List.length_singleton]
  exact hroom

end PacketQueue

end KnxGateway
