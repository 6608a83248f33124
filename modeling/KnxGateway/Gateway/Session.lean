import KnxGateway.Gateway.State

set_option autoImplicit false

/-! # Sessions

A session is the plain way in which a gateway and a few clients get along: clients come one at a
time, each message is read, dispatched and answered before the next, and the gateway is shut down
in the end. A session is a schedule like any other, with names for the clients. The gateway reads a
message in pieces that fit into its buffer, and each piece is a packet. -/

namespace KnxGateway

/-! ## Pieces -/

/-- The bytes of a message in pieces of the given size, of which the last may be shorter. -/
def pieces (size : Nat) (bytes : List UInt8) : List (List UInt8) :=
  if _ : 0 < size ∧ bytes ≠ [] then
    bytes.take size :: pieces size (bytes.drop size)
  else
    []
termination_by bytes.length
decreasing_by
  have := List.length_pos_iff.mpr (And.right ‹_›)
  simp only [List.length_drop]
  omega

/-! ## Sessions -/

/-- A gateway with a name for each of its clients. -/
structure Session (β : Type) where
  gateway : Gateway β
  /-- The connections of the clients. -/
  clients : Table String ConnectionId

/-- What becomes of a message. -/
structure MessageOutcome where
  received : List UInt8
  isClosed : Bool
  /-- The counters that grow, and by how much. -/
  counted : List (Counter × Nat)

namespace Session

variable {β : Type}

def start (gateway : Gateway β) : Session β :=
  ⟨gateway, .empty⟩

/-- Whether the gateway has closed a connection. -/
def isClosed (s : Session β) (c : ConnectionId) : Bool :=
  !Outlets.isOpen s.gateway.links c

variable [Bus β]

def run (s : Session β) (schedule : List GatewayMove) : Session β :=
  { s with gateway := (s.gateway.run schedule).2 }

def connect (s : Session β) (name : String) (peer : SocketAddress) : Session β :=
  let c := s.gateway.links.toList.length
  { s.run [.connect (some peer)] with clients := s.clients.insert name c }

def disconnect (s : Session β) (name : String) (c : ConnectionId) : Session β :=
  { s.run [.readEnd c, .leave c, .leave c] with clients := s.clients.erase name }

/-- The bytes that requests on a connection wrote to it, in order. -/
def written (g : Gateway β) (c : ConnectionId) (events : List DispatchEvent) : List UInt8 :=
  events.flatMap fun event =>
    match event with
    | .worked job (.handedOver frame .sent) =>
      if (g.dispatcher.jobs[job]?).any fun j => j.connection = c then frame else []
    | _ => []

/-- Lets the gateway read a packet from a client, and carry out what it asks for. -/
def servePacket (s : Session β) (c : ConnectionId) (bytes : List UInt8) :
    List UInt8 × Session β :=
  let jobsBefore := s.gateway.dispatcher.jobs.length
  let s := s.run [.read c bytes, .publish c, .poll]
  let fresh := (List.range s.gateway.dispatcher.jobs.length).drop jobsBefore
  let (events, dispatcher) := s.gateway.dispatcher.finishAll fresh
  (written s.gateway c events, { s with gateway := { s.gateway with dispatcher } })

/-- Lets the gateway read several packets from a client, one after the other. -/
def servePackets (s : Session β) (c : ConnectionId) : List (List UInt8) → List UInt8 × Session β
  | [] => ([], s)
  | bytes :: rest =>
    let (received, s) := s.servePacket c bytes
    let (later, s) := s.servePackets c rest
    (received ++ later, s)

/-- Lets a client send a message. -/
def send (s : Session β) (c : ConnectionId) (bytes : List UInt8) : MessageOutcome × Session β :=
  let (received, after) := s.servePackets c (pieces s.gateway.config.readBufferSize bytes)
  (⟨received, after.isClosed c, after.gateway.metrics.since s.gateway.metrics⟩, after)

/-- Shuts the gateway down, and waits until all its activities have ended. -/
def shutdown (s : Session β) : Session β :=
  let closings := List.replicate (s.gateway.openConnections + 1) GatewayMove.closeNext
  let readers := (List.range s.gateway.links.toList.length).flatMap fun c =>
    [.stopReader c, .leave c, .leave c]
  s.run (.shutdown :: .stopAccepting :: closings ++ readers ++ [.join, .poll, .complete])

end Session

end KnxGateway
