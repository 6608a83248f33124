import KnxGateway.Connection.Shared

set_option autoImplicit false

/-! # A connection to a peer on the same machine

The near end makes its calls one at a time. What a sender learns about a peer that went away
follows from how streams are torn down. A peer that left with unread bytes resets the stream, and
every later frame fails. A peer that had read everything leaves quietly: the next frame is still
accepted, is answered by a reset, and those after it fail. -/

namespace KnxGateway

/-- The far end of a connection. -/
inductive PeerState where
  | present
  /-- It left quietly. -/
  | departed
  /-- The stream was reset. -/
  | reset
deriving DecidableEq

namespace PeerState

/-- What the stream to a peer does with the bytes of a call. -/
def takes (peer : PeerState) (frame : List UInt8) (call : Nat) : ConnectionMove :=
  match peer with
  | present | departed => .write call frame.length
  | reset => .fail call

end PeerState

/-- A connection to a peer on the same machine. -/
structure LoopbackConnection where
  id : ConnectionId
  near : SharedConnection
  peer : PeerState
  /-- The bytes that reached the peer and that it has not read. -/
  received : List UInt8
deriving DecidableEq

namespace LoopbackConnection

def initial (id : ConnectionId) : LoopbackConnection :=
  ⟨id, .initial [], .present, []⟩

/-- Whether the near end is open. -/
def isOpen (c : LoopbackConnection) : Bool :=
  c.near.isOpen

def trySend (c : LoopbackConnection) (frame : List UInt8) : SendOutcome × LoopbackConnection :=
  let (outcome, near) := c.near.callAlone (.send frame) (c.peer.takes frame)
  match outcome, c.peer with
  | some .sent, .present => (.sent, { c with near, received := c.received ++ frame })
  | some .sent, _ => (.sent, { c with near, peer := .reset })
  | some outcome, _ => (outcome, { c with near })
  -- a call that is let alone does not stay without an outcome
  | none, _ => (.failed, { c with near })

def close (c : LoopbackConnection) : LoopbackConnection :=
  { c with near := (c.near.callAlone .close .advance).2 }

/-- Lets the peer go away, with all that it has not read. -/
def departPeer (c : LoopbackConnection) : LoopbackConnection :=
  { c with peer := if c.received.isEmpty then .departed else .reset, received := [] }

end LoopbackConnection

end KnxGateway
