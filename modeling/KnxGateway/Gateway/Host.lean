import KnxGateway.Peer.NumericHost

set_option autoImplicit false

/-! # The machine a gateway runs on

A gateway listens on an address of its machine, and clients have to reach it there. The machine
decides which names it knows, on which addresses one can listen, and whether connections get
through. -/

namespace KnxGateway

open Text

/-- What a gateway needs to know of its machine. -/
structure Host where
  /-- The address of a name. -/
  resolve : String → Option Ip
  /-- Whether one can listen on an address. -/
  owns : Ip → Bool
  /-- Whether a client on the machine can reach one who listens there. -/
  isReachable : Bool

/-- A connection that the network does not carry. -/
inductive NetworkError where
  | unreachable
deriving DecidableEq

def NetworkError.message : NetworkError → String
  | unreachable => "Network is unreachable (os error 101)"

namespace Host

/-- The IPv4 address of the machine itself. -/
def localhost : Ip :=
  .v4 ⟨127, 0, 0, 1⟩

/-- Whether an IPv4 address stands for all addresses of the machine. -/
def isUnspecified (ip : Ipv4) : Bool :=
  ip == ⟨0, 0, 0, 0⟩

/-- Whether an IPv4 address names several machines at once. -/
def isShared (ip : Ipv4) : Bool :=
  ip == ⟨255, 255, 255, 255⟩ || (224 ≤ ip.a && ip.a ≤ 239)

/-- The IPv6 address that stands for all addresses of the machine. -/
def unspecifiedV6 : Ipv6 :=
  ⟨[0, 0, 0, 0, 0, 0, 0, 0], rfl⟩

/-- The names that a machine without a name service knows. -/
def knownName? (name : String) : Option Ip :=
  if lowered name = "localhost" then some localhost else none

/-- A machine with nothing but itself on its network. One can listen on its own addresses and on
    those that it shares with others, in either shape of an IPv4 address. -/
def standalone : Host :=
  ⟨knownName?,
    fun ip => match ip.canonical with
      | .v4 ip => ip.isLoopback || isUnspecified ip || isShared ip
      | .v6 ip => ip.isLoopback || ip == unspecifiedV6,
    true⟩

/-- A machine whose network is down, which carries no connections, not even to itself. It cannot
    tell that an IPv4 address belongs to another machine, so that one can listen on any; it has no
    IPv6 address of its own. -/
def isolated : Host :=
  ⟨knownName?,
    fun ip => match ip.canonical with
      | .v4 _ => true
      | .v6 ip => ip == unspecifiedV6,
    false⟩

def connect (host : Host) : Except NetworkError Unit :=
  if host.isReachable then .ok () else .error .unreachable

/-! ## Listening -/

/-- The parts of a text before and after its last colon. -/
def splitAtLastColon? (s : List Char) : Option (List Char × List Char) :=
  (cutAt? ':' s.reverse).map fun (port, name) => (name.reverse, port.reverse)

/-- The address and port that a host and a port denote, with a colon between them. -/
def resolveWithPort? (host : Host) (s : List Char) : Option SocketAddress := do
  let (name, port) ← splitAtLastColon? s
  let port ← readUnsigned? maxUInt16 port
  let ip ← (Ip.readHost? name).or (host.resolve (String.ofList name))
  return ⟨ip, UInt16.ofNat port⟩

/-- The address and port to listen on that a text denotes, if one can listen there. -/
def listenAddress? (host : Host) (s : String) : Option SocketAddress := do
  let address ← (Ip.readSocket? s.toList).or (host.resolveWithPort? s.toList)
  if host.owns address.ip then some address else none

end Host

end KnxGateway
