import KnxGateway.Peer.Ip
import KnxGateway.Text.Blank

set_option autoImplicit false

/-! # The allow-list

Clients on the gateway's own machine may always connect. All others need an entry in the
allow-list that is the text of their address, as it is or in its canonical form. Entries are
compared as texts, so an entry in another notation than the usual one names nobody. A client whose
address cannot be found out may not connect. -/

namespace KnxGateway

open Text

/-- The addresses of those who may connect. -/
structure AllowList where
  /-- The entries, without blanks around them; each occurs once. -/
  entries : List String
deriving DecidableEq

namespace AllowList

/-- The key of the configuration that fills the allow-list. -/
def key : String := "KNX_LINK_ALLOWED_ADDRESSES"

/-- The list of the given entries. Blanks around an entry do not count, and neither do blank
    entries or repetitions. -/
def ofTexts (texts : List String) : AllowList :=
  ⟨((texts.map trimmed).filter fun entry => !entry.isEmpty).eraseDups⟩

/-- The entries in the order of their code points. -/
def sorted (l : AllowList) : List String :=
  l.entries.mergeSort fun x y => x ≤ y

/-- Whether an address may connect. -/
def allows (l : AllowList) (ip : Ip) : Bool :=
  ip.canonical.isLoopback || l.entries.contains ip.canonical.text || l.entries.contains ip.text

end AllowList

/-! ## Verdicts -/

/-- What is decided about a client. -/
inductive Verdict where
  | allowed (peer : SocketAddress)
  | rejected (peer : SocketAddress)
  /-- Its address could not be found out. -/
  | unresolved
deriving DecidableEq

namespace Verdict

/-- Whether a client may connect. -/
def isAllowed : Verdict → Bool
  | allowed _ => true
  | rejected _ | unresolved => false

end Verdict

/-- The verdict about a client, whose address is missing when it could not be found out. -/
def AllowList.judge (l : AllowList) : Option SocketAddress → Verdict
  | none => .unresolved
  | some peer => if l.allows peer.ip then .allowed peer else .rejected peer

end KnxGateway
