import KnxGateway.Connection.ByteSink
import KnxGateway.Connection.Outcome
import KnxGateway.Frame.Response
import KnxGateway.Peer.AllowList

set_option autoImplicit false

/-! # Refusing a client

A client that may not connect is sent one notice, if the gateway is configured to do so, and then
its connection is closed. The notice names the address of the client and the configuration key
that would let it in. A client without a known address is sent nothing. -/

namespace KnxGateway

/-- The text of the notice to a client. -/
def rejectionMessage (ip : Ip) : String :=
  "Your IP address '" ++ ip.canonical.text ++ "' is not allowed. To allow it, add it to '" ++
    AllowList.key ++ "' of the gateway configuration."

/-- The notice to a client. -/
def rejectionNotice (ip : Ip) : Response :=
  .ofMessage true .errorClientNotAuthorized (rejectionMessage ip)

/-- Sends the notice that a verdict calls for, if any: the outcome, and the bytes that the client
    receives. The stream may take the notice in pieces, and it may fail in between. -/
def refuseOn (verdict : Verdict) (notify : Bool) (sink : ByteSink) : SendOutcome × List UInt8 :=
  match verdict with
  | .rejected peer =>
    if notify then
      match (rejectionNotice peer.ip).frame .generalMessage with
      | .ok frame =>
        let (complete, taken) := sink.writeAll frame
        (if complete then .sent else .failed, taken)
      | .error _ => (.failed, [])
    else
      (.skipped, [])
  | .allowed _ | .unresolved => (.skipped, [])

/-- Sends the notice that a verdict calls for, if any, on a stream that takes everything or
    nothing. `writable` tells whether the client can still be written to. -/
def refuse (verdict : Verdict) (notify writable : Bool) : SendOutcome × List UInt8 :=
  refuseOn verdict notify (if writable then .accepting else .broken)

end KnxGateway
