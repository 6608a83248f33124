import KnxGateway.Client.Command
import Std.Async.DNS
import Std.Async.TCP
import Std.Async.Timer

set_option autoImplicit false

/-! # The client program

The program connects to the gateway, sends the frame of its request, and collects what arrives until
that is enough to decide the outcome. Everything else is decided by `prepare` and `conclude`. -/

namespace KnxGateway

open Std.Async

/-- The result of an action, if it ends within the time that a client waits. -/
def inTime {α : Type} (action : Async α) : Async (Option α) :=
  Async.race (some <$> action) (do
    sleep (.ofNat replyWait)
    return none)

/-- Collects what arrives on a socket, until it decides the outcome or nothing more comes. -/
partial def collect (socket : TCP.Socket.Client) (arrived : Segments) : Async Server := do
  match receiveAll arrived with
  | .error .unfinished =>
    match ← inTime (socket.recv? 4096) with
    | none => return .answering arrived .silent
    | some none => return .answering arrived .closed
    | some (some bytes) => collect socket (arrived ++ [bytes.toList])
  | _ => return .answering arrived .silent

/-- The first address of a host, with a port. -/
def lookUp (host : String) (port : Nat) : Async Std.Net.SocketAddress := do
  let found ← DNS.getAddrInfo host ""
  match found.toList with
  | .v4 ip :: _ => return .v4 ⟨ip, UInt16.ofNat port⟩
  | .v6 ip :: _ => return .v6 ⟨ip, UInt16.ofNat port⟩
  | [] => throw (IO.userError ("no address for " ++ host))

/-- Sends a frame to the gateway, and collects what it answers. -/
def ask (socket : TCP.Socket.Client) (frame : List UInt8) : Async Server := do
  try
    let sent ← inTime (socket.send (ByteArray.mk frame.toArray))
    if sent.isNone then return .answering [] .silent
    collect socket []
  catch _ => return .answering [] .closed

/-- Connects to the gateway of an invocation, and asks it. -/
def converse (invocation : Invocation) (frame : List UInt8) : Async Server := do
  try
    let socket ← TCP.Socket.Client.mk
    let connected ← inTime (do
      socket.connect (← lookUp invocation.host invocation.port))
    if connected.isNone then return .answering [] .silent
    ask socket frame
  catch e => return .absent (toString e)

/-- Prints an outcome, and yields its exit code. -/
def Outcome.report (outcome : Outcome) : IO UInt32 := do
  (← IO.getStdout).putStr outcome.output
  (← IO.getStderr).putStr outcome.errors
  return outcome.exitCode.toUInt32

end KnxGateway

/-- Carries out what the arguments of the program ask for. -/
def main (arguments : List String) : IO UInt32 := do
  match KnxGateway.prepare arguments with
  | .error outcome => outcome.report
  | .ok (invocation, frame) =>
    let server ← (KnxGateway.converse invocation frame).block
    (invocation.conclude server).report
