import KnxGateway.Client.Error
import KnxGateway.Client.Reply
import KnxGateway.Client.Stream

set_option autoImplicit false

/-! # Exchanging a request for replies

A client sends one request and reads replies until one is marked as the last. It reads exactly the
bytes of each reply, first the header and then the body that the header declares, so that what
follows the last reply is never looked at. There is no partial answer: either all replies up to the
last one arrive in order, or the client has an error. -/

namespace KnxGateway

/-! ## Receiving -/

/-- Why replies cannot be read from the bytes that have arrived. -/
inductive ReceiveFault where
  /-- More bytes are needed. -/
  | unfinished
  /-- A frame is no reply. -/
  | malformed (cause : FormatError)
deriving DecidableEq

/-- Takes a reply from a stream. -/
def receiveReply (s : Segments) : Except ReceiveFault (Reply × Segments) :=
  match s.takeBytes? headerLength with
  | none => .error .unfinished
  | some (headerBytes, s) =>
    match Header.decode headerBytes with
    | .error e => .error (.malformed e)
    | .ok header =>
      match s.takeBytes? header.bodyLength.toNat with
      | none => .error .unfinished
      | some (bodyBytes, s) =>
        match Response.decode bodyBytes with
        | .error e => .error (.malformed e)
        | .ok body => .ok (⟨header.action, body⟩, s)

/-- A reply takes at least the bytes of its header. -/
theorem length_lt_of_receiveReply {s rest : Segments} {reply : Reply}
    (h : receiveReply s = .ok (reply, rest)) : rest.flatten.length < s.flatten.length := by
  unfold receiveReply at h
  split at h
  · cases h
  next headerBytes afterHeader first =>
    split at h
    · cases h
    next header _ =>
      split at h
      · cases h
      next bodyBytes afterBody second =>
        split at h
        · cases h
        next body _ =>
          obtain ⟨-, rfl⟩ := Prod.mk.inj (Except.ok.inj h)
          have length := Segments.length_of_takeBytes? first
          rw [← Segments.append_flatten_of_takeBytes? first,
            ← Segments.append_flatten_of_takeBytes? second]
          simp only [List.length_append, length, headerLength]
          omega

/-- Takes replies from a stream, up to the one that is marked as the last. -/
def receiveAll (s : Segments) : Except ReceiveFault (List Reply × Segments) :=
  match _ : receiveReply s with
  | .error e => .error e
  | .ok (reply, rest) =>
    if reply.body.last then .ok ([reply], rest)
    else
      match receiveAll rest with
      | .error e => .error e
      | .ok (replies, rest) => .ok (reply :: replies, rest)
termination_by s.flatten.length
decreasing_by exact length_lt_of_receiveReply ‹_›

/-! ## Exchanges -/

/-- What happens on a connection when all bytes have arrived. -/
inductive StreamEnd where
  /-- The gateway closes it. -/
  | closed
  /-- It stays open, and nothing more comes. -/
  | silent
deriving DecidableEq

/-- What a client meets where it looks for a gateway. -/
inductive Server where
  /-- It cannot connect, for a reason that the machine gives. -/
  | absent (reason : String)
  /-- It is sent these bytes. -/
  | answering (bytes : Segments) (ending : StreamEnd)
deriving DecidableEq

/-- The error of a client that waits for bytes in vain. -/
def StreamEnd.error (ending : StreamEnd) (wait : Nat) : ClientError :=
  match ending with
  | closed => .earlyEnd
  | silent => .timeout wait

/-- The replies of a server to a request, or the error of a client that waits for each part of a
    reply for at most a number of milliseconds. -/
def exchange (address : String) (wait : Nat) : Server → Except ClientError (List Reply)
  | .absent reason => .error (.connect address reason)
  | .answering bytes ending =>
    match receiveAll bytes with
    | .ok (replies, _) => .ok replies
    | .error .unfinished => .error (ending.error wait)
    | .error (.malformed cause) => .error (.format cause)

/-- The bytes that a server gets to see of a request. -/
def Server.sees (server : Server) (request : List UInt8) : List UInt8 :=
  match server with
  | absent _ => []
  | answering _ _ => request

end KnxGateway
