import KnxGateway.Connection.Outcome

set_option autoImplicit false

/-! # A connection with several users

Many tasks may send on one connection while others close it. The connection has a flag that says
whether it is open, and a writer behind a lock. Whoever sends looks at the flag, waits for the
lock, and writes its frame whole while it holds the lock; the bytes may leave in several pieces.
Whoever closes clears the flag, and the first to do so waits for the lock, takes the writer away
for good, and shuts the stream down. A sender that finds the flag cleared or the writer gone
writes nothing.

Every call moves on by single steps, and calls may interleave in any way between them. -/

namespace KnxGateway

/-- A call on a connection. -/
inductive ConnectionCall where
  | send (frame : List UInt8)
  | close
deriving DecidableEq

/-- How far a call has come. -/
inductive CallPhase where
  | idle
  /-- It found the connection open and waits for the lock. -/
  | waiting
  /-- It holds the lock and has these bytes left to write. -/
  | writing (rest : List UInt8)
  /-- It holds the lock, has taken the writer, and has the stream left to shut down. -/
  | shutting
  /-- It is over; a call to send has an outcome. -/
  | returned (outcome : Option SendOutcome)
deriving DecidableEq

/-- A connection with its calls. -/
structure SharedConnection where
  isOpen : Bool
  /-- Whether the writer is still behind the lock. -/
  hasWriter : Bool
  /-- The call that holds the lock. -/
  holder : Option Nat
  written : List UInt8
  /-- How often the stream was shut down. -/
  shutdowns : Nat
  /-- All calls with their phases. -/
  calls : List (ConnectionCall × CallPhase)
deriving DecidableEq

/-- A step of a call. -/
inductive ConnectionMove where
  /-- The call goes on as far as the next point where it may have to wait. -/
  | advance (call : Nat)
  /-- The stream accepts up to `extra + 1` more bytes from the call. -/
  | write (call extra : Nat)
  /-- The stream refuses the bytes of the call. -/
  | fail (call : Nat)
deriving DecidableEq

/-- What can be seen of a connection from the outside. -/
inductive ConnectionEvent where
  /-- A call began. -/
  | began (call : Nat)
  /-- A call got the lock. -/
  | locked (call : Nat)
  /-- The stream accepted bytes from a call. -/
  | wrote (call : Nat) (bytes : List UInt8)
deriving DecidableEq

namespace SharedConnection

def initial (calls : List ConnectionCall) : SharedConnection :=
  ⟨true, true, none, [], 0, calls.map fun call => (call, .idle)⟩

/-- The connection with a call in another phase. -/
def setPhase (s : SharedConnection) (i : Nat) (call : ConnectionCall) (phase : CallPhase) :
    SharedConnection :=
  { s with calls := s.calls.set i (call, phase) }

/-- The first step of a call: it looks at the flag, and a call to close clears it. -/
def begin (s : SharedConnection) (i : Nat) : ConnectionCall → SharedConnection
  | .send frame =>
    s.setPhase i (.send frame) (if s.isOpen then .waiting else .returned (some .skipped))
  | .close =>
    { s with isOpen := false }.setPhase i .close (if s.isOpen then .waiting else .returned none)

/-- The step of a call that gets the lock. It gives the lock back at once when the writer is
    gone. -/
def lock (s : SharedConnection) (i : Nat) : ConnectionCall → SharedConnection
  | .send frame =>
    if s.hasWriter then { s with holder := some i }.setPhase i (.send frame) (.writing frame)
    else s.setPhase i (.send frame) (.returned (some .skipped))
  | .close =>
    if s.hasWriter then
      { s with holder := some i, hasWriter := false }.setPhase i .close .shutting
    else s.setPhase i .close (.returned none)

/-- One step. A step that is not possible changes nothing. -/
def step (s : SharedConnection) : ConnectionMove → List ConnectionEvent × SharedConnection
  | .advance i =>
    match s.calls[i]? with
    | some (call, .idle) => ([.began i], s.begin i call)
    | some (call, .waiting) => if s.holder.isSome then ([], s) else ([.locked i], s.lock i call)
    | some (call, .writing []) =>
      ([], { s with holder := none }.setPhase i call (.returned (some .sent)))
    | some (call, .shutting) =>
      ([], { s with holder := none, shutdowns := s.shutdowns + 1 }.setPhase i call
        (.returned none))
    | _ => ([], s)
  | .write i extra =>
    match s.calls[i]? with
    | some (call, .writing rest) =>
      ([.wrote i (rest.take (extra + 1))],
        { s with written := s.written ++ rest.take (extra + 1) }.setPhase i call
          (.writing (rest.drop (extra + 1))))
    | _ => ([], s)
  | .fail i =>
    match s.calls[i]? with
    | some (call, .writing _) =>
      ([], { s with holder := none }.setPhase i call (.returned (some .failed)))
    | _ => ([], s)

def run (s : SharedConnection) : List ConnectionMove → List ConnectionEvent × SharedConnection
  | [] => ([], s)
  | move :: schedule =>
    let (events, s) := s.step move
    let (later, s) := s.run schedule
    (events ++ later, s)

/-- The frame of a call that was sent whole, if it is one. -/
def sentFrame? (s : SharedConnection) (i : Nat) : Option (List UInt8) :=
  match s.calls[i]? with
  | some (.send frame, .returned (some .sent)) => some frame
  | _ => none

/-- The outcome of a call, if it was one to send and is over. -/
def outcome? (s : SharedConnection) (i : Nat) : Option SendOutcome :=
  match s.calls[i]? with
  | some (_, .returned outcome) => outcome
  | _ => none

/-- Makes one more call and lets it come to its end before any other. The stream does with its
    bytes what the given move says. -/
def callAlone (s : SharedConnection) (call : ConnectionCall) (stream : Nat → ConnectionMove) :
    Option SendOutcome × SharedConnection :=
  let i := s.calls.length
  let waiting : SharedConnection := { s with calls := s.calls ++ [(call, .idle)] }
  let s := (waiting.run [.advance i, .advance i, stream i, .advance i]).2
  (s.outcome? i, s)

end SharedConnection

end KnxGateway
