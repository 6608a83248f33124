import KnxGateway.Dispatch.Queue
import KnxGateway.Dispatch.World

set_option autoImplicit false

/-! # The dispatcher

The dispatcher takes packets from the queue one at a time and reads each as one request frame. A
packet that is no request frame is dropped without a response; so is a packet of a connection that
has been closed in the meantime. Every other packet starts a request task, and the dispatcher goes
on with the next packet without waiting for it. Tasks of different requests may so interleave in
any way, while the actions of one task keep their order.

A stop signal goes before waiting packets: no packet is taken once it has been raised. The loss of
everybody who could raise it counts as a stop. -/

namespace KnxGateway

/-! ## Receiving a packet -/

/-- What becomes of a packet without a fault. -/
inductive Reception where
  /-- It is left out because its connection is closed. -/
  | skipped
  /-- It starts the task of a request. -/
  | accepted (request : Request)

/-- Reads a packet as a request. The bytes are looked at only while the connection is open, but an
    empty packet is always a fault. -/
def receive (registry : Registry) (isOpen : Bool) (bytes : List UInt8) :
    Except FormatError Reception :=
  if bytes.isEmpty then .error .empty
  else if !isOpen then .ok .skipped
  else do
    let header ← Header.decode bytes
    let body ← header.bodyOf bytes
    match header.action with
    | .readRequest => return .accepted (.read (← ReadRequest.decode registry body))
    | .writeRequest => return .accepted (.write (← WriteRequest.decode registry body))
    | action => .error (.unexpectedAction action)

/-- A request that is being carried out. -/
structure Job where
  connection : ConnectionId
  request : Request
  /-- What is left to do for it. -/
  task : RequestTask

def Job.start (connection : ConnectionId) (request : Request) : Job :=
  ⟨connection, request, request.task⟩

namespace World

variable {β γ : Type} [Bus β] [Outlets γ]

/-- Reads a packet and yields the job that it starts, if any. A skipped packet is counted; a fault
    is left to the caller. -/
def accept (w : World β γ) (registry : Registry) (p : Packet) :
    Except FormatError (Option Job × World β γ) :=
  match receive registry (Outlets.isOpen w.outlets p.connection) p.bytes with
  | .error e => .error e
  | .ok .skipped => .ok (none, w.record .responsesSkipped)
  | .ok (.accepted request) => .ok (some (.start p.connection request), w)

/-- Reads a packet and carries its request out to the end. -/
def handle (w : World β γ) (registry : Registry) (p : Packet) :
    Except FormatError (List Effect × World β γ) :=
  match w.accept registry p with
  | .error e => .error e
  | .ok (none, w') => .ok ([], w')
  | .ok (some job, w') => .ok (job.task.run job.connection w')

end World

/-! ## The loop -/

/-- Whether the loop is to stop. -/
inductive StopSignal where
  | clear
  | raised
  /-- Nobody is left who could say so, which counts as a stop. -/
  | abandoned
deriving DecidableEq

/-- Whether a signal ends the loop. -/
def StopSignal.stops : StopSignal → Bool
  | clear => false
  | raised | abandoned => true

/-- A dispatcher with its queue, its jobs and the world they act on. -/
structure Dispatcher (β γ : Type) where
  /-- The types that explain the values of requests. -/
  registry : Registry
  queue : PacketQueue
  /-- Whether the loop is to stop. -/
  stop : StopSignal
  running : Bool
  /-- The jobs started so far, in order; those that are done stay in the list. -/
  jobs : List Job
  /-- What the jobs act on. -/
  world : World β γ

/-- What can be seen of a dispatcher. -/
inductive DispatchEvent where
  /-- A packet was taken from the queue, and read with this fault, if any. -/
  | took (packet : Packet) (fault : Option FormatError)
  /-- The job of the given number had an effect. -/
  | worked (job : Nat) (effect : Effect)

namespace DispatchEvent

/-- The packet that was taken, if the event is of that kind. -/
def taken? : DispatchEvent → Option Packet
  | took packet _ => some packet
  | worked _ _ => none

/-- The effect of a job, if the event is of that kind. -/
def effect? : DispatchEvent → Option Effect
  | took _ _ => none
  | worked _ effect => some effect

/-- The effect of the job of a given number, if the event is of that kind. -/
def effectOf? (job : Nat) : DispatchEvent → Option Effect
  | took _ _ => none
  | worked i effect => if i = job then some effect else none

def taken (events : List DispatchEvent) : List Packet :=
  events.filterMap taken?

def effects (events : List DispatchEvent) : List Effect :=
  events.filterMap effect?

end DispatchEvent

namespace Dispatcher

variable {β γ : Type}

def start (registry : Registry) (queue : PacketQueue) (world : World β γ) : Dispatcher β γ :=
  ⟨registry, queue, .clear, true, [], world⟩

variable [Bus β] [Outlets γ]

/-- Reads a packet, starts its job, and counts its fault. -/
def accept (d : Dispatcher β γ) (p : Packet) : Option FormatError × Dispatcher β γ :=
  match d.world.accept d.registry p with
  | .error e => (some e, { d with world := d.world.record .formatErrors })
  | .ok (none, world) => (none, { d with world })
  | .ok (some job, world) => (none, { d with world, jobs := d.jobs ++ [job] })

/-- One turn of the loop: it ends on a stop signal or at the end of the queue, takes the next
    packet if there is one, and otherwise waits. -/
def poll (d : Dispatcher β γ) : List DispatchEvent × Dispatcher β γ :=
  if !d.running then ([], d)
  else if d.stop.stops then ([], { d with running := false })
  else
    match d.queue.take? with
    | some (p, queue) =>
      let (fault, d) := { d with queue }.accept p
      ([.took p fault], d)
    | none => ([], { d with running := !d.queue.closed })

/-- One atomic action of a job, unless there is no such job or it is done. -/
def work (d : Dispatcher β γ) (i : Nat) : List DispatchEvent × Dispatcher β γ :=
  match d.jobs[i]? with
  | none => ([], d)
  | some job =>
    match job.task.step job.connection d.world with
    | none => ([], d)
    | some (effect, task, world) =>
      ([.worked i effect], { d with world, jobs := d.jobs.set i { job with task } })

/-- Carries a job out to its end. -/
def finish (d : Dispatcher β γ) (i : Nat) : List DispatchEvent × Dispatcher β γ :=
  match d.jobs[i]? with
  | none => ([], d)
  | some job =>
    let (effects, world) := job.task.run job.connection d.world
    (effects.map (.worked i), { d with world, jobs := d.jobs.set i { job with task := .done } })

/-- Carries several jobs out, each to its end before the next. -/
def finishAll (d : Dispatcher β γ) : List Nat → List DispatchEvent × Dispatcher β γ
  | [] => ([], d)
  | i :: rest =>
    let (events, d) := d.finish i
    let (later, d) := d.finishAll rest
    (events ++ later, d)

/-- Whether all jobs are done. -/
def isIdle (d : Dispatcher β γ) : Bool :=
  d.jobs.all fun job => match job.task with
    | .done => true
    | _ => false

end Dispatcher

/-! ## A dispatcher that is fed -/

/-- A dispatcher together with one who publishes packets for it. -/
structure FedDispatcher (β γ : Type) where
  dispatcher : Dispatcher β γ
  /-- The packets still to be published, in order. -/
  pending : List Packet

/-- What can happen to a dispatcher that is fed. -/
inductive DispatchMove where
  /-- The next packet is published, if the queue has room. -/
  | publish
  /-- The one who publishes goes away, once all packets are published. -/
  | hangUp
  | signal (stop : StopSignal)
  | poll
  | work (job : Nat)
deriving DecidableEq

namespace FedDispatcher

variable {β γ : Type} [Bus β] [Outlets γ]

def step (f : FedDispatcher β γ) : DispatchMove → List DispatchEvent × FedDispatcher β γ
  | .publish =>
    match f.pending with
    | [] => ([], f)
    | p :: rest =>
      match f.dispatcher.queue.publish? p with
      | none => ([], f)
      | some queue => ([], ⟨{ f.dispatcher with queue }, rest⟩)
  | .hangUp =>
    if f.pending.isEmpty then
      ([], ⟨{ f.dispatcher with queue := f.dispatcher.queue.close }, []⟩)
    else
      ([], f)
  | .signal stop =>
    if f.dispatcher.stop.stops then ([], f)
    else ([], ⟨{ f.dispatcher with stop }, f.pending⟩)
  | .poll => (f.dispatcher.poll.1, ⟨f.dispatcher.poll.2, f.pending⟩)
  | .work job => ((f.dispatcher.work job).1, ⟨(f.dispatcher.work job).2, f.pending⟩)

def run (f : FedDispatcher β γ) : List DispatchMove → List DispatchEvent × FedDispatcher β γ
  | [] => ([], f)
  | move :: schedule =>
    let (events, f) := f.step move
    let (later, f) := f.run schedule
    (events ++ later, f)

/-- The jobs that a turn of the loop started, carried out to their ends. -/
def settle (f : FedDispatcher β γ) (jobsBefore : Nat) : List DispatchEvent × FedDispatcher β γ :=
  let fresh := (List.range f.dispatcher.jobs.length).drop jobsBefore
  let (events, dispatcher) := f.dispatcher.finishAll fresh
  (events, ⟨dispatcher, f.pending⟩)

/-- The given number of packets: each is published, taken and carried out before the next. -/
def serveSome : Nat → FedDispatcher β γ → List DispatchEvent × FedDispatcher β γ
  | 0, f => ([], f)
  | n + 1, f =>
    let jobsBefore := f.dispatcher.jobs.length
    let (taken, f) := f.run [.publish, .poll]
    let (worked, f) := f.settle jobsBefore
    let (later, f) := serveSome n f
    (taken ++ worked ++ later, f)

/-- The plain schedule: all packets one after the other; then the one who publishes goes away and
    the loop takes a last turn. -/
def serve (f : FedDispatcher β γ) : List DispatchEvent × FedDispatcher β γ :=
  let (events, f) := serveSome f.pending.length f
  let (later, f) := f.run [.hangUp, .poll]
  (events ++ later, f)

end FedDispatcher

end KnxGateway
