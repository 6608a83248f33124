import KnxGateway.Config.GatewayConfig
import KnxGateway.Dispatch.Dispatcher
import KnxGateway.Gateway.Host
import KnxGateway.Gateway.ReadBuffer
import KnxGateway.Peer.Refusal

set_option autoImplicit false

/-! # A running gateway

A gateway is a number of activities over one state. An accept loop judges every client that
connects, and registers those who may stay; the others are refused, each by an activity of its
own. Each registered connection has a reader, which turns what it reads into packets and publishes
them one at a time; the dispatcher takes the packets and starts request tasks, which send on the
connections. A stop signal reaches all of them: the accept loop takes every connection out of the
registry and closes it, and then waits for the readers; the readers leave, each taking its own
connection out of the registry before closing it; the dispatcher takes no further packet.

Every move is one atomic step of one activity, or one step of the world outside. The moves may
come in any order, and a move that is not possible changes nothing. -/

namespace KnxGateway

/-! ## Connections -/

/-- How far the reader of a connection has come. -/
inductive ReaderPhase where
  | reading
  /-- It has read these bytes and waits for room in the queue. -/
  | publishing (bytes : List UInt8)
  /-- Its loop has ended, and its connection is still to be taken out of the registry. -/
  | leaving
  /-- Its connection is out of the registry and still to be closed. -/
  | closing
  | finished
  /-- It broke down when it asked for a buffer that no machine can provide. -/
  | crashed
deriving DecidableEq

/-- The greatest buffer that can be asked for, one less than 2 to the power of 63. -/
def maxBufferSize : Nat := 9223372036854775807

namespace ReaderPhase

/-- The reader at its start, which asks for a buffer of the given size. -/
def start (bufferSize : Nat) : ReaderPhase :=
  if bufferSize ≤ maxBufferSize then reading else crashed

/-- Whether the reader has come to an end, in order or not. -/
def isOver : ReaderPhase → Bool
  | finished | crashed => true
  | reading | publishing _ | leaving | closing => false

/-- Whether the loop of the reader goes on. -/
def isLooping : ReaderPhase → Bool
  | reading | publishing _ => true
  | leaving | closing | finished | crashed => false

end ReaderPhase

/-- An accepted connection. -/
structure Link where
  /-- The number under which it was registered. -/
  id : Nat
  peer : SocketAddress
  /-- Whether the gateway has not closed it. -/
  isOpen : Bool
  isWritable : Bool
  reader : ReaderPhase
deriving DecidableEq

/-- All connections that were ever accepted, in order. Their positions tell them apart. -/
structure Links where
  toList : List Link

namespace Links

/-- The connection at a position. -/
def get? (l : Links) (c : ConnectionId) : Option Link :=
  l.toList[c]?

/-- The connections with the one at a position changed. -/
def modify (l : Links) (c : ConnectionId) (change : Link → Link) : Links :=
  ⟨l.toList.modify c change⟩

/-- Hands a frame to a connection, which writes it if it is open and its stream accepts bytes. -/
def trySend (l : Links) (c : ConnectionId) : SendOutcome :=
  match l.get? c with
  | none => .skipped
  | some link =>
    if !link.isOpen then .skipped
    else if link.isWritable then .sent
    else .failed

instance : Outlets Links where
  isOpen l c := (l.get? c).any fun link => link.isOpen
  trySend l c _ := (l.trySend c, l)

end Links

/-! ## The gateway -/

/-- The state that a gateway shows. -/
inductive ServerState where
  | stopped
  | starting
  | running
  | stopping
deriving DecidableEq

def ServerState.name : ServerState → String
  | stopped => "Stopped"
  | starting => "Starting"
  | running => "Running"
  | stopping => "Stopping"

/-- How far the accept loop has come. -/
inductive AcceptPhase where
  | accepting
  /-- It closes the connections that it took out of the registry. -/
  | closing (links : List ConnectionId)
  | joining
  | returned
deriving DecidableEq

/-- A gateway over a bus with states in `β`. -/
structure Gateway (β : Type) where
  config : GatewayConfig
  allowList : AllowList
  state : ServerState
  acceptLoop : AcceptPhase
  /-- The positions of the open connections, by their numbers. -/
  registry : Table Nat ConnectionId
  /-- The verdicts about clients that are still to be refused. -/
  refusals : List Verdict
  /-- Its dispatcher, with the queue, the stop signal, the request tasks, the connections and the
      counters. -/
  dispatcher : Dispatcher β Links

/-- What can be seen of a gateway. -/
inductive GatewayEvent where
  | entered (state : ServerState)
  | judged (verdict : Verdict)
  | registered (connection : ConnectionId) (id : Nat)
  /-- A client was refused, and received these bytes. -/
  | refused (verdict : Verdict) (outcome : SendOutcome) (received : List UInt8)
  | received (connection : ConnectionId) (bytes : List UInt8)
  | published (packet : Packet)
  | dispatched (event : DispatchEvent)
  | deregistered (connection : ConnectionId)
  | closed (connection : ConnectionId)

/-- Why a gateway does not start. -/
inductive StartError where
  | config (problem : ConfigProblem)
  /-- The queue was to be greater than any queue can be, which ends the program. -/
  | queueTooLarge
  | bind (address : String)
deriving DecidableEq

/-- A step of an activity of the gateway, or of the world outside. -/
inductive GatewayMove where
  /-- A client connects; its address is missing when it cannot be found out. -/
  | connect (peer : Option SocketAddress)
  /-- The refusal at a position is carried out on a stream that accepts bytes or not. -/
  | refuse (refusal : Nat) (isWritable : Bool)
  /-- The stream of a connection begins or ceases to accept bytes. -/
  | setWritable (connection : ConnectionId) (isWritable : Bool)
  /-- A reader reads bytes, at least one and at most as many as its buffer holds. -/
  | read (connection : ConnectionId) (bytes : List UInt8)
  /-- A reader meets the end of its stream, or an error. -/
  | readEnd (connection : ConnectionId)
  /-- A reader publishes what it has read, if the queue has room; without a dispatcher its loop
      ends instead. -/
  | publish (connection : ConnectionId)
  /-- A reader heeds the stop signal. -/
  | stopReader (connection : ConnectionId)
  /-- A reader whose loop has ended goes on to take out and close its connection. -/
  | leave (connection : ConnectionId)
  /-- The accept loop heeds the stop signal and empties the registry. -/
  | stopAccepting
  /-- The accept loop closes the next connection that it took out of the registry, or begins to
      wait for the readers. -/
  | closeNext
  /-- The accept loop ends when all readers have. -/
  | join
  | poll
  | work (job : Nat)
  /-- The owner of the gateway shuts it down. -/
  | shutdown
  /-- The owner of the gateway goes away without shutting it down. -/
  | abandon
  /-- The shutdown ends when the accept loop and the dispatcher have. -/
  | complete

namespace Gateway

variable {β : Type}

/-! ## Parts -/

def links (g : Gateway β) : Links :=
  g.dispatcher.world.outlets

def openConnections (g : Gateway β) : Nat :=
  g.registry.size

/-- Whether the activities are to stop. -/
def isStopping (g : Gateway β) : Bool :=
  g.dispatcher.stop.stops

def metrics (g : Gateway β) : Metrics :=
  g.dispatcher.world.metrics

def mapWorld (g : Gateway β) (change : World β Links → World β Links) : Gateway β :=
  { g with dispatcher := { g.dispatcher with world := change g.dispatcher.world } }

def record (g : Gateway β) (counter : Counter) : Gateway β :=
  g.mapWorld fun world => world.record counter

def mapLink (g : Gateway β) (c : ConnectionId) (change : Link → Link) : Gateway β :=
  g.mapWorld fun world => { world with outlets := world.outlets.modify c change }

/-- The gateway with the reader of a connection in another phase. -/
def setReader (g : Gateway β) (c : ConnectionId) (reader : ReaderPhase) : Gateway β :=
  g.mapLink c fun link => { link with reader }

def setQueue (g : Gateway β) (queue : PacketQueue) : Gateway β :=
  { g with dispatcher := { g.dispatcher with queue } }

/-- The gateway with a signal raised, unless it is to stop already. -/
def signal (g : Gateway β) (stop : StopSignal) : Gateway β :=
  if g.isStopping then g else { g with dispatcher := { g.dispatcher with stop } }

/-! ## Starting -/

/-- Starts a gateway on a machine. The configuration is checked before the queue is made, and the
    queue is made before the gateway listens. -/
def start (host : Host) (config : GatewayConfig) (dataTypes : Registry) (bus : β)
    (metrics : Metrics) : Except StartError (List GatewayEvent × Gateway β) :=
  match config.problem? with
  | some problem => .error (.config problem)
  | none =>
    match PacketQueue.ofCapacity? config.queueCapacity with
    | none => .error .queueTooLarge
    | some queue =>
      match host.listenAddress? config.listenAddr with
      | none => .error (.bind config.listenAddr)
      | some _ =>
        .ok ([.entered .stopped, .entered .starting, .entered .running],
          { config
            allowList := .ofTexts config.allowedAddresses
            state := .running
            acceptLoop := .accepting
            registry := .empty
            refusals := []
            dispatcher := .start dataTypes queue ⟨bus, ⟨[]⟩, metrics⟩ })

/-! ## Clients -/

/-- The number for the next connection. Numbers have 64 bits. -/
def nextId (g : Gateway β) : Nat :=
  g.links.toList.length % (Text.maxUInt64 + 1)

/-- Judges a client, and registers its connection if it may stay. -/
def accept (g : Gateway β) (peer : Option SocketAddress) : List GatewayEvent × Gateway β :=
  match g.allowList.judge peer with
  | .allowed peer =>
    let c := g.links.toList.length
    let link : Link := ⟨g.nextId, peer, true, true, .start g.config.readBufferSize⟩
    let registry := g.registry.insert g.nextId c
    ([.judged (.allowed peer), .registered c g.nextId],
      { g.record .connectionsAccepted with registry }.mapWorld fun world =>
        { world with outlets := ⟨world.outlets.toList ++ [link]⟩ })
  | verdict =>
    ([.judged verdict],
      { g.record .connectionsRejected with refusals := g.refusals ++ [verdict] })

/-- Carries the refusal at a position out. -/
def carryOutRefusal (g : Gateway β) (i : Nat) (isWritable : Bool) :
    List GatewayEvent × Gateway β :=
  match g.refusals[i]? with
  | none => ([], g)
  | some verdict =>
    let (outcome, received) := KnxGateway.refuse verdict g.config.notifyRejected isWritable
    ([.refused verdict outcome received], { g with refusals := g.refusals.eraseIdx i })

/-! ## Readers -/

/-- Lets a reader read bytes into a fresh buffer. -/
def read (g : Gateway β) (c : ConnectionId) (bytes : List UInt8) :
    List GatewayEvent × Gateway β :=
  match g.links.get? c with
  | some link =>
    if link.reader = .reading ∧ bytes ≠ [] ∧ bytes.length ≤ g.config.readBufferSize then
      let chunk := ReadBuffer.chunk g.config.readBufferSize bytes
      ([.received c bytes], (g.record .packetsReceived).setReader c (.publishing chunk))
    else ([], g)
  | none => ([], g)

/-- Ends the loop of a reader that reads. -/
def readEnd (g : Gateway β) (c : ConnectionId) : List GatewayEvent × Gateway β :=
  match g.links.get? c with
  | some link => if link.reader = .reading then ([], g.setReader c .leaving) else ([], g)
  | none => ([], g)

/-- Lets a reader publish. -/
def publish (g : Gateway β) (c : ConnectionId) : List GatewayEvent × Gateway β :=
  match g.links.get? c with
  | some ⟨_, _, _, _, .publishing bytes⟩ =>
    if g.dispatcher.running then
      match g.dispatcher.queue.publish? ⟨c, bytes⟩ with
      | some queue => ([.published ⟨c, bytes⟩], (g.setQueue queue).setReader c .reading)
      | none => ([], g)
    else ([], g.setReader c .leaving)
  | _ => ([], g)

/-- Lets a reader heed the stop signal. -/
def stopReader (g : Gateway β) (c : ConnectionId) : List GatewayEvent × Gateway β :=
  match g.links.get? c with
  | some link =>
    if g.isStopping && link.reader.isLooping then ([], g.setReader c .leaving) else ([], g)
  | none => ([], g)

/-- Lets a reader whose loop has ended take its connection out of the registry, and then close
    it. -/
def leave (g : Gateway β) (c : ConnectionId) : List GatewayEvent × Gateway β :=
  match g.links.get? c with
  | some link =>
    match link.reader with
    | .leaving =>
      ([.deregistered c], { g.setReader c .closing with registry := g.registry.erase link.id })
    | .closing => ([.closed c], (g.setReader c .finished).mapLink c fun l => { l with isOpen := false })
    | _ => ([], g)
  | none => ([], g)

/-! ## Stopping -/

/-- Lets the accept loop heed the stop signal. -/
def stopAccepting (g : Gateway β) : List GatewayEvent × Gateway β :=
  if g.isStopping && g.acceptLoop = .accepting then
    let open_ := g.registry.entries.map Prod.snd
    (open_.map .deregistered, { g with acceptLoop := .closing open_, registry := .empty })
  else ([], g)

/-- Lets the accept loop close the next connection. -/
def closeNext (g : Gateway β) : List GatewayEvent × Gateway β :=
  match g.acceptLoop with
  | .closing [] => ([], { g with acceptLoop := .joining })
  | .closing (c :: rest) =>
    ([.closed c], { g with acceptLoop := .closing rest }.mapLink c fun l => { l with isOpen := false })
  | _ => ([], g)

/-- Ends the accept loop when all readers have ended. Nobody is left then who could publish. -/
def join (g : Gateway β) : List GatewayEvent × Gateway β :=
  if g.acceptLoop = .joining && g.links.toList.all fun link => link.reader.isOver then
    ([], { g with acceptLoop := .returned }.setQueue g.dispatcher.queue.close)
  else ([], g)

def shutdown (g : Gateway β) : List GatewayEvent × Gateway β :=
  if g.state = .running then
    ([.entered .stopping], { g with state := .stopping }.signal .raised)
  else ([], g)

/-- Ends the shutdown when the accept loop and the dispatcher have ended. -/
def complete (g : Gateway β) : List GatewayEvent × Gateway β :=
  if g.state = .stopping && g.acceptLoop = .returned && !g.dispatcher.running then
    ([.entered .stopped], { g with state := .stopped })
  else ([], g)

/-! ## Moves -/

variable [Bus β]

def step (g : Gateway β) : GatewayMove → List GatewayEvent × Gateway β
  | .connect peer => if g.acceptLoop = .accepting then g.accept peer else ([], g)
  | .refuse i isWritable => g.carryOutRefusal i isWritable
  | .setWritable c isWritable => ([], g.mapLink c fun link => { link with isWritable })
  | .read c bytes => g.read c bytes
  | .readEnd c => g.readEnd c
  | .publish c => g.publish c
  | .stopReader c => g.stopReader c
  | .leave c => g.leave c
  | .stopAccepting => g.stopAccepting
  | .closeNext => g.closeNext
  | .join => g.join
  | .poll => (g.dispatcher.poll.1.map .dispatched, { g with dispatcher := g.dispatcher.poll.2 })
  | .work job =>
    ((g.dispatcher.work job).1.map .dispatched, { g with dispatcher := (g.dispatcher.work job).2 })
  | .shutdown => g.shutdown
  | .abandon => ([], g.signal .abandoned)
  | .complete => g.complete

def run (g : Gateway β) : List GatewayMove → List GatewayEvent × Gateway β
  | [] => ([], g)
  | move :: schedule =>
    let (events, g) := g.step move
    let (later, g) := g.run schedule
    (events ++ later, g)

/-- A schedule may be cut anywhere. -/
theorem run_append (g : Gateway β) (first second : List GatewayMove) :
    g.run (first ++ second) =
      ((g.run first).1 ++ ((g.run first).2.run second).1, ((g.run first).2.run second).2) := by
  induction first generalizing g with
  | nil => simp [run]
  | cons move rest ih => simp [run, ih]

end Gateway

/-! ## Configurations that can be run -/

/-- Whether no activity of a gateway with this configuration asks for more than any machine can
    provide. -/
def GatewayConfig.isRunnable (c : GatewayConfig) : Bool :=
  max c.queueCapacity 1 ≤ PacketQueue.maxCapacity && c.readBufferSize ≤ maxBufferSize

end KnxGateway
