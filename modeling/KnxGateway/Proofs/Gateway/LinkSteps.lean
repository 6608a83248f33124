import KnxGateway.Proofs.Gateway.Outcomes

set_option autoImplicit false

/-! # What can happen to a connection

A gateway serves many connections at once. Seen from a single connection, most moves are of no
interest: they concern other connections, or they change nothing. The few that remain are listed
here once and for all, together with the bytes that the reader takes from its stream and the
packets that it hands on. Whether the gateway is stopping, and what follows from that, is the same
for all connections. -/

namespace KnxGateway

/-! ## What can be seen of a connection -/

namespace GatewayEvent

/-- What the dispatcher did, if the event is of that kind. -/
def dispatched? : GatewayEvent → Option DispatchEvent
  | dispatched event => some event
  | _ => none

/-- The bytes that the reader of a connection read, if the event is of that kind. -/
def received? (c : ConnectionId) : GatewayEvent → Option (List UInt8)
  | received c' bytes => if c' = c then some bytes else none
  | _ => none

/-- What the dispatcher did, in order. -/
def dispatches (events : List GatewayEvent) : List DispatchEvent :=
  events.filterMap dispatched?

/-- The pieces of the stream of a connection that its reader read, in order. -/
def receivedFrom (events : List GatewayEvent) (c : ConnectionId) : List (List UInt8) :=
  events.filterMap (received? c)

variable {events later : List GatewayEvent} {c : ConnectionId}

theorem dispatches_append :
    dispatches (events ++ later) = dispatches events ++ dispatches later :=
  List.filterMap_append

theorem receivedFrom_append :
    receivedFrom (events ++ later) c = receivedFrom events c ++ receivedFrom later c :=
  List.filterMap_append

theorem dispatches_map (events : List DispatchEvent) :
    dispatches (events.map .dispatched) = events := by
  rw [dispatches, List.filterMap_map]
  exact List.filterMap_some

/-- What does not look at the dispatcher sees nothing of it. -/
theorem filterMap_map_dispatched {α : Type} {f : GatewayEvent → Option α}
    (h : ∀ event, f (.dispatched event) = none) (events : List DispatchEvent) :
    (events.map .dispatched).filterMap f = [] := by
  rw [List.filterMap_eq_nil_iff]
  intro event hevent
  obtain ⟨dispatched, -, rfl⟩ := List.mem_map.1 hevent
  exact h dispatched

theorem receivedFrom_map (events : List DispatchEvent) :
    receivedFrom (events.map .dispatched) c = [] :=
  filterMap_map_dispatched (fun _ => rfl) events

end GatewayEvent

/-- The packets of a connection, without those of others. -/
def packetsFrom (packets : List Packet) (c : ConnectionId) : List Packet :=
  packets.filter fun p => p.connection = c

/-! ## Steps of one connection -/

/-- A step of a connection whose stream does not cease to accept bytes, together with the bytes
    that its reader read and those that it handed on. -/
inductive LinkStep : Option Link → Option Link → List (List UInt8) → List (List UInt8) → Prop where
  /-- Nothing happens to the connection. -/
  | stay (link : Option Link) : LinkStep link link [] []
  /-- It is accepted. -/
  | connect (link : Link) : link.isWritable = true →
      (∀ bytes, link.reader ≠ .publishing bytes) → LinkStep none (some link) [] []
  /-- Its stream begins to accept bytes. -/
  | setWritable (link : Link) : LinkStep (some link) (some { link with isWritable := true }) [] []
  /-- Its reader reads. -/
  | read (link : Link) (bytes : List UInt8) : link.reader = .reading →
      LinkStep (some link) (some { link with reader := .publishing bytes }) [bytes] []
  /-- Its reader hands on what it read. -/
  | publish (link : Link) (bytes : List UInt8) : link.reader = .publishing bytes →
      LinkStep (some link) (some { link with reader := .reading }) [] [bytes]
  /-- Its reader ends, or it is closed. -/
  | wane (link link' : Link) : link'.reader = link.reader ∨ link'.reader.isLooping = false →
      (link'.isOpen = true → link.isOpen = true) → link'.isWritable = link.isWritable →
      LinkStep (some link) (some link') [] []

namespace Links

variable {l : Links} {c x : ConnectionId} {change : Link → Link}

theorem get?_modify : (l.modify c change).get? x =
    if c = x then (l.get? x).map change else l.get? x := by
  simp only [get?, modify, List.getElem?_modify]
  split <;> simp

/-- A change of one connection is a step of that connection, and of no other. -/
theorem linkStep_modify (change : Link → Link) {link : Link} (hlink : l.get? c = some link)
    {read published : List (List UInt8)}
    (h : LinkStep (some link) (some (change link)) read published) :
    LinkStep (l.get? x) ((l.modify c change).get? x)
      (if c = x then read else []) (if c = x then published else []) := by
  rw [get?_modify]
  split
  · next heq =>
    rw [← heq, hlink]
    exact h
  · exact .stay _

end Links

/-- Whether a move is one of the dispatcher or of a job. -/
def GatewayMove.isDispatch : GatewayMove → Bool
  | .poll | .work _ => true
  | _ => false

namespace Gateway

variable {β : Type} {g g' : Gateway β} {events : List GatewayEvent} {c x : ConnectionId}

/-- One connection makes a step, and the dispatcher and its jobs do not act. -/
structure MakesLinkStep (g : Gateway β) (x : ConnectionId)
    (result : List GatewayEvent × Gateway β) : Prop where
  dispatches : GatewayEvent.dispatches result.1 = []
  registry : result.2.dispatcher.registry = g.dispatcher.registry
  jobs : result.2.dispatcher.jobs = g.dispatcher.jobs
  step : ∃ published,
    LinkStep (g.links.get? x) (result.2.links.get? x) (GatewayEvent.receivedFrom result.1 x)
      published ∧
    packetsFrom result.2.dispatcher.queue.waiting x =
      packetsFrom g.dispatcher.queue.waiting x ++ published.map (Packet.mk x)

namespace MakesLinkStep

/-- A move that touches no connection and no queue. -/
theorem of_quiet (hdispatches : GatewayEvent.dispatches events = [])
    (hreceived : GatewayEvent.receivedFrom events x = [])
    (hregistry : g'.dispatcher.registry = g.dispatcher.registry)
    (hjobs : g'.dispatcher.jobs = g.dispatcher.jobs) (hlinks : g'.links = g.links)
    (hwaiting : g'.dispatcher.queue.waiting = g.dispatcher.queue.waiting) :
    MakesLinkStep g x (events, g') := by
  refine ⟨hdispatches, hregistry, hjobs, [], ?_, ?_⟩
  · rw [hreceived, hlinks]
    exact .stay _
  · rw [hwaiting, List.map_nil, List.append_nil]

theorem refl (g : Gateway β) (x : ConnectionId) : MakesLinkStep g x ([], g) :=
  of_quiet rfl rfl rfl rfl rfl rfl

/-- A move that raises a signal. -/
theorem of_signal {stop : StopSignal} (hdispatches : GatewayEvent.dispatches events = [])
    (hreceived : GatewayEvent.receivedFrom events x = [])
    (hregistry : g'.dispatcher.registry = g.dispatcher.registry)
    (hjobs : g'.dispatcher.jobs = g.dispatcher.jobs) (hlinks : g'.links = g.links)
    (hwaiting : g'.dispatcher.queue.waiting = g.dispatcher.queue.waiting) :
    MakesLinkStep g x (events, g'.signal stop) := by
  unfold signal
  split <;> exact .of_quiet hdispatches hreceived hregistry hjobs hlinks hwaiting

/-- A move that changes one connection, if there is one, and neither reads nor publishes. -/
theorem of_mapLink {change : Link → Link}
    (hstep : c = x → ∀ link, LinkStep (some link) (some (change link)) [] [])
    (hdispatches : GatewayEvent.dispatches events = [])
    (hreceived : GatewayEvent.receivedFrom events x = []) :
    MakesLinkStep g x (events, g.mapLink c change) := by
  refine ⟨hdispatches, rfl, rfl, [], ?_, (List.append_nil _).symm⟩
  rw [hreceived]
  change LinkStep (g.links.get? x) ((g.links.modify c change).get? x) [] []
  rw [Links.get?_modify]
  split
  · next heq =>
    cases hlink : g.links.get? x with
    | none => exact .stay none
    | some link => exact hstep heq link
  · exact .stay _

/-- A move that ends the loop of a reader. -/
theorem of_setReader {reader : ReaderPhase} (hreader : reader.isLooping = false)
    (hdispatches : GatewayEvent.dispatches events = [])
    (hreceived : GatewayEvent.receivedFrom events x = []) :
    MakesLinkStep g x (events, g.setReader c reader) :=
  of_mapLink (fun _ link => .wane link _ (Or.inr hreader) (fun h => h) rfl) hdispatches hreceived

/-- A move that closes a connection. -/
theorem of_close (hdispatches : GatewayEvent.dispatches events = [])
    (hreceived : GatewayEvent.receivedFrom events x = []) :
    MakesLinkStep g x (events, g.mapLink c fun link => { link with isOpen := false }) :=
  of_mapLink (fun _ link => .wane link _ (Or.inl rfl) (fun h => by cases h) rfl)
    hdispatches hreceived

end MakesLinkStep

theorem makesLinkStep_accept (peer : Option SocketAddress) :
    MakesLinkStep g x (g.accept peer) := by
  rcases accept_cases g peer with ⟨admitted, -, haccept⟩ | haccept
  · rw [haccept]
    refine ⟨rfl, rfl, rfl, [], ?_, (List.append_nil _).symm⟩
    change LinkStep (g.links.get? x) ((g.withConnection admitted).links.get? x) [] []
    rw [get?_withConnection]
    split
    · next heq =>
      rw [heq, get?_length]
      refine .connect _ rfl fun bytes => ?_
      change ReaderPhase.start g.config.readBufferSize ≠ _
      unfold ReaderPhase.start
      split <;> simp
    · exact .stay _
  · rw [haccept]
    exact .of_quiet rfl rfl rfl rfl rfl rfl

namespace MakesLinkStep

variable {link : Link} {bytes : List UInt8}

theorem of_read (hlink : g.links.get? c = some link) (hreading : link.reader = .reading) :
    MakesLinkStep g x
      ([.received c bytes], (g.record .packetsReceived).setReader c (.publishing bytes)) := by
  refine ⟨rfl, rfl, rfl, [], ?_, (List.append_nil _).symm⟩
  have h := Links.linkStep_modify (x := x)
    (fun link => { link with reader := .publishing bytes }) hlink (.read link bytes hreading)
  simp only [ite_self] at h
  have hreceived : GatewayEvent.receivedFrom [.received c bytes] x =
      if c = x then [bytes] else [] := by
    by_cases heq : c = x <;> simp [GatewayEvent.receivedFrom, GatewayEvent.received?, heq]
  rw [hreceived]
  exact h

/-- The packet goes to the end of the queue, behind those of others. -/
theorem of_publish (hlink : g.links.get? c = some link)
    (hpublishing : link.reader = .publishing bytes) {queue : PacketQueue}
    (hqueue : g.dispatcher.queue.publish? ⟨c, bytes⟩ = some queue) :
    MakesLinkStep g x ([.published ⟨c, bytes⟩], (g.setQueue queue).setReader c .reading) := by
  obtain ⟨-, rfl⟩ := PacketQueue.publish?_eq_some_iff.1 hqueue
  refine ⟨rfl, rfl, rfl, if c = x then [bytes] else [], ?_, ?_⟩
  · have h := Links.linkStep_modify (x := x)
      (fun link => { link with reader := .reading }) hlink (.publish link bytes hpublishing)
    simp only [ite_self] at h
    exact h
  · change packetsFrom (g.dispatcher.queue.waiting ++ [⟨c, bytes⟩]) x = _
    rw [packetsFrom, List.filter_append]
    by_cases heq : c = x <;> simp [packetsFrom, heq]

/-- Two changes of the same connection make one step. -/
theorem of_leave (hlink : g.links.get? c = some link) : MakesLinkStep g x
    ([.closed c], (g.setReader c .finished).mapLink c fun l => { l with isOpen := false }) := by
  refine ⟨rfl, rfl, rfl, [], ?_, (List.append_nil _).symm⟩
  change LinkStep (g.links.get? x) (((g.links.modify c _).modify c _).get? x) [] []
  rw [Links.get?_modify, Links.get?_modify]
  split
  · next heq =>
    rw [← heq, hlink]
    exact .wane _ _ (Or.inr rfl) (fun h => by cases h) rfl
  · exact .stay _

end MakesLinkStep

theorem Outcome.makesLinkStep [Bus β] {move : GatewayMove} (h : g.Outcome move events g')
    (hmove : move.isDispatch = false) (hwritable : move ≠ .setWritable x false) :
    MakesLinkStep g x (events, g') := by
  cases h with
  | poll | work => cases hmove
  | nothing => exact .refl g x
  | accept peer => exact makesLinkStep_accept peer
  | refuse => exact .of_quiet rfl rfl rfl rfl rfl rfl
  | setWritable c isWritable =>
    refine .of_mapLink (fun heq link => ?_) rfl rfl
    cases isWritable with
    | true => exact .setWritable link
    -- the one move that is left out
    | false => exact absurd (heq ▸ rfl) hwritable
  | read c link bytes hlink hreading => exact .of_read hlink hreading
  | publish c link bytes queue hlink hpublishing _ hqueue =>
    exact .of_publish hlink hpublishing hqueue
  | readEnd | giveUp | stopReader => exact .of_setReader rfl rfl rfl
  | deregister c =>
    have h : MakesLinkStep g x ([.deregistered c], g.setReader c .closing) :=
      .of_setReader rfl rfl rfl
    exact ⟨h.dispatches, h.registry, h.jobs, h.step⟩
  | close c link hlink => exact .of_leave hlink
  | stopAccepting =>
    have hquiet : ∀ links : List ConnectionId,
        GatewayEvent.dispatches (links.map .deregistered) = [] ∧
          GatewayEvent.receivedFrom (links.map .deregistered) x = [] := by
      intro links
      constructor <;>
      · refine List.filterMap_eq_nil_iff.2 fun event hevent => ?_
        obtain ⟨c, -, rfl⟩ := List.mem_map.1 hevent
        rfl
    exact .of_quiet (hquiet _).1 (hquiet _).2 rfl rfl rfl rfl
  | closeNext c =>
    have h : MakesLinkStep g x ([.closed c], g.mapLink c fun l => { l with isOpen := false }) :=
      .of_close rfl rfl
    exact ⟨h.dispatches, h.registry, h.jobs, h.step⟩
  | await | join | complete => exact .of_quiet rfl rfl rfl rfl rfl rfl
  | shutdown | abandon => exact .of_signal rfl rfl rfl rfl rfl rfl

/-- Every move but those of the dispatcher and its jobs is a step of a connection, as long as its
    stream goes on to accept bytes. -/
theorem makesLinkStep_step [Bus β] {move : GatewayMove} (hmove : move.isDispatch = false)
    (hwritable : move ≠ .setWritable x false) : MakesLinkStep g x (g.step move) :=
  (g.outcome_step move).makesLinkStep hmove hwritable

/-! ## Stopping -/

/-- What a gateway does only when it stops: its accept loop ends, its queue is closed, and its
    dispatcher takes no more packets. -/
structure IsOrderly (g : Gateway β) : Prop where
  hasRoom : 0 < g.dispatcher.queue.capacity
  accepting : g.acceptLoop = .accepting ∨ g.isStopping = true
  queue : g.dispatcher.queue.closed = false ∨ g.isStopping = true
  running : g.dispatcher.running = true ∨ g.isStopping = true

namespace IsOrderly

/-- Only the queue, the signal and the two loops matter. -/
theorem congr (h : g.IsOrderly)
    (hcapacity : g'.dispatcher.queue.capacity = g.dispatcher.queue.capacity)
    (hclosed : g'.dispatcher.queue.closed = g.dispatcher.queue.closed)
    (hrunning : g'.dispatcher.running = g.dispatcher.running)
    (hstop : g'.dispatcher.stop = g.dispatcher.stop) (haccept : g'.acceptLoop = g.acceptLoop) :
    g'.IsOrderly := by
  obtain ⟨hasRoom, accepting, queue, running⟩ := h
  simp only [isStopping] at accepting queue running
  constructor <;> simp only [isStopping, hcapacity, hclosed, hrunning, hstop, haccept] <;> assumption

/-- A gateway that stops may do all of it. -/
theorem of_isStopping (hcapacity : 0 < g.dispatcher.queue.capacity) (hstop : g.isStopping = true) :
    g.IsOrderly :=
  ⟨hcapacity, Or.inr hstop, Or.inr hstop, Or.inr hstop⟩

theorem signal (h : g.IsOrderly) {stop : StopSignal} (hstop : stop.stops = true) :
    (g.signal stop).IsOrderly := by
  unfold Gateway.signal
  split
  · exact h
  · exact of_isStopping h.hasRoom hstop

theorem publish (h : g.IsOrderly) {p : Packet} {queue : PacketQueue}
    (hqueue : g.dispatcher.queue.publish? p = some queue) :
    ((g.setQueue queue).setReader c .reading).IsOrderly := by
  obtain ⟨-, rfl⟩ := PacketQueue.publish?_eq_some_iff.1 hqueue
  exact h.congr rfl rfl rfl rfl rfl

theorem poll [Bus β] (h : g.IsOrderly) :
    { g with dispatcher := g.dispatcher.poll.2 }.IsOrderly := by
  obtain ⟨-, hstop, -, -⟩ := Dispatcher.poll_frame g.dispatcher
  rcases Dispatcher.poll_takes g.dispatcher with ⟨running, hrunning, hpoll⟩ |
    ⟨p, queue, fault, started, htake, -, hqueue, hrunning, -⟩
  · rw [hpoll]
    refine ⟨h.hasRoom, h.accepting, h.queue, ?_⟩
    -- the loop goes on, or it has reasons not to
    rcases hrunning with htrue | hfalse | hraised | hclosed
    · exact Or.inl htrue
    · exact Or.inr (h.running.resolve_left (by simp [hfalse]))
    · exact Or.inr hraised
    · exact Or.inr (h.queue.resolve_left (by simp [hclosed]))
  · obtain ⟨-, hcapacity, hclosed⟩ := PacketQueue.take?_eq_some_iff.1 htake
    exact h.congr (by rw [hqueue, hcapacity]) (by rw [hqueue, hclosed]) hrunning hstop rfl

theorem outcome [Bus β] (h : g.IsOrderly) {move : GatewayMove}
    (houtcome : g.Outcome move events g') : g'.IsOrderly := by
  -- the accept loop closes connections and returns only after it has heeded the signal
  have hstopping : g.acceptLoop ≠ .accepting → g.isStopping = true := h.accepting.resolve_left
  cases houtcome with
  | nothing => exact h
  | accept peer =>
    rcases accept_cases g peer with ⟨admitted, -, haccept⟩ | haccept <;>
    · rw [haccept]
      exact h.congr rfl rfl rfl rfl rfl
  | publish c link bytes queue _ _ _ hqueue => exact h.publish hqueue
  | poll => exact h.poll
  | stopAccepting hstop => exact of_isStopping h.hasRoom hstop
  | closeNext c rest hphase => exact of_isStopping h.hasRoom (hstopping (by simp [hphase]))
  | await hphase => exact of_isStopping h.hasRoom (hstopping (by simp [hphase]))
  | join hphase => exact of_isStopping h.hasRoom (hstopping (by simp [hphase]))
  | shutdown =>
    have hphase : { g with state := .stopping }.IsOrderly := h.congr rfl rfl rfl rfl rfl
    exact hphase.signal (show StopSignal.raised.stops = true from rfl)
  | abandon => exact h.signal rfl
  | _ => exact h.congr rfl rfl rfl rfl rfl

theorem step [Bus β] (h : g.IsOrderly) (move : GatewayMove) : (g.step move).2.IsOrderly :=
  h.outcome (g.outcome_step move)

theorem run [Bus β] (h : g.IsOrderly) (schedule : List GatewayMove) :
    (g.run schedule).2.IsOrderly :=
  run_induction (motive := fun _ g => g.IsOrderly) [] h fun _ _ move _ h => h.step move

end IsOrderly

end Gateway

end KnxGateway
