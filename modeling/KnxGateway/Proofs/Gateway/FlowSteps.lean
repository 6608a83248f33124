import KnxGateway.Proofs.Gateway.Service

set_option autoImplicit false

/-! # The way from the readers to the dispatcher

A piece of a stream is on its way from the moment a reader reads it until the dispatcher takes it:
first the reader holds it and waits for room, then it waits in the queue. Most moves of a gateway
bring no piece any further, and what little they can do to the way is said once for all of them.
The others are a read, a packet that is handed on, and a turn of the loop of the dispatcher. -/

namespace KnxGateway

/-! ## What is under way -/

namespace GatewayEvent

/-- The pieces of the stream of a connection that the dispatcher took, in order. -/
def takenFrom (events : List GatewayEvent) (c : ConnectionId) : List (List UInt8) :=
  (packetsFrom (DispatchEvent.taken (dispatches events)) c).map Packet.bytes

variable {events later : List GatewayEvent} {c : ConnectionId}

theorem takenFrom_append :
    takenFrom (events ++ later) c = takenFrom events c ++ takenFrom later c := by
  rw [takenFrom, dispatches_append, DispatchEvent.taken, List.filterMap_append, packetsFrom_append,
    List.map_append]
  rfl

/-- Events of which the way from the readers to the dispatcher sees nothing. -/
structure AreIdle (events : List GatewayEvent) : Prop where
  taken : DispatchEvent.taken (dispatches events) = []
  received : ∀ c, receivedFrom events c = []

namespace AreIdle

theorem takenFrom_eq (h : AreIdle events) (c : ConnectionId) : takenFrom events c = [] := by
  rw [takenFrom, h.taken]
  rfl

/-- No packet is taken, with whatever fault. -/
theorem took_not_mem (h : AreIdle events) (p : Packet) (fault : Option FormatError) :
    .took p fault ∉ dispatches events := by
  intro hmem
  have hp : p ∈ DispatchEvent.taken (dispatches events) :=
    List.mem_filterMap.2 ⟨_, hmem, rfl⟩
  rw [h.taken] at hp
  cases hp

theorem nil : AreIdle [] :=
  ⟨rfl, fun _ => rfl⟩

/-- Events that are neither of the dispatcher nor of a read. -/
theorem of_forall (hdispatched : ∀ event ∈ events, event.dispatched? = none)
    (hreceived : ∀ c, ∀ event ∈ events, event.received? c = none) : AreIdle events := by
  refine ⟨?_, fun c => List.filterMap_eq_nil_iff.2 (hreceived c)⟩
  rw [dispatches, List.filterMap_eq_nil_iff.2 hdispatched]
  rfl

end AreIdle

end GatewayEvent

/-! ## Parts of the gateway -/

/-- Whether a move neither brings new bytes nor tells the gateway to stop. -/
def GatewayMove.isCalm : GatewayMove → Bool
  | .read _ _ | .shutdown | .abandon => false
  | _ => true

namespace Gateway

variable {β : Type} {g g' g'' : Gateway β} {c x : ConnectionId} {link : Link}

/-- What the reader of a connection has read and not yet handed on. -/
def held (g : Gateway β) (c : ConnectionId) : List (List UInt8) :=
  (g.links.get? c).elim [] fun link => link.reader.pending

/-- What waits in the queue of a connection. -/
def waitingFrom (g : Gateway β) (c : ConnectionId) : List (List UInt8) :=
  (packetsFrom g.dispatcher.queue.waiting c).map Packet.bytes

/-- The loop of the reader of a connection is over. -/
def HasEnded (g : Gateway β) (c : ConnectionId) : Prop :=
  ∃ link, g.links.get? c = some link ∧ link.reader.isLooping = false

theorem held_of_get? (h : g.links.get? c = some link) : g.held c = link.reader.pending := by
  rw [held, h]
  rfl

theorem held_congr (h : g'.links = g.links) : g'.held = g.held := by
  funext c
  rw [held, held, h]

theorem hasEnded_congr (h : g'.links = g.links) : g'.HasEnded c ↔ g.HasEnded c := by
  rw [HasEnded, HasEnded, h]

theorem pending_of_not_isLooping {reader : ReaderPhase} (h : reader.isLooping = false) :
    reader.pending = [] := by
  cases reader <;> first | rfl | cases h

/-- What readers hold after the reader of a connection has gone on. -/
theorem held_setReader (hlink : g.links.get? c = some link) (reader : ReaderPhase) :
    (g.setReader c reader).held = Function.update g.held c reader.pending := by
  funext x
  change ((g.links.modify c fun link => { link with reader }).get? x).elim [] _ = _
  rw [Links.get?_modify]
  by_cases heq : c = x
  · rw [if_pos heq, ← heq, hlink, Function.update_self]
    rfl
  · rw [if_neg heq, Function.update_of_ne (Ne.symm heq)]
    rfl

/-- A reader that has ended has ended for good, and others are not concerned. -/
theorem hasEnded_mapLink {change : Link → Link}
    (h : ∀ link, link.reader.isLooping = false → (change link).reader.isLooping = false)
    (hended : g.HasEnded x) : (g.mapLink c change).HasEnded x := by
  obtain ⟨link, hlink, hover⟩ := hended
  have hget : (g.mapLink c change).links.get? x =
      if c = x then (g.links.get? x).map change else g.links.get? x := Links.get?_modify
  rw [hlink] at hget
  split at hget
  · exact ⟨_, hget, h link hover⟩
  · exact ⟨link, hget, hover⟩

/-- What the reader of one connection does is no concern of another. -/
theorem hasEnded_setReader_of_ne {reader : ReaderPhase} (hne : c ≠ x) (hended : g.HasEnded x) :
    (g.setReader c reader).HasEnded x := by
  obtain ⟨link, hlink, hover⟩ := hended
  refine ⟨link, ?_, hover⟩
  change (g.links.modify c _).get? x = _
  rw [Links.get?_modify, if_neg hne]
  exact hlink

/-! ## Moves that hand nothing on -/

/-- No packet is read, handed on or taken. A reader may give up what it holds if the gateway is to
    stop, and then reads no more. -/
structure Idles (g g' : Gateway β) : Prop where
  config : g'.config = g.config
  waiting : g'.dispatcher.queue.waiting = g.dispatcher.queue.waiting
  capacity : g'.dispatcher.queue.capacity = g.dispatcher.queue.capacity
  ended : ∀ c, g.HasEnded c → g'.HasEnded c
  held : ∀ c, g'.held c = g.held c ∨ g.isStopping = true ∧ g'.held c = [] ∧ g'.HasEnded c

namespace Idles

theorem of_links (hconfig : g'.config = g.config)
    (hwaiting : g'.dispatcher.queue.waiting = g.dispatcher.queue.waiting)
    (hcapacity : g'.dispatcher.queue.capacity = g.dispatcher.queue.capacity)
    (hlinks : g'.links = g.links) : g.Idles g' :=
  ⟨hconfig, hwaiting, hcapacity, fun _ => (hasEnded_congr hlinks).2,
    fun _ => Or.inl (by rw [held_congr hlinks])⟩

theorem refl (g : Gateway β) : g.Idles g :=
  of_links rfl rfl rfl rfl

theorem congr (h : g.Idles g') (hconfig : g''.config = g'.config)
    (hwaiting : g''.dispatcher.queue.waiting = g'.dispatcher.queue.waiting)
    (hcapacity : g''.dispatcher.queue.capacity = g'.dispatcher.queue.capacity)
    (hlinks : g''.links = g'.links) : g.Idles g'' := by
  refine ⟨hconfig.trans h.config, hwaiting.trans h.waiting, hcapacity.trans h.capacity,
    fun c hended => (hasEnded_congr hlinks).2 (h.ended c hended), fun c => ?_⟩
  rw [held_congr hlinks, hasEnded_congr hlinks]
  exact h.held c

/-- The reader of a connection goes on as it was. -/
theorem mapLink (h : g.Idles g') {change : Link → Link}
    (hreader : ∀ link, (change link).reader = link.reader) : g.Idles (g'.mapLink c change) := by
  have hheld : (g'.mapLink c change).held = g'.held := by
    funext x
    change ((g'.links.modify c change).get? x).elim [] _ = _
    rw [Links.get?_modify]
    split
    · rw [Gateway.held]
      cases g'.links.get? x with
      | none => rfl
      | some link => exact congrArg ReaderPhase.pending (hreader link)
    · rfl
  have hended : ∀ x, g'.HasEnded x → (g'.mapLink c change).HasEnded x := fun x =>
    hasEnded_mapLink fun link hover => by rw [hreader]; exact hover
  refine ⟨h.config, h.waiting, h.capacity, fun x hx => hended x (h.ended x hx), fun x => ?_⟩
  rw [hheld]
  exact (h.held x).imp_right fun ⟨hstop, hnone, hx⟩ => ⟨hstop, hnone, hended x hx⟩

/-- The loop of a reader ends. -/
theorem setReader (hlink : g.links.get? c = some link) {reader : ReaderPhase}
    (hreader : reader.isLooping = false)
    (hpending : link.reader.pending = [] ∨ g.isStopping = true) :
    g.Idles (g.setReader c reader) := by
  refine ⟨rfl, rfl, rfl, fun x => hasEnded_mapLink fun _ _ => hreader, fun x => ?_⟩
  rw [held_setReader hlink, pending_of_not_isLooping hreader]
  by_cases heq : x = c
  · rw [heq, Function.update_self, held_of_get? hlink]
    refine hpending.imp Eq.symm fun hstop => ⟨hstop, rfl, { link with reader }, ?_, hreader⟩
    change (g.links.modify c fun link => { link with reader }).get? c = _
    rw [Links.get?_modify, if_pos rfl, hlink]
    rfl
  · rw [Function.update_of_ne heq]
    exact Or.inl rfl

/-- The reader of a new connection has not read anything. -/
theorem withConnection (peer : SocketAddress) : g.Idles (g.withConnection peer) := by
  have hpending : (g.newLink peer).reader.pending = [] := by
    change (ReaderPhase.start g.config.readBufferSize).pending = []
    unfold ReaderPhase.start
    split <;> rfl
  refine ⟨rfl, rfl, rfl, fun x hended => ?_, fun x => Or.inl ?_⟩
  · obtain ⟨before, hbefore, hover⟩ := hended
    refine ⟨before, ?_, hover⟩
    rw [get?_withConnection, if_neg, hbefore]
    rintro rfl
    rw [get?_length] at hbefore
    cases hbefore
  · rw [Gateway.held, get?_withConnection]
    split
    · next heq =>
      rw [heq, Gateway.held, get?_length]
      exact hpending
    · rfl

theorem signal (h : g.Idles g') (stop : StopSignal) : g.Idles (g'.signal stop) := by
  unfold Gateway.signal
  split
  · exact h
  · exact h.congr rfl rfl rfl rfl

end Idles

/-! ## All moves -/

theorem isStopping_signal (g : Gateway β) {stop : StopSignal} (hstop : stop.stops = true) :
    (g.signal stop).isStopping = true := by
  unfold Gateway.signal
  split
  · next h => exact h
  · exact hstop

/-- All that a move can do to the packets under way. The first argument says whether the move is
    calm. -/
inductive FlowStep [Bus β] (g : Gateway β) : Bool → List GatewayEvent → Gateway β → Prop where
  /-- No packet comes any further. -/
  | idle {isCalm : Bool} {events : List GatewayEvent} {g' : Gateway β} :
      GatewayEvent.AreIdle events → g.Idles g' → g'.isStopping = g.isStopping →
      FlowStep g isCalm events g'
  /-- The gateway is told to stop. -/
  | stop {events : List GatewayEvent} {g' : Gateway β} :
      GatewayEvent.AreIdle events → g.Idles g' → g'.isStopping = true →
      FlowStep g false events g'
  /-- A reader reads. -/
  | read (c : ConnectionId) (link : Link) (bytes : List UInt8) : g.links.get? c = some link →
      link.reader = .reading → bytes ≠ [] → bytes.length ≤ g.config.readBufferSize →
      FlowStep g false [.received c bytes]
        ((g.record .packetsReceived).setReader c (.publishing bytes))
  /-- A reader hands on what it holds. -/
  | publish {isCalm : Bool} (c : ConnectionId) (link : Link) (bytes : List UInt8)
      (queue : PacketQueue) : g.links.get? c = some link → link.reader = .publishing bytes →
      g.dispatcher.queue.publish? ⟨c, bytes⟩ = some queue →
      FlowStep g isCalm [.published ⟨c, bytes⟩] ((g.setQueue queue).setReader c .reading)
  /-- The loop of the dispatcher takes a turn. -/
  | poll {isCalm : Bool} : FlowStep g isCalm (g.dispatcher.poll.1.map .dispatched)
      { g with dispatcher := g.dispatcher.poll.2 }

namespace FlowStep

variable [Bus β] {isCalm : Bool}

theorem refl (g : Gateway β) : g.FlowStep isCalm [] g :=
  .idle .nil (.refl g) rfl

/-- The loop of a reader ends. -/
theorem of_setReader (hlink : g.links.get? c = some link) {reader : ReaderPhase}
    (hreader : reader.isLooping = false)
    (hpending : link.reader.pending = [] ∨ g.isStopping = true) :
    g.FlowStep isCalm [] (g.setReader c reader) :=
  .idle .nil (.setReader hlink hreader hpending) rfl

theorem of_accept (peer : Option SocketAddress) :
    g.FlowStep isCalm (g.accept peer).1 (g.accept peer).2 := by
  rcases accept_cases g peer with ⟨admitted, -, haccept⟩ | haccept
  · rw [haccept]
    exact .idle ⟨rfl, fun _ => rfl⟩ (.withConnection admitted) rfl
  · rw [haccept]
    exact .idle ⟨rfl, fun _ => rfl⟩ (.of_links rfl rfl rfl rfl) rfl

end FlowStep

theorem Outcome.flowStep [Bus β] {move : GatewayMove} {events : List GatewayEvent}
    (h : g.Outcome move events g') (horderly : g.IsOrderly) :
    g.FlowStep move.isCalm events g' := by
  cases h with
  | nothing => exact .refl g
  | accept peer => exact .of_accept peer
  | refuse => exact .idle ⟨rfl, fun _ => rfl⟩ (.of_links rfl rfl rfl rfl) rfl
  | setWritable => exact .idle .nil ((Idles.refl g).mapLink fun _ => rfl) rfl
  | read c link bytes hlink hreading hnonempty hfits =>
    exact .read c link bytes hlink hreading hnonempty hfits
  | readEnd c link hlink hreading =>
    exact .of_setReader hlink rfl (Or.inl (by rw [hreading]; rfl))
  | publish c link bytes queue hlink hpublishing _ hqueue =>
    exact .publish c link bytes queue hlink hpublishing hqueue
  | giveUp c link bytes hlink _ hended =>
    -- without a dispatcher the gateway is to stop, so that the reader may give up
    refine .of_setReader hlink rfl (Or.inr (horderly.running.resolve_left fun hrunning => ?_))
    rw [hended] at hrunning
    cases hrunning
  | stopReader c link hlink hstopping => exact .of_setReader hlink rfl (Or.inr hstopping)
  | deregister c link hlink hleaving =>
    have hidles : g.Idles (g.setReader c .closing) :=
      .setReader hlink rfl (Or.inl (by rw [hleaving]; rfl))
    exact .idle ⟨rfl, fun _ => rfl⟩ (hidles.congr rfl rfl rfl rfl) rfl
  | close c link hlink hclosing =>
    have hidles : g.Idles (g.setReader c .finished) :=
      .setReader hlink rfl (Or.inl (by rw [hclosing]; rfl))
    exact .idle ⟨rfl, fun _ => rfl⟩ (hidles.mapLink fun _ => rfl) rfl
  | stopAccepting =>
    refine .idle (.of_forall (fun event hevent => ?_) fun c event hevent => ?_)
      (.of_links rfl rfl rfl rfl) rfl <;>
    · obtain ⟨x, -, rfl⟩ := List.mem_map.1 hevent
      rfl
  | closeNext c rest =>
    have hidles : g.Idles { g with acceptLoop := .closing rest } := .of_links rfl rfl rfl rfl
    exact .idle ⟨rfl, fun _ => rfl⟩ (hidles.mapLink fun _ => rfl) rfl
  | await | join => exact .idle .nil (.of_links rfl rfl rfl rfl) rfl
  | poll => exact .poll
  | work i job effect task world _ hstep =>
    exact .idle ⟨rfl, fun _ => rfl⟩ (.of_links rfl rfl rfl (Links.outlets_of_step hstep)) rfl
  | shutdown =>
    have hidles : g.Idles { g with state := .stopping } := .of_links rfl rfl rfl rfl
    exact .stop ⟨rfl, fun _ => rfl⟩ (hidles.signal .raised) (isStopping_signal _ rfl)
  | abandon => exact .stop .nil ((Idles.refl g).signal .abandoned) (isStopping_signal g rfl)
  | complete => exact .idle ⟨rfl, fun _ => rfl⟩ (.of_links rfl rfl rfl rfl) rfl

/-- Every move is one of these. -/
theorem flowStep_step [Bus β] (horderly : g.IsOrderly) (move : GatewayMove) :
    g.FlowStep move.isCalm (g.step move).1 (g.step move).2 :=
  (g.outcome_step move).flowStep horderly

end Gateway

end KnxGateway
