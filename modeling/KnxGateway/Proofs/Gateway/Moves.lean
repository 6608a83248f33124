import KnxGateway.Proofs.Gateway.LinkSteps

set_option autoImplicit false

/-! # What a gateway does in one move

Most moves of a gateway bring nothing new into it: connections are closed and taken out of the
registry, readers end, activities heed the stop signal. The others are few. A client is judged, a
refusal is carried out, a reader reads or hands on what it read, the dispatcher takes a packet, or
a job acts. Facts about where the contents of a gateway come from have to look at these only. -/

namespace KnxGateway

namespace GatewayEvent

/-- Whether an event brings nothing new into a gateway. -/
def isQuiet : GatewayEvent → Bool
  | entered _ | deregistered _ | closed _ => true
  | judged _ | registered _ _ | refused _ _ _ | received _ _ | published _ | dispatched _ => false

/-- What does not look at quiet events sees nothing of them. -/
theorem filterMap_of_quiet {α : Type} {f : GatewayEvent → Option α}
    (hf : ∀ event, event.isQuiet = true → f event = none) {events : List GatewayEvent}
    (h : ∀ event ∈ events, event.isQuiet = true) : events.filterMap f = [] :=
  List.filterMap_eq_nil_iff.2 fun event hevent => hf event (h event hevent)

end GatewayEvent

/-- The peer of an allowed client. -/
def Verdict.admitted? : Verdict → Option SocketAddress
  | allowed peer => some peer
  | rejected _ | unresolved => none

namespace Gateway

variable {β : Type} {g g' : Gateway β} {c : ConnectionId}

/-! ## Clients and connections -/

/-- The client that a move brings, if the accept loop accepts it. -/
def arrival? (g : Gateway β) : GatewayMove → Option (Option SocketAddress)
  | .connect peer => if g.acceptLoop = .accepting then some peer else none
  | _ => none

/-- The clients that are accepted in the course of a schedule, in order. -/
def arrivals [Bus β] (g : Gateway β) : List GatewayMove → List (Option SocketAddress)
  | [] => []
  | move :: schedule => (g.arrival? move).toList ++ arrivals (g.step move).2 schedule

/-- The peers of all connections that were ever registered, in order. -/
def peers (g : Gateway β) : List SocketAddress :=
  g.links.toList.map Link.peer

theorem getElem?_peers (g : Gateway β) (c : ConnectionId) :
    g.peers[c]? = (g.links.get? c).map Link.peer :=
  List.getElem?_map

theorem lt_length_peers {link : Link} (h : g.links.get? c = some link) : c < g.peers.length := by
  have hpeer : g.peers[c]? = some link.peer := by rw [getElem?_peers, h]; rfl
  exact (List.getElem?_eq_some_iff.1 hpeer).1

/-- A connection is registered for a client that is allowed, and for no other. -/
theorem peers_accept (g : Gateway β) (peer : Option SocketAddress) :
    (g.accept peer).2.peers =
      g.peers ++ [g.allowList.judge peer].filterMap Verdict.admitted? := by
  unfold accept
  cases g.allowList.judge peer with
  | allowed admitted => exact List.map_append
  | rejected _ | unresolved => exact (List.append_nil _).symm

/-- The reader of a connection has read these bytes and not yet handed them on. -/
def Holds (g : Gateway β) (c : ConnectionId) (bytes : List UInt8) : Prop :=
  ∃ link, g.links.get? c = some link ∧ link.reader = .publishing bytes

theorem peers_mapLink {change : Link → Link} (h : ∀ link, (change link).peer = link.peer) :
    (g.mapLink c change).peers = g.peers := by
  refine List.ext_getElem? fun x => ?_
  rw [getElem?_peers, getElem?_peers]
  change ((g.links.modify c change).get? x).map Link.peer = _
  rw [Links.get?_modify]
  split
  · cases g.links.get? x with
    | none => rfl
    | some link => exact congrArg some (h link)
  · rfl

theorem peers_setReader (g : Gateway β) (c : ConnectionId) (reader : ReaderPhase) :
    (g.setReader c reader).peers = g.peers :=
  peers_mapLink fun _ => rfl

/-- The bytes that a reader holds after a change of a connection are those that the change gives
    it, or it held them before. -/
theorem holds_mapLink {change : Link → Link} {x : ConnectionId} {bytes : List UInt8}
    (h : (g.mapLink c change).Holds x bytes) :
    (c = x ∧ ∃ link, (change link).reader = .publishing bytes ∧ g.links.get? x = some link) ∨
      g.Holds x bytes := by
  obtain ⟨link, hlink, hreader⟩ := h
  change (g.links.modify c change).get? x = some link at hlink
  rw [Links.get?_modify] at hlink
  split at hlink
  · next heq =>
    obtain ⟨before, hbefore, rfl⟩ := Option.map_eq_some_iff.1 hlink
    exact Or.inl ⟨heq, before, hreader, hbefore⟩
  · exact Or.inr ⟨link, hlink, hreader⟩

/-! ## Moves that bring nothing new -/

/-- A gateway has nothing that it did not have before. -/
structure Rests (g g' : Gateway β) : Prop where
  allowList : g'.allowList = g.allowList
  config : g'.config = g.config
  metrics : g'.metrics = g.metrics
  peers : g'.peers = g.peers
  refusals : g'.refusals = g.refusals
  registry : ∀ entry ∈ g'.registry.entries, entry ∈ g.registry.entries
  held : ∀ x bytes, g'.Holds x bytes → g.Holds x bytes
  waiting : g'.dispatcher.queue.waiting = g.dispatcher.queue.waiting
  jobs : g'.dispatcher.jobs = g.dispatcher.jobs
  dataTypes : g'.dispatcher.registry = g.dispatcher.registry

namespace Rests

theorem refl (g : Gateway β) : g.Rests g :=
  ⟨rfl, rfl, rfl, rfl, rfl, fun _ h => h, fun _ _ h => h, rfl, rfl, rfl⟩

theorem setPhase (h : g.Rests g') (state : ServerState) (acceptLoop : AcceptPhase) :
    g.Rests { g' with state, acceptLoop } :=
  ⟨h.allowList, h.config, h.metrics, h.peers, h.refusals, h.registry, h.held, h.waiting, h.jobs,
    h.dataTypes⟩

theorem mapLink (h : g.Rests g') {change : Link → Link}
    (hpeer : ∀ link, (change link).peer = link.peer)
    (hreader : ∀ link bytes, (change link).reader = .publishing bytes →
      link.reader = .publishing bytes) : g.Rests (g'.mapLink c change) := by
  refine ⟨h.allowList, h.config, h.metrics, (peers_mapLink hpeer).trans h.peers, h.refusals,
    h.registry, fun x bytes hholds => h.held x bytes ?_, h.waiting, h.jobs, h.dataTypes⟩
  rcases holds_mapLink hholds with ⟨-, link, hnow, hlink⟩ | hbefore
  · exact ⟨link, hlink, hreader link bytes hnow⟩
  · exact hbefore

theorem setReader (h : g.Rests g') {reader : ReaderPhase}
    (hreader : ∀ bytes, reader ≠ .publishing bytes) : g.Rests (g'.setReader c reader) :=
  h.mapLink (fun _ => rfl) fun _ bytes hnow => absurd hnow (hreader bytes)

theorem close (h : g.Rests g') : g.Rests (g'.mapLink c fun link => { link with isOpen := false }) :=
  h.mapLink (fun _ => rfl) fun _ _ hnow => hnow

theorem signal (h : g.Rests g') (stop : StopSignal) : g.Rests (g'.signal stop) := by
  unfold Gateway.signal
  split
  · exact h
  · exact ⟨h.allowList, h.config, h.metrics, h.peers, h.refusals, h.registry, h.held, h.waiting,
      h.jobs, h.dataTypes⟩

end Rests

/-! ## All moves -/

/-- All that a move can do: the client that it brings, if any, what can be seen of it, and the
    gateway after it. -/
inductive Transition [Bus β] (g : Gateway β) :
    Option (Option SocketAddress) → List GatewayEvent → Gateway β → Prop where
  /-- Nothing new comes into the gateway. -/
  | rest {events : List GatewayEvent} {g' : Gateway β} :
      (∀ event ∈ events, event.isQuiet = true) → g.Rests g' → Transition g none events g'
  /-- A client is judged. -/
  | accept (peer : Option SocketAddress) :
      Transition g (some peer) (g.accept peer).1 (g.accept peer).2
  /-- A refusal is carried out. -/
  | refuse {i : Nat} {verdict : Verdict} (isWritable : Bool) : g.refusals[i]? = some verdict →
      Transition g none
        [.refused verdict (KnxGateway.refuse verdict g.config.notifyRejected isWritable).1
          (KnxGateway.refuse verdict g.config.notifyRejected isWritable).2]
        { g with refusals := g.refusals.eraseIdx i }
  /-- A reader reads. -/
  | read {c : ConnectionId} {link : Link} (bytes : List UInt8) : g.links.get? c = some link →
      Transition g none [.received c bytes]
        ((g.record .packetsReceived).setReader c (.publishing bytes))
  /-- A reader hands on what it read. -/
  | publish {c : ConnectionId} {bytes : List UInt8} {queue : PacketQueue} : g.Holds c bytes →
      g.dispatcher.queue.publish? ⟨c, bytes⟩ = some queue →
      Transition g none [.published ⟨c, bytes⟩] ((g.setQueue queue).setReader c .reading)
  /-- The loop of the dispatcher takes a turn. -/
  | poll : Transition g none (g.dispatcher.poll.1.map .dispatched)
      { g with dispatcher := g.dispatcher.poll.2 }
  /-- A job acts. -/
  | work (i : Nat) : Transition g none ((g.dispatcher.work i).1.map .dispatched)
      { g with dispatcher := (g.dispatcher.work i).2 }

namespace Transition

variable [Bus β]

theorem refl (g : Gateway β) : g.Transition none [] g :=
  .rest (by simp) (.refl g)

/-- A reader goes on without bytes that it holds. -/
theorem of_setReader {reader : ReaderPhase} (hreader : ∀ bytes, reader ≠ .publishing bytes) :
    g.Transition none [] (g.setReader c reader) :=
  .rest (by simp) ((Rests.refl g).setReader hreader)

/-- Closing the queue leaves the packets in it. -/
theorem of_join :
    g.Transition none [] ({ g with acceptLoop := .returned }.setQueue g.dispatcher.queue.close) := by
  have h := (Rests.refl g).setPhase g.state .returned
  exact .rest (by simp) ⟨h.allowList, h.config, h.metrics, h.peers, h.refusals, h.registry,
    h.held, h.waiting, h.jobs, h.dataTypes⟩

theorem of_deregister (id : Nat) : g.Transition none [.deregistered c]
    { g.setReader c .closing with registry := g.registry.erase id } := by
  have h : g.Rests (g.setReader c .closing) := (Rests.refl g).setReader (by simp)
  refine .rest (by simp [GatewayEvent.isQuiet]) ⟨h.allowList, h.config, h.metrics, h.peers,
    h.refusals, fun entry hentry => ?_, h.held, h.waiting, h.jobs, h.dataTypes⟩
  exact (List.mem_filter.1 hentry).1

theorem of_stopAccepting : g.Transition none
    ((g.registry.entries.map Prod.snd).map .deregistered)
    { g with acceptLoop := .closing (g.registry.entries.map Prod.snd), registry := .empty } := by
  refine .rest (fun event hevent => ?_) ⟨rfl, rfl, rfl, rfl, rfl, fun entry hentry => ?_,
    fun _ _ h => h, rfl, rfl, rfl⟩
  · obtain ⟨c, -, rfl⟩ := List.mem_map.1 hevent
    rfl
  · cases hentry

end Transition

/-- A client is accepted only while the accept loop accepts. -/
theorem arrival?_connect {peer : Option SocketAddress} (h : g.acceptLoop = .accepting) :
    g.arrival? (.connect peer) = some peer :=
  if_pos h

theorem Outcome.transition [Bus β] {move : GatewayMove} {events : List GatewayEvent}
    (h : g.Outcome move events g') : g.Transition (g.arrival? move) events g' := by
  cases h with
  | nothing move hclosed =>
    have hnobody : g.arrival? move = none := by
      cases move with
      | connect peer => exact if_neg (hclosed peer rfl)
      | _ => rfl
    rw [hnobody]
    exact .refl g
  | accept peer haccepting =>
    rw [arrival?_connect haccepting]
    exact .accept peer
  | refuse i isWritable verdict hverdict => exact .refuse isWritable hverdict
  | setWritable =>
    exact .rest (by simp) ((Rests.refl g).mapLink (fun _ => rfl) fun _ _ hnow => hnow)
  | read c link bytes hlink => exact .read bytes hlink
  | readEnd | giveUp | stopReader => exact .of_setReader (by simp)
  | publish c link bytes queue hlink hpublishing _ hqueue =>
    exact .publish ⟨link, hlink, hpublishing⟩ hqueue
  | deregister c link => exact .of_deregister link.id
  | close =>
    exact .rest (by simp [GatewayEvent.isQuiet]) ((Rests.refl g).setReader (by simp)).close
  | stopAccepting => exact .of_stopAccepting
  | closeNext c rest =>
    exact .rest (by simp [GatewayEvent.isQuiet])
      ((Rests.refl g).setPhase g.state (.closing rest)).close
  | await => exact .rest (by simp) ((Rests.refl g).setPhase g.state .joining)
  | join => exact .of_join
  | poll => exact .poll
  | work i job effect task world hjob hstep =>
    have hwork : g.dispatcher.work i = ([.worked i effect], { g.dispatcher with
        world, jobs := g.dispatcher.jobs.set i { job with task } }) := by
      simp only [Dispatcher.work, hjob, hstep]
    have h : g.Transition none ((g.dispatcher.work i).1.map .dispatched)
        { g with dispatcher := (g.dispatcher.work i).2 } := .work i
    rw [hwork] at h
    exact h
  | shutdown =>
    have h := (Rests.refl g).setPhase .stopping g.acceptLoop
    exact .rest (by simp [GatewayEvent.isQuiet]) (h.signal .raised)
  | abandon => exact .rest (by simp) ((Rests.refl g).signal .abandoned)
  | complete =>
    exact .rest (by simp [GatewayEvent.isQuiet]) ((Rests.refl g).setPhase .stopped g.acceptLoop)

/-- Every move is one of these. -/
theorem transition_step [Bus β] (g : Gateway β) (move : GatewayMove) :
    g.Transition (g.arrival? move) (g.step move).1 (g.step move).2 :=
  (g.outcome_step move).transition

end Gateway

end KnxGateway
