import KnxGateway.Proofs.Gateway.Service

set_option autoImplicit false

/-! # What can happen to the registry

Only a few moves of a gateway concern the registry of its connections. A connection is registered
when it is accepted; its reader takes it out and closes it when it leaves; the accept loop takes
out and closes all that are left when the gateway stops. Whatever else happens, the connections go
on as they were. These moves are listed here, together with the states that the gateway shows. -/

namespace KnxGateway

/-! ## What can be seen of the gateway as a whole -/

namespace GatewayEvent

/-- The state that the gateway entered, if the event is of that kind. -/
def entered? : GatewayEvent → Option ServerState
  | entered state => some state
  | _ => none

/-- The connection that was registered and its number, if the event is of that kind. -/
def registered? : GatewayEvent → Option (ConnectionId × Nat)
  | registered c id => some (c, id)
  | _ => none

/-- The states that the gateway went through, in order. -/
def stages (events : List GatewayEvent) : List ServerState :=
  events.filterMap entered?

/-- The connections that were registered with their numbers, in order. -/
def registrations (events : List GatewayEvent) : List (ConnectionId × Nat) :=
  events.filterMap registered?

/-- Whether an event is of no concern to the registry and to the state that the gateway shows. -/
def isPlain : GatewayEvent → Bool
  | judged _ | refused _ _ _ | received _ _ | published _ | dispatched _ => true
  | entered _ | registered _ _ | deregistered _ | closed _ => false

variable {events later : List GatewayEvent}

theorem stages_append : stages (events ++ later) = stages events ++ stages later :=
  List.filterMap_append

theorem registrations_append :
    registrations (events ++ later) = registrations events ++ registrations later :=
  List.filterMap_append

theorem stages_of_plain (h : ∀ event ∈ events, event.isPlain = true) : stages events = [] := by
  refine List.filterMap_eq_nil_iff.2 fun event hevent => ?_
  have hplain := h event hevent
  cases event <;> first | rfl | cases hplain

theorem registrations_of_plain (h : ∀ event ∈ events, event.isPlain = true) :
    registrations events = [] := by
  refine List.filterMap_eq_nil_iff.2 fun event hevent => ?_
  have hplain := h event hevent
  cases event <;> first | rfl | cases hplain

/-- Taking connections out of the registry registers none and shows no state. -/
theorem quiet_deregistered (links : List ConnectionId) :
    stages (links.map .deregistered) = [] ∧ registrations (links.map .deregistered) = [] := by
  constructor <;>
  · refine List.filterMap_eq_nil_iff.2 fun event hevent => ?_
    obtain ⟨c, -, rfl⟩ := List.mem_map.1 hevent
    rfl

end GatewayEvent

/-- The states that a gateway has gone through since it was started, up to the given one. -/
def ServerState.trail : ServerState → List ServerState
  | starting => [stopped, starting]
  | running => [stopped, starting, running]
  | stopping => [stopped, starting, running, stopping]
  | stopped => [stopped, starting, running, stopping, stopped]

/-- Whether a reader has broken down or got beyond leaving, which only its own leaving leads to. -/
def ReaderPhase.hasLeft : ReaderPhase → Bool
  | closing | finished | crashed => true
  | reading | publishing _ | leaving => false

theorem ReaderPhase.not_hasLeft_of_isLooping {reader : ReaderPhase}
    (h : reader.isLooping = true) : reader.hasLeft = false := by
  cases reader <;> first | rfl | cases h

/-! ## Moves that keep the registry -/

/-- A connection that is neither closed nor taken out of the registry. -/
structure Link.GoesOn (link link' : Link) : Prop where
  id : link'.id = link.id
  isOpen : link'.isOpen = link.isOpen
  reader : ∀ phase : ReaderPhase, phase.hasLeft = true →
    (link'.reader = phase ↔ link.reader = phase)

namespace Link.GoesOn

variable {link link' : Link}

theorem refl (link : Link) : link.GoesOn link :=
  ⟨rfl, rfl, fun _ _ => Iff.rfl⟩

/-- The reader of a connection may go on in any way as long as it has not left. -/
theorem of_reader {reader : ReaderPhase} (h : link.reader.hasLeft = false)
    (h' : reader.hasLeft = false) : link.GoesOn { link with reader } := by
  refine ⟨rfl, rfl, fun phase hphase => ⟨fun heq => ?_, fun heq => ?_⟩⟩
  · change reader = phase at heq
    rw [heq, hphase] at h'
    cases h'
  · rw [heq, hphase] at h
    cases h

/-- A reader is over before exactly if it is over afterwards. -/
theorem isOver_eq (h : link.GoesOn link') : link'.reader.isOver = link.reader.isOver := by
  have hiff : ∀ reader : ReaderPhase,
      reader.isOver = true ↔ reader = .finished ∨ reader = .crashed := by
    intro reader
    cases reader <;> simp [ReaderPhase.isOver]
  rw [Bool.eq_iff_iff, hiff, hiff, h.reader .finished rfl, h.reader .crashed rfl]

end Link.GoesOn

/-- A change after which a connection goes on leaves all others alone. -/
theorem Links.rel_modify {l : Links} {c : ConnectionId} {change : Link → Link}
    (h : ∀ link, l.get? c = some link → link.GoesOn (change link)) (x : ConnectionId) :
    Option.Rel Link.GoesOn (l.get? x) ((l.modify c change).get? x) := by
  rw [get?_modify]
  cases hlink : l.get? x with
  | none =>
    rw [Option.map_none, ite_self]
    exact .none
  | some link =>
    split
    · next heq =>
      rw [heq] at h
      exact .some (h link hlink)
    · exact .some (.refl link)

/-- A connection that is closed, or about to be closed by its reader. -/
structure Link.IsLetGo (link link' : Link) : Prop where
  id : link'.id = link.id
  closed : link'.isOpen = false ∨ link'.reader = .closing
  crashed : link'.reader = .crashed → link.reader = .crashed

/-- A connection after a change of one of them is the changed one or was there before. -/
theorem Links.get?_modify_eq_some {l : Links} {c x : ConnectionId} {change : Link → Link}
    {link' : Link} (h : (l.modify c change).get? x = some link') :
    (c = x ∧ ∃ link, l.get? x = some link ∧ link' = change link) ∨
      (c ≠ x ∧ l.get? x = some link') := by
  rw [get?_modify] at h
  split at h
  · next heq =>
    obtain ⟨link, hlink, hchange⟩ := Option.map_eq_some_iff.1 h
    exact Or.inl ⟨heq, link, hlink, hchange.symm⟩
  · next hne => exact Or.inr ⟨hne, h⟩

namespace Gateway

variable {β : Type} {g g' : Gateway β} {c x : ConnectionId} {link link' : Link}

/-- A move after which all connections go on, and the accept loop is where it was. -/
structure KeepsRegistry (g g' : Gateway β) : Prop where
  config : g'.config = g.config
  acceptLoop : g'.acceptLoop = g.acceptLoop
  registry : g'.registry = g.registry
  running : g.dispatcher.running = false → g'.dispatcher.running = false
  length : g'.links.toList.length = g.links.toList.length
  links : ∀ c, Option.Rel Link.GoesOn (g.links.get? c) (g'.links.get? c)

namespace KeepsRegistry

/-- A move that changes no connection. -/
theorem of_links (hconfig : g'.config = g.config) (haccept : g'.acceptLoop = g.acceptLoop)
    (hregistry : g'.registry = g.registry)
    (hrunning : g.dispatcher.running = false → g'.dispatcher.running = false)
    (hlinks : g'.links = g.links) : g.KeepsRegistry g' := by
  refine ⟨hconfig, haccept, hregistry, hrunning, by rw [hlinks], fun c => ?_⟩
  rw [hlinks]
  cases g.links.get? c with
  | none => exact .none
  | some link => exact .some (.refl link)

theorem refl (g : Gateway β) : g.KeepsRegistry g :=
  of_links rfl rfl rfl id rfl

theorem mapLink (g : Gateway β) {change : Link → Link}
    (h : ∀ link, g.links.get? c = some link → link.GoesOn (change link)) :
    g.KeepsRegistry (g.mapLink c change) :=
  ⟨rfl, rfl, rfl, id, List.length_modify _ _ _, Links.rel_modify h⟩

/-- A reader that has not left goes on to a phase in which it has not left either. -/
theorem setReader (g : Gateway β) (hlink : g.links.get? c = some link)
    (hphase : link.reader.hasLeft = false) {reader : ReaderPhase}
    (hreader : reader.hasLeft = false) : g.KeepsRegistry (g.setReader c reader) := by
  refine mapLink g fun before hbefore => ?_
  rw [hlink] at hbefore
  cases hbefore
  exact .of_reader hphase hreader

/-- Counting and queueing come on top. -/
theorem congr (h : g.KeepsRegistry g') {g'' : Gateway β} (hconfig : g''.config = g'.config)
    (haccept : g''.acceptLoop = g'.acceptLoop) (hregistry : g''.registry = g'.registry)
    (hrunning : g''.dispatcher.running = g'.dispatcher.running) (hlinks : g''.links = g'.links) :
    g.KeepsRegistry g'' :=
  ⟨hconfig.trans h.config, haccept.trans h.acceptLoop, hregistry.trans h.registry,
    fun hover => hrunning.trans (h.running hover), hlinks ▸ h.length, hlinks ▸ h.links⟩

theorem before (h : g.KeepsRegistry g') (hlink : g'.links.get? c = some link') :
    ∃ link, g.links.get? c = some link ∧ link.GoesOn link' := by
  have hrel := h.links c
  rw [hlink] at hrel
  generalize hbefore : g.links.get? c = before at hrel
  cases hrel with
  | some hgoes => exact ⟨_, rfl, hgoes⟩

theorem after (h : g.KeepsRegistry g') (hlink : g.links.get? c = some link) :
    ∃ link', g'.links.get? c = some link' ∧ link.GoesOn link' := by
  have hrel := h.links c
  rw [hlink] at hrel
  generalize hafter : g'.links.get? c = after at hrel
  cases hrel with
  | some hgoes => exact ⟨_, rfl, hgoes⟩

theorem signal (h : g.KeepsRegistry g') (stop : StopSignal) : g.KeepsRegistry (g'.signal stop) := by
  unfold Gateway.signal
  split
  · exact h
  · exact h.congr rfl rfl rfl rfl rfl

end KeepsRegistry

/-! ## All moves -/

/-- All that a move can do to the registry, to the connections in it, and to the state that the
    gateway shows. -/
inductive RegistryStep (g : Gateway β) : List GatewayEvent → Gateway β → Prop where
  /-- All connections go on. -/
  | keep {events : List GatewayEvent} {g' : Gateway β} :
      (∀ event ∈ events, event.isPlain = true) →
      g'.state = g.state → g.KeepsRegistry g' → RegistryStep g events g'
  /-- A connection is accepted. -/
  | register (peer : SocketAddress) : g.acceptLoop = .accepting →
      RegistryStep g [.judged (.allowed peer), .registered g.links.toList.length g.nextId]
        (g.withConnection peer)
  /-- A reader takes its connection out of the registry. -/
  | deregister (c : ConnectionId) (link : Link) : g.links.get? c = some link →
      link.reader = .leaving →
      RegistryStep g [.deregistered c]
        { g.setReader c .closing with registry := g.registry.erase link.id }
  /-- A reader closes its connection. -/
  | close (c : ConnectionId) (link : Link) : g.links.get? c = some link →
      link.reader = .closing →
      RegistryStep g [.closed c]
        ((g.setReader c .finished).mapLink c fun l => { l with isOpen := false })
  /-- The accept loop empties the registry. -/
  | drain : g.acceptLoop = .accepting →
      RegistryStep g ((g.registry.entries.map Prod.snd).map .deregistered)
        { g with acceptLoop := .closing (g.registry.entries.map Prod.snd), registry := .empty }
  /-- The accept loop closes a connection. -/
  | closeNext (c : ConnectionId) (rest : List ConnectionId) : g.acceptLoop = .closing (c :: rest) →
      RegistryStep g [.closed c]
        ({ g with acceptLoop := .closing rest }.mapLink c fun l => { l with isOpen := false })
  /-- The accept loop begins to wait for the readers. -/
  | await : g.acceptLoop = .closing [] → RegistryStep g [] { g with acceptLoop := .joining }
  /-- The accept loop returns. -/
  | join : g.acceptLoop = .joining →
      (∀ c link, g.links.get? c = some link → link.reader.isOver = true) →
      RegistryStep g [] ({ g with acceptLoop := .returned }.setQueue g.dispatcher.queue.close)
  /-- The gateway begins to stop. -/
  | stop {g' : Gateway β} : g.state = .running → g'.state = .stopping → g.KeepsRegistry g' →
      RegistryStep g [.entered .stopping] g'
  /-- The gateway has stopped. -/
  | complete : g.state = .stopping → g.acceptLoop = .returned → g.dispatcher.running = false →
      RegistryStep g [.entered .stopped] { g with state := .stopped }

namespace RegistryStep

theorem refl (g : Gateway β) : g.RegistryStep [] g :=
  .keep (by simp) rfl (.refl g)

/-- Moves of which only the registry could tell something, and it does not. -/
theorem of_setReader (hlink : g.links.get? c = some link) (hphase : link.reader.hasLeft = false)
    {reader : ReaderPhase} (hreader : reader.hasLeft = false) :
    g.RegistryStep [] (g.setReader c reader) :=
  .keep (by simp) rfl (.setReader g hlink hphase hreader)

theorem of_accept (haccepting : g.acceptLoop = .accepting) (peer : Option SocketAddress) :
    g.RegistryStep (g.accept peer).1 (g.accept peer).2 := by
  rcases accept_cases g peer with ⟨admitted, -, haccept⟩ | haccept
  · rw [haccept]
    exact .register admitted haccepting
  · rw [haccept]
    exact .keep (by simp [GatewayEvent.isPlain]) rfl (.of_links rfl rfl rfl id rfl)

theorem of_poll [Bus β] : g.RegistryStep (g.dispatcher.poll.1.map .dispatched)
    { g with dispatcher := g.dispatcher.poll.2 } := by
  obtain ⟨-, -, -, houtlets⟩ := Dispatcher.poll_frame g.dispatcher
  refine .keep (fun event hevent => ?_) rfl (.of_links rfl rfl rfl (fun hover => ?_) houtlets)
  · obtain ⟨dispatched, -, rfl⟩ := List.mem_map.1 hevent
    rfl
  · change g.dispatcher.poll.2.running = false
    rw [Dispatcher.poll, hover]
    exact hover

end RegistryStep

theorem state_signal (g : Gateway β) (stop : StopSignal) : (g.signal stop).state = g.state := by
  unfold Gateway.signal
  split <;> rfl

theorem Outcome.registryStep [Bus β] {move : GatewayMove} {events : List GatewayEvent}
    (h : g.Outcome move events g') : g.RegistryStep events g' := by
  cases h with
  | nothing => exact .refl g
  | accept peer haccepting => exact .of_accept haccepting peer
  | refuse =>
    exact .keep (by simp [GatewayEvent.isPlain]) rfl (.of_links rfl rfl rfl id rfl)
  | setWritable c isWritable =>
    exact .keep (by simp) rfl (.mapLink g fun link _ => ⟨rfl, rfl, fun _ _ => Iff.rfl⟩)
  | read c link bytes hlink hreading =>
    exact .keep (by simp [GatewayEvent.isPlain]) rfl
      ((KeepsRegistry.setReader g hlink (by rw [hreading]; rfl) rfl).congr rfl rfl rfl rfl rfl)
  | readEnd c link hlink hreading => exact .of_setReader hlink (by rw [hreading]; rfl) rfl
  | publish c link bytes queue hlink hpublishing =>
    exact .keep (by simp [GatewayEvent.isPlain]) rfl
      ((KeepsRegistry.setReader g hlink (by rw [hpublishing]; rfl) rfl).congr rfl rfl rfl rfl rfl)
  | giveUp c link bytes hlink hpublishing =>
    exact .of_setReader hlink (by rw [hpublishing]; rfl) rfl
  | stopReader c link hlink _ hlooping =>
    exact .of_setReader hlink (ReaderPhase.not_hasLeft_of_isLooping hlooping) rfl
  | deregister c link hlink hleaving => exact .deregister c link hlink hleaving
  | close c link hlink hclosing => exact .close c link hlink hclosing
  | stopAccepting _ haccepting => exact .drain haccepting
  | closeNext c rest hphase => exact .closeNext c rest hphase
  | await hphase => exact .await hphase
  | join hphase hover => exact .join hphase hover
  | poll => exact .of_poll
  | work i job effect task world _ hstep =>
    exact .keep (by simp [GatewayEvent.isPlain]) rfl
      (.of_links rfl rfl rfl id (Links.outlets_of_step hstep))
  | shutdown hrunning =>
    have hkeeps : g.KeepsRegistry { g with state := .stopping } := .of_links rfl rfl rfl id rfl
    exact .stop hrunning (state_signal _ _) (hkeeps.signal .raised)
  | abandon =>
    exact .keep (by simp) (state_signal g _) ((KeepsRegistry.refl g).signal .abandoned)
  | complete hstopping hreturned hended => exact .complete hstopping hreturned hended

/-- Every move is one of these. -/
theorem registryStep_step [Bus β] (g : Gateway β) (move : GatewayMove) :
    g.RegistryStep (g.step move).1 (g.step move).2 :=
  (g.outcome_step move).registryStep

/-! ## The number of connections -/

/-- A move that registers nothing leaves the number of connections. -/
theorem RegistryStep.length {events : List GatewayEvent} (h : g.RegistryStep events g') :
    g'.links.toList.length = g.links.toList.length + (GatewayEvent.registrations events).length := by
  cases h with
  | keep hplain _ hkeeps =>
    rw [hkeeps.length, GatewayEvent.registrations_of_plain hplain]
    rfl
  | register peer _ => exact List.length_append
  | deregister | closeNext => exact List.length_modify _ _ _
  | close => exact (List.length_modify _ _ _).trans (List.length_modify _ _ _)
  | drain =>
    rw [(GatewayEvent.quiet_deregistered _).2]
    rfl
  | await | join | complete => rfl
  | stop _ _ hkeeps => exact hkeeps.length

theorem length_run [Bus β] (g : Gateway β) (schedule : List GatewayMove) :
    (g.run schedule).2.links.toList.length =
      g.links.toList.length + (GatewayEvent.registrations (g.run schedule).1).length := by
  refine run_induction (motive := fun past g' => g'.links.toList.length =
    g.links.toList.length + (GatewayEvent.registrations past).length) [] rfl
    fun past g move _ hbefore => ?_
  rw [(registryStep_step g move).length, hbefore, GatewayEvent.registrations_append,
    List.length_append, Nat.add_assoc]

/-! ## After the accept loop -/

/-- An accept loop that has returned registers nothing more. -/
theorem RegistryStep.of_returned {events : List GatewayEvent} (h : g.RegistryStep events g')
    (hreturned : g.acceptLoop = .returned) :
    g'.acceptLoop = .returned ∧ GatewayEvent.registrations events = [] := by
  cases h with
  | keep hplain _ hkeeps =>
    exact ⟨hkeeps.acceptLoop.trans hreturned, GatewayEvent.registrations_of_plain hplain⟩
  | register _ hphase | drain hphase | closeNext _ _ hphase | await hphase | join hphase =>
    rw [hreturned] at hphase
    cases hphase
  | deregister | close | complete => exact ⟨hreturned, rfl⟩
  | stop _ _ hkeeps => exact ⟨hkeeps.acceptLoop.trans hreturned, rfl⟩

theorem returned_run [Bus β] (hreturned : g.acceptLoop = .returned) (schedule : List GatewayMove) :
    (g.run schedule).2.acceptLoop = .returned ∧
      GatewayEvent.registrations (g.run schedule).1 = [] := by
  refine run_induction (motive := fun past g => g.acceptLoop = .returned ∧
    GatewayEvent.registrations past = []) [] ⟨hreturned, rfl⟩ ?_
  rintro past g move - ⟨hphase, hnone⟩
  obtain ⟨hphase', hnone'⟩ := (registryStep_step g move).of_returned hphase
  rw [GatewayEvent.registrations_append, hnone, hnone']
  exact ⟨hphase', rfl⟩

end Gateway

end KnxGateway
