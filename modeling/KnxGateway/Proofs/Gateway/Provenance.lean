import KnxGateway.Proofs.Gateway.Moves
import KnxGateway.Proofs.Gateway.Service

set_option autoImplicit false

/-! # Where the contents of a gateway come from

Nothing in a gateway comes out of nowhere. A packet that the dispatcher takes has been published,
and a packet that has been published was read from its connection. Jobs are started by packets, and
whatever is read or registered belongs to a connection that is there. -/

namespace KnxGateway.Gateway

variable {β : Type}

/-- Where the contents of a gateway with the given past come from. -/
structure Traces (dataTypes : Registry) (past : List GatewayEvent) (g : Gateway β) : Prop where
  sameTypes : g.dispatcher.registry = dataTypes
  records : g.dispatcher.Records (GatewayEvent.dispatches past)
  admits : Admits dataTypes (fun _ => True) (DispatchEvent.taken (GatewayEvent.dispatches past))
    (g.dispatcher.jobs.map Job.origin)
  taken : ∀ p ∈ DispatchEvent.taken (GatewayEvent.dispatches past), .published p ∈ past
  waiting : ∀ p ∈ g.dispatcher.queue.waiting, .published p ∈ past
  published : ∀ p, .published p ∈ past → .received p.connection p.bytes ∈ past
  held : ∀ c bytes, g.Holds c bytes → .received c bytes ∈ past
  received : ∀ c bytes, .received c bytes ∈ past → c < g.peers.length
  registered : ∀ c id, .registered c id ∈ past → c < g.peers.length
  registry : ∀ entry ∈ g.registry.entries, entry.2 < g.peers.length

namespace Traces

variable {dataTypes : Registry} {past events : List GatewayEvent} {g g' : Gateway β}

/-- A move that is none of the dispatcher and its jobs. What it brings into the gateway comes from
    what was there. -/
theorem of_move (h : Traces dataTypes past g)
    (hdispatches : GatewayEvent.dispatches events = [])
    (htypes : g'.dispatcher.registry = g.dispatcher.registry)
    (hjobs : g'.dispatcher.jobs = g.dispatcher.jobs) (hpeers : g.peers.length ≤ g'.peers.length)
    (hwaiting : ∀ p ∈ g'.dispatcher.queue.waiting,
      p ∈ g.dispatcher.queue.waiting ∨ .published p ∈ events)
    (hpublished : ∀ p, .published p ∈ events → g.Holds p.connection p.bytes)
    (hheld : ∀ c bytes, g'.Holds c bytes → g.Holds c bytes ∨ .received c bytes ∈ events)
    (hreceived : ∀ c bytes, .received c bytes ∈ events → c < g'.peers.length)
    (hregistered : ∀ c id, .registered c id ∈ events → c < g'.peers.length)
    (hregistry : ∀ entry ∈ g'.registry.entries,
      entry ∈ g.registry.entries ∨ entry.2 < g'.peers.length) :
    Traces dataTypes (past ++ events) g' := by
  have hpast : GatewayEvent.dispatches (past ++ events) = GatewayEvent.dispatches past := by
    rw [GatewayEvent.dispatches_append, hdispatches, List.append_nil]
  have hkept : ∀ {event}, event ∈ past → event ∈ past ++ events := List.mem_append_left _
  refine ⟨htypes.trans h.sameTypes, ?_, ?_, ?_, fun p hp => ?_, fun p hp => ?_,
    fun c bytes hc => ?_, fun c bytes hc => ?_, fun c id hc => ?_, fun entry hentry => ?_⟩
  · rw [hpast]
    exact h.records.congr hjobs
  · rw [hpast, hjobs]
    exact h.admits
  · rw [hpast]
    exact fun p hp => hkept (h.taken p hp)
  · rcases hwaiting p hp with hbefore | hnow
    · exact hkept (h.waiting p hbefore)
    · exact List.mem_append_right _ hnow
  · rcases List.mem_append.1 hp with hbefore | hnow
    · exact hkept (h.published p hbefore)
    · exact hkept (h.held _ _ (hpublished p hnow))
  · rcases hheld c bytes hc with hbefore | hnow
    · exact hkept (h.held c bytes hbefore)
    · exact List.mem_append_right _ hnow
  · rcases List.mem_append.1 hc with hbefore | hnow
    · exact Nat.lt_of_lt_of_le (h.received c bytes hbefore) hpeers
    · exact hreceived c bytes hnow
  · rcases List.mem_append.1 hc with hbefore | hnow
    · exact Nat.lt_of_lt_of_le (h.registered c id hbefore) hpeers
    · exact hregistered c id hnow
  · rcases hregistry entry hentry with hbefore | hnow
    · exact Nat.lt_of_lt_of_le (h.registry entry hbefore) hpeers
    · exact hnow

theorem accept (h : Traces dataTypes past g) (peer : Option SocketAddress) :
    Traces dataTypes (past ++ (g.accept peer).1) (g.accept peer).2 := by
  have hpeers := congrArg List.length (peers_accept g peer)
  rw [List.length_append] at hpeers
  unfold Gateway.accept at hpeers ⊢
  cases hjudge : g.allowList.judge peer with
  | allowed admitted =>
    simp only [hjudge] at hpeers ⊢
    have hnew : g.links.toList.length < g.peers.length + 1 := by
      rw [Gateway.peers, List.length_map]
      exact Nat.lt_succ_self _
    refine h.of_move rfl rfl rfl (hpeers ▸ Nat.le_add_right _ _) (fun p hp => Or.inl hp)
      (fun p hp => by simp at hp) (fun c bytes hholds => Or.inl ?_)
      (fun c bytes hc => by simp at hc) (fun c id hc => ?_) fun entry hentry => ?_
    · -- the reader of the new connection has not read anything
      obtain ⟨link, hlink, hreader⟩ := hholds
      have hafter := (Links.get?_append g.links _ _).symm.trans hlink
      split at hafter
      · cases hafter
        simp only [ReaderPhase.start] at hreader
        split at hreader <;> cases hreader
      · exact ⟨link, hafter, hreader⟩
    · simp only [List.mem_cons, reduceCtorEq, GatewayEvent.registered.injEq, List.not_mem_nil,
        or_false, false_or] at hc
      rw [hpeers, hc.1]
      exact hnew
    · rcases List.mem_cons.1 hentry with rfl | hold
      · exact Or.inr (hpeers ▸ hnew)
      · exact Or.inl (List.mem_filter.1 hold).1
  | rejected _ | unresolved =>
    simp only [hjudge] at hpeers ⊢
    exact h.of_move rfl rfl rfl (hpeers ▸ Nat.le_add_right _ _) (fun p hp => Or.inl hp)
      (fun p hp => nomatch List.mem_singleton.1 hp) (fun c bytes hholds => Or.inl hholds)
      (fun c bytes hc => nomatch List.mem_singleton.1 hc)
      (fun c id hc => nomatch List.mem_singleton.1 hc) fun entry hentry => Or.inl hentry

theorem read (h : Traces dataTypes past g) {c : ConnectionId} {link : Link}
    (hlink : g.links.get? c = some link) (bytes : List UInt8) :
    Traces dataTypes (past ++ [.received c bytes])
      ((g.record .packetsReceived).setReader c (.publishing bytes)) := by
  have hpeers : ((g.record .packetsReceived).setReader c (.publishing bytes)).peers = g.peers :=
    peers_setReader _ c _
  refine h.of_move rfl rfl rfl (Nat.le_of_eq (congrArg _ hpeers.symm)) (fun p hp => Or.inl hp)
    (fun p hp => nomatch List.mem_singleton.1 hp) (fun x held hheld => ?_) (fun x read hread => ?_)
    (fun x id hid => nomatch List.mem_singleton.1 hid) fun entry hentry => Or.inl hentry
  · rcases holds_mapLink hheld with ⟨rfl, before, hreader, -⟩ | hbefore
    · cases hreader
      exact Or.inr (List.mem_singleton.2 rfl)
    · exact Or.inl hbefore
  · cases List.mem_singleton.1 hread
    rw [hpeers]
    exact lt_length_peers hlink

theorem publish (h : Traces dataTypes past g) {c : ConnectionId} {bytes : List UInt8}
    {queue : PacketQueue} (hholds : g.Holds c bytes)
    (hqueue : g.dispatcher.queue.publish? ⟨c, bytes⟩ = some queue) :
    Traces dataTypes (past ++ [.published ⟨c, bytes⟩])
      ((g.setQueue queue).setReader c .reading) := by
  obtain ⟨-, rfl⟩ := PacketQueue.publish?_eq_some_iff.1 hqueue
  refine h.of_move rfl rfl rfl (Nat.le_of_eq (congrArg _ (peers_setReader _ c _).symm))
    (fun p hp => ?_) (fun p hp => ?_) (fun x held hheld => ?_)
    (fun x read hread => nomatch List.mem_singleton.1 hread)
    (fun x id hid => nomatch List.mem_singleton.1 hid) fun entry hentry => Or.inl hentry
  · refine (List.mem_append.1 hp).imp_right fun hnew => ?_
    rw [List.mem_singleton.1 hnew]
    exact List.mem_singleton.2 rfl
  · cases List.mem_singleton.1 hp
    exact hholds
  · rcases holds_mapLink hheld with ⟨-, before, hreader, -⟩ | hbefore
    · cases hreader
    · exact Or.inl hbefore

/-- What the dispatcher and its jobs do leaves all else as it is, and adds nothing to it. -/
theorem of_dispatch (h : Traces dataTypes past g) {events : List DispatchEvent}
    {d : Dispatcher β Links} (htypes : d.registry = g.dispatcher.registry)
    (hrecords : d.Records (GatewayEvent.dispatches past ++ events))
    (hadmits : Admits dataTypes (fun _ => True)
      (DispatchEvent.taken (GatewayEvent.dispatches past ++ events)) (d.jobs.map Job.origin))
    (htaken : ∀ p ∈ DispatchEvent.taken events, p ∈ g.dispatcher.queue.waiting)
    (hwaiting : ∀ p ∈ d.queue.waiting, p ∈ g.dispatcher.queue.waiting)
    (houtlets : d.world.outlets = g.links) :
    Traces dataTypes (past ++ events.map .dispatched) { g with dispatcher := d } := by
  have hdispatches : GatewayEvent.dispatches (past ++ events.map .dispatched) =
      GatewayEvent.dispatches past ++ events := by
    rw [GatewayEvent.dispatches_append, GatewayEvent.dispatches_map]
  have hlinks : { g with dispatcher := d }.links = g.links := houtlets
  have hpeers : { g with dispatcher := d }.peers = g.peers := by
    rw [Gateway.peers, hlinks, Gateway.peers]
  have hkept : ∀ {event : GatewayEvent}, event ∈ past → event ∈ past ++ events.map .dispatched :=
    List.mem_append_left _
  have hpast : ∀ {event : GatewayEvent}, event ∈ past ++ events.map .dispatched →
      (∀ happened, event ≠ .dispatched happened) → event ∈ past := by
    intro event hevent hother
    refine (List.mem_append.1 hevent).resolve_right fun hnow => ?_
    obtain ⟨happened, -, heq⟩ := List.mem_map.1 hnow
    exact hother happened heq.symm
  refine ⟨htypes.trans h.sameTypes, ?_, ?_, ?_, fun p hp => hkept (h.waiting p (hwaiting p hp)),
    fun p hp => hkept (h.published p (hpast hp (by simp))), fun c bytes hholds => hkept ?_,
    fun c bytes hc => ?_, fun c id hc => ?_, fun entry hentry => ?_⟩
  · rw [hdispatches]
    exact hrecords
  · rw [hdispatches]
    exact hadmits
  · intro p hp
    rw [hdispatches, DispatchEvent.taken, List.filterMap_append] at hp
    rcases List.mem_append.1 hp with hbefore | hnow
    · exact hkept (h.taken p hbefore)
    · exact hkept (h.waiting p (htaken p hnow))
  · obtain ⟨link, hlink, hreader⟩ := hholds
    exact h.held c bytes ⟨link, hlinks ▸ hlink, hreader⟩
  · rw [hpeers]
    exact h.received c bytes (hpast hc (by simp))
  · rw [hpeers]
    exact h.registered c id (hpast hc (by simp))
  · rw [hpeers]
    exact h.registry entry hentry

theorem poll [Bus β] (h : Traces dataTypes past g) :
    Traces dataTypes (past ++ g.dispatcher.poll.1.map .dispatched)
      { g with dispatcher := g.dispatcher.poll.2 } := by
  obtain ⟨htypes, -, -, houtlets⟩ := Dispatcher.poll_frame g.dispatcher
  have hadmits := Admits.poll (h.sameTypes ▸ h.admits) fun _ _ _ _ => trivial
  rw [h.sameTypes] at hadmits
  rcases Dispatcher.poll_takes g.dispatcher with ⟨running, -, hpoll⟩ |
    ⟨p, queue, fault, started, htake, htook, hqueue, -, -⟩
  · refine h.of_dispatch htypes h.records.poll hadmits (fun p hp => ?_) (fun p hp => ?_) houtlets
    · rw [hpoll] at hp
      cases hp
    · rw [hpoll] at hp
      exact hp
  · obtain ⟨hwaiting, -, -⟩ := PacketQueue.take?_eq_some_iff.1 htake
    refine h.of_dispatch htypes h.records.poll hadmits (fun q hq => ?_) (fun q hq => ?_) houtlets
    · rw [htook] at hq
      rw [List.mem_singleton.1 hq, hwaiting]
      exact List.mem_cons_self
    · rw [hqueue] at hq
      rw [hwaiting]
      exact List.mem_cons_of_mem _ hq

theorem work [Bus β] (h : Traces dataTypes past g) (i : Nat) :
    Traces dataTypes (past ++ (g.dispatcher.work i).1.map .dispatched)
      { g with dispatcher := (g.dispatcher.work i).2 } := by
  have hrecords := h.records.work i
  have hadmits := Admits.work (h.sameTypes ▸ h.admits) i
  rw [h.sameTypes] at hadmits
  rcases Dispatcher.work_cases g.dispatcher i with hwork | ⟨job, e, task, world, hjob, hstep, hwork⟩
  · rw [hwork] at hrecords hadmits ⊢
    exact h.of_dispatch rfl hrecords hadmits (fun p hp => nomatch hp) (fun p hp => hp) rfl
  · rw [hwork] at hrecords hadmits ⊢
    exact h.of_dispatch rfl hrecords hadmits (fun p hp => nomatch hp) (fun p hp => hp)
      (Links.outlets_of_step hstep)

/-- Every move leaves the contents of a gateway where they came from. -/
theorem transition [Bus β] (h : Traces dataTypes past g) {arrival : Option (Option SocketAddress)}
    (hmove : g.Transition arrival events g') : Traces dataTypes (past ++ events) g' := by
  cases hmove with
  | rest hquiet hrests =>
    have hnot : ∀ {event : GatewayEvent}, event ∈ events → event.isQuiet = false → False := by
      intro event hevent hloud
      rw [hquiet event hevent] at hloud
      cases hloud
    refine h.of_move ?_ hrests.dataTypes hrests.jobs (Nat.le_of_eq (congrArg _ hrests.peers.symm))
      (fun p hp => Or.inl (hrests.waiting ▸ hp)) (fun p hp => (hnot hp rfl).elim)
      (fun c bytes hholds => Or.inl (hrests.held c bytes hholds))
      (fun c bytes hc => (hnot hc rfl).elim) (fun c id hc => (hnot hc rfl).elim)
      fun entry hentry => Or.inl (hrests.registry entry hentry)
    exact GatewayEvent.filterMap_of_quiet
      (fun event hevent => by cases event <;> first | rfl | cases hevent) hquiet
  | accept peer => exact h.accept peer
  | refuse isWritable hverdict =>
    exact h.of_move rfl rfl rfl (Nat.le_refl _) (fun p hp => Or.inl hp)
      (fun p hp => nomatch List.mem_singleton.1 hp) (fun c bytes hholds => Or.inl hholds)
      (fun c bytes hc => nomatch List.mem_singleton.1 hc)
      (fun c id hc => nomatch List.mem_singleton.1 hc) fun entry hentry => Or.inl hentry
  | read bytes hlink => exact h.read hlink bytes
  | publish hholds hqueue => exact h.publish hholds hqueue
  | poll => exact h.poll
  | work i => exact h.work i

end Traces

end KnxGateway.Gateway
