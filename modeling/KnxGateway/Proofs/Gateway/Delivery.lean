import KnxGateway.Proofs.Dispatch.Acceptance
import KnxGateway.Proofs.Gateway.FlowSteps
import Mathlib.Data.Set.Card

set_option autoImplicit false

/-! # From the readers to the dispatcher

Many readers publish in one bounded queue, from which one dispatcher takes. What a reader read from
its stream and the dispatcher has not taken yet is either in the queue or held by the reader, which
waits for room; so nothing gets lost, doubled or out of order on the way, as far as one connection
is concerned. Only when the gateway is told to stop may a reader give up what it holds. And as long
as the gateway is not told to, everything arrives: each fair round, in which all readers may publish
and the dispatcher may take, brings some packet further. -/

namespace KnxGateway

/-! ## Empty packets -/

/-- The layers that look at the bytes of a packet find other faults only. -/
theorem firstFault?_ne_empty (p : List UInt8) : firstFault? p ≠ some .empty := by
  simp only [firstFault?, faultTable, lookup_true_cons]
  split_ifs <;> simp

/-- Only an empty packet is at fault for being empty. -/
theorem eq_nil_of_receive {registry : Registry} {isOpen : Bool} {bytes : List UInt8}
    (h : receive registry isOpen bytes = .error .empty) : bytes = [] := by
  by_contra hnonempty
  cases isOpen with
  | false => simp [receive, hnonempty] at h
  | true =>
    cases hfault : firstFault? bytes with
    | some e =>
      rw [receive_of_firstFault? registry hnonempty hfault] at h
      cases h
      exact firstFault?_ne_empty bytes hfault
    | none =>
      obtain ⟨request, hrequest⟩ := exists_receive_of_take_eq registry hfault
      rw [hrequest bytes rfl] at h
      cases h

/-- A packet that is taken with the fault of an empty packet has waited, and is empty. -/
theorem Dispatcher.took_empty {β γ : Type} [Outlets γ] {d : Dispatcher β γ} {p : Packet}
    (h : .took p (some .empty) ∈ d.poll.1) : p ∈ d.queue.waiting ∧ p.bytes = [] := by
  rcases poll_cases d with ⟨running, -, hpoll⟩ | ⟨q, queue, htake, ⟨e, hreceive, hpoll⟩ |
    ⟨-, hpoll⟩ | ⟨request, -, hpoll⟩⟩ <;> rw [hpoll] at h
  · cases h
  · cases List.mem_singleton.1 h
    rw [(PacketQueue.take?_eq_some_iff.1 htake).1]
    exact ⟨List.mem_cons_self, eq_nil_of_receive hreceive⟩
  · cases List.mem_singleton.1 h
  · cases List.mem_singleton.1 h

namespace Gateway

variable {β : Type} {g g' : Gateway β} {c x : ConnectionId} {link : Link}

/-! ## The invariant -/

/-- What was read from a connection has been taken, or waits, or is held, or it was given up
    because the gateway is to stop. -/
def IsConserved (past : List GatewayEvent) (g : Gateway β) (c : ConnectionId) : Prop :=
  ∃ lost, GatewayEvent.receivedFrom past c =
      GatewayEvent.takenFrom past c ++ g.waitingFrom c ++ g.held c ++ lost ∧
    (lost = [] ∨ g.isStopping = true ∧ g.HasEnded c)

namespace IsConserved

variable {past past' : List GatewayEvent}

/-- A reader whose loop goes on has given nothing up. -/
theorem of_looping (h : IsConserved past g c) (hlink : g.links.get? c = some link)
    (hlooping : link.reader.isLooping = true) : GatewayEvent.receivedFrom past c =
      GatewayEvent.takenFrom past c ++ g.waitingFrom c ++ g.held c := by
  obtain ⟨lost, hconserved, rfl | ⟨-, other, hother, hover⟩⟩ := h
  · rw [hconserved, List.append_nil]
  · rw [hlink] at hother
    cases hother
    rw [hlooping] at hover
    cases hover

/-- Nothing is read, and what is taken leaves the queue. -/
theorem congr (h : IsConserved past g c)
    (hreceived : GatewayEvent.receivedFrom past' c = GatewayEvent.receivedFrom past c)
    (htaken : GatewayEvent.takenFrom past' c ++ g'.waitingFrom c =
      GatewayEvent.takenFrom past c ++ g.waitingFrom c)
    (hheld : g'.held c = g.held c) (hstop : g.isStopping = true → g'.isStopping = true)
    (hended : g.HasEnded c → g'.HasEnded c) : IsConserved past' g' c := by
  obtain ⟨lost, hconserved, hlost⟩ := h
  refine ⟨lost, ?_, hlost.imp_right fun ⟨hs, he⟩ => ⟨hstop hs, hended he⟩⟩
  rw [hreceived, htaken, hheld, hconserved]

end IsConserved

/-- How a gateway with the given past conveys packets. -/
structure Conveys (config : GatewayConfig) (past : List GatewayEvent) (g : Gateway β) : Prop where
  orderly : g.IsOrderly
  sameConfig : g.config = config
  capacity : g.dispatcher.queue.capacity = max config.queueCapacity 1
  room : g.dispatcher.queue.waiting.length ≤ g.dispatcher.queue.capacity
  conserved : ∀ c, IsConserved past g c
  chunks : ∀ c, ∀ bytes ∈ GatewayEvent.receivedFrom past c,
    bytes ≠ [] ∧ bytes.length ≤ config.readBufferSize
  faults : ∀ p, .took p (some .empty) ∉ GatewayEvent.dispatches past

namespace Conveys

variable {config : GatewayConfig} {past events : List GatewayEvent}

theorem idle (h : Conveys config past g) (horderly : g'.IsOrderly)
    (hidle : GatewayEvent.AreIdle events) (hidles : g.Idles g')
    (hstop : g.isStopping = true → g'.isStopping = true) : Conveys config (past ++ events) g' := by
  have hreceived : ∀ c, GatewayEvent.receivedFrom (past ++ events) c =
      GatewayEvent.receivedFrom past c := by
    intro c
    rw [GatewayEvent.receivedFrom_append, hidle.received, List.append_nil]
  have htaken : ∀ c, GatewayEvent.takenFrom (past ++ events) c ++ g'.waitingFrom c =
      GatewayEvent.takenFrom past c ++ g.waitingFrom c := by
    intro c
    rw [GatewayEvent.takenFrom_append, hidle.takenFrom_eq, List.append_nil, waitingFrom,
      hidles.waiting]
    rfl
  refine ⟨horderly, hidles.config.trans h.sameConfig, hidles.capacity.trans h.capacity, ?_,
    fun c => ?_, fun c bytes hmem => h.chunks c bytes (hreceived c ▸ hmem), fun p hmem => ?_⟩
  · rw [hidles.waiting, hidles.capacity]
    exact h.room
  · rcases hidles.held c with hheld | ⟨hstopping, hheld, hended⟩
    · exact (h.conserved c).congr (hreceived c) (htaken c) hheld hstop (hidles.ended c)
    · -- what the reader gave up comes before what it had given up already, which is nothing
      obtain ⟨lost, hconserved, -⟩ := h.conserved c
      refine ⟨g.held c ++ lost, ?_, Or.inr ⟨hstop hstopping, hended⟩⟩
      rw [hreceived, htaken, hheld, List.append_nil, ← List.append_assoc, hconserved]
  · rw [GatewayEvent.dispatches_append] at hmem
    exact (List.mem_append.1 hmem).elim (h.faults p) (hidle.took_not_mem p _)

theorem read (h : Conveys config past g) (hlink : g.links.get? c = some link)
    (hreading : link.reader = .reading) {bytes : List UInt8} (hnonempty : bytes ≠ [])
    (hfits : bytes.length ≤ g.config.readBufferSize)
    (horderly : ((g.record .packetsReceived).setReader c (.publishing bytes)).IsOrderly) :
    Conveys config (past ++ [.received c bytes])
      ((g.record .packetsReceived).setReader c (.publishing bytes)) := by
  have hheld : ((g.record .packetsReceived).setReader c (.publishing bytes)).held =
      Function.update g.held c [bytes] := held_setReader (g := g.record _) hlink (.publishing bytes)
  have hreceived : ∀ x, GatewayEvent.receivedFrom (past ++ [.received c bytes]) x =
      GatewayEvent.receivedFrom past x ++ if c = x then [bytes] else [] := by
    intro x
    rw [GatewayEvent.receivedFrom_append]
    by_cases heq : c = x <;> simp [GatewayEvent.receivedFrom, GatewayEvent.received?, heq]
  have htaken : ∀ x, GatewayEvent.takenFrom (past ++ [.received c bytes]) x =
      GatewayEvent.takenFrom past x := by
    intro x
    rw [GatewayEvent.takenFrom_append]
    exact List.append_nil _
  refine ⟨horderly, h.sameConfig, h.capacity, h.room, fun x => ?_, fun x piece hmem => ?_, ?_⟩
  · by_cases heq : c = x
    · subst heq
      -- the reader held nothing, so that the new bytes are behind everything else
      have hconserved := (h.conserved c).of_looping hlink (by rw [hreading]; rfl)
      rw [held_of_get? hlink, hreading] at hconserved
      refine ⟨[], ?_, Or.inl rfl⟩
      rw [hreceived, if_pos rfl, htaken, hheld, Function.update_self, hconserved, List.append_nil]
      exact congrArg (· ++ [bytes]) (List.append_nil _)
    · refine (h.conserved x).congr ?_ (congrArg (· ++ g.waitingFrom x) (htaken x)) ?_ id
        (hasEnded_setReader_of_ne heq)
      · rw [hreceived, if_neg heq, List.append_nil]
      · rw [hheld, Function.update_of_ne (Ne.symm heq)]
  · rw [hreceived] at hmem
    rcases List.mem_append.1 hmem with hmem | hmem
    · exact h.chunks x piece hmem
    · split at hmem
      · rw [List.mem_singleton.1 hmem]
        exact ⟨hnonempty, h.sameConfig ▸ hfits⟩
      · cases hmem
  · rw [GatewayEvent.dispatches_append]
    exact fun p hmem => (List.mem_append.1 hmem).elim (h.faults p) fun hnone => List.not_mem_nil hnone

theorem publish (h : Conveys config past g) (hlink : g.links.get? c = some link)
    {bytes : List UInt8} (hpublishing : link.reader = .publishing bytes) {queue : PacketQueue}
    (hqueue : g.dispatcher.queue.publish? ⟨c, bytes⟩ = some queue)
    (horderly : ((g.setQueue queue).setReader c .reading).IsOrderly) :
    Conveys config (past ++ [.published ⟨c, bytes⟩])
      ((g.setQueue queue).setReader c .reading) := by
  have hroom := PacketQueue.length_le_of_publish? hqueue
  obtain ⟨-, hbehind⟩ := PacketQueue.publish?_eq_some_iff.1 hqueue
  have hheld : ((g.setQueue queue).setReader c .reading).held = Function.update g.held c [] :=
    held_setReader (g := g.setQueue queue) hlink .reading
  have hwaiting : ∀ x, ((g.setQueue queue).setReader c .reading).waitingFrom x =
      g.waitingFrom x ++ if c = x then [bytes] else [] := by
    intro x
    change (packetsFrom queue.waiting x).map Packet.bytes = _
    rw [hbehind, packetsFrom_append, List.map_append]
    by_cases heq : c = x <;> simp [packetsFrom, waitingFrom, heq]
  have hreceived : ∀ x, GatewayEvent.receivedFrom (past ++ [.published ⟨c, bytes⟩]) x =
      GatewayEvent.receivedFrom past x := by
    intro x
    rw [GatewayEvent.receivedFrom_append]
    exact List.append_nil _
  have htaken : ∀ x, GatewayEvent.takenFrom (past ++ [.published ⟨c, bytes⟩]) x =
      GatewayEvent.takenFrom past x := by
    intro x
    rw [GatewayEvent.takenFrom_append]
    exact List.append_nil _
  have hcapacity : queue.capacity = g.dispatcher.queue.capacity := by rw [hbehind]
  refine ⟨horderly, h.sameConfig, hcapacity.trans h.capacity, hroom, fun x => ?_,
    fun x piece hmem => h.chunks x piece (hreceived x ▸ hmem), ?_⟩
  · by_cases heq : c = x
    · subst heq
      have hconserved := (h.conserved c).of_looping hlink (by rw [hpublishing]; rfl)
      rw [held_of_get? hlink, hpublishing] at hconserved
      refine ⟨[], ?_, Or.inl rfl⟩
      rw [hreceived, htaken, hwaiting, if_pos rfl, hheld, Function.update_self, hconserved,
        List.append_nil, List.append_nil, List.append_assoc]
      rfl
    · refine (h.conserved x).congr (hreceived x) ?_ ?_ id (hasEnded_setReader_of_ne heq)
      · rw [htaken, hwaiting, if_neg heq, List.append_nil]
      · rw [hheld, Function.update_of_ne (Ne.symm heq)]
  · rw [GatewayEvent.dispatches_append]
    exact fun p hmem => (List.mem_append.1 hmem).elim (h.faults p) fun hnone => List.not_mem_nil hnone

/-- What waits was read from a stream, and so is not empty. -/
theorem ne_nil_of_waiting (h : Conveys config past g) {p : Packet}
    (hp : p ∈ g.dispatcher.queue.waiting) : p.bytes ≠ [] := by
  obtain ⟨lost, hconserved, -⟩ := h.conserved p.connection
  have hwaiting : p.bytes ∈ g.waitingFrom p.connection :=
    List.mem_map_of_mem (List.mem_filter.2 ⟨hp, decide_eq_true rfl⟩)
  refine (h.chunks p.connection p.bytes ?_).1
  rw [hconserved]
  exact List.mem_append_left _ (List.mem_append_left _ (List.mem_append_right _ hwaiting))

theorem poll [Bus β] (h : Conveys config past g)
    (horderly : { g with dispatcher := g.dispatcher.poll.2 }.IsOrderly) :
    Conveys config (past ++ g.dispatcher.poll.1.map .dispatched)
      { g with dispatcher := g.dispatcher.poll.2 } := by
  obtain ⟨-, hstop, -, houtlets⟩ := Dispatcher.poll_frame g.dispatcher
  have hlinks : { g with dispatcher := g.dispatcher.poll.2 }.links = g.links := houtlets
  have hdispatches : GatewayEvent.dispatches (past ++ g.dispatcher.poll.1.map .dispatched) =
      GatewayEvent.dispatches past ++ g.dispatcher.poll.1 := by
    rw [GatewayEvent.dispatches_append, GatewayEvent.dispatches_map]
  have hreceived : ∀ c, GatewayEvent.receivedFrom (past ++ g.dispatcher.poll.1.map .dispatched) c =
      GatewayEvent.receivedFrom past c := by
    intro c
    rw [GatewayEvent.receivedFrom_append, GatewayEvent.receivedFrom_map, List.append_nil]
  have hqueue : g.dispatcher.poll.2.queue.capacity = g.dispatcher.queue.capacity ∧
      g.dispatcher.poll.2.queue.waiting.length ≤ g.dispatcher.queue.waiting.length := by
    rcases Dispatcher.poll_takes g.dispatcher with ⟨running, -, hpoll⟩ |
      ⟨p, queue, fault, started, htake, -, hqueue, -, -⟩
    · rw [hpoll]
      exact ⟨rfl, Nat.le_refl _⟩
    · obtain ⟨hwaiting, hcapacity, -⟩ := PacketQueue.take?_eq_some_iff.1 htake
      rw [hqueue, hwaiting]
      exact ⟨hcapacity, Nat.le_succ _⟩
  refine ⟨horderly, h.sameConfig, hqueue.1.trans h.capacity, ?_, fun c => ?_,
    fun c bytes hmem => h.chunks c bytes (hreceived c ▸ hmem), fun p hmem => ?_⟩
  · exact Nat.le_trans hqueue.2 (Nat.le_trans h.room (Nat.le_of_eq hqueue.1.symm))
  · refine (h.conserved c).congr (hreceived c) ?_ (congrFun (held_congr hlinks) c) ?_
      (hasEnded_congr hlinks).2
    · have hconserved := congrArg (List.map Packet.bytes)
        (packetsFrom_poll g.dispatcher (GatewayEvent.dispatches past) c)
      rw [List.map_append, List.map_append] at hconserved
      rw [GatewayEvent.takenFrom, hdispatches]
      exact hconserved
    · rw [isStopping, isStopping]
      exact fun hs => (congrArg StopSignal.stops hstop).trans hs
  · rw [hdispatches] at hmem
    rcases List.mem_append.1 hmem with hpast | hnow
    · exact h.faults p hpast
    · exact absurd (Dispatcher.took_empty hnow).2 (h.ne_nil_of_waiting (Dispatcher.took_empty hnow).1)

/-- Every move. -/
theorem step [Bus β] (h : Conveys config past g) (move : GatewayMove) :
    Conveys config (past ++ (g.step move).1) (g.step move).2 := by
  have horderly := h.orderly.step move
  have hflow := flowStep_step h.orderly move
  revert horderly hflow
  generalize g.step move = result, move.isCalm = isCalm
  obtain ⟨events, g'⟩ := result
  intro horderly hflow
  cases hflow with
  | idle hidle hidles hstop => exact h.idle horderly hidle hidles fun hs => hstop.trans hs
  | stop hidle hidles hstop => exact h.idle horderly hidle hidles fun _ => hstop
  | read c link bytes hlink hreading hnonempty hfits =>
    exact h.read hlink hreading hnonempty hfits horderly
  | publish c link bytes queue hlink hpublishing hqueue =>
    exact h.publish hlink hpublishing hqueue horderly
  | poll => exact h.poll horderly

/-- Every schedule. -/
theorem run [Bus β] (h : Conveys config past g) (schedule : List GatewayMove) :
    Conveys config (past ++ (g.run schedule).1) (g.run schedule).2 :=
  run_induction past h fun _ _ move _ h => h.step move

/-- Without a stop nothing is given up. -/
theorem received_eq (h : Conveys config past g) (hgoing : g.isStopping = false) (c : ConnectionId) :
    GatewayEvent.receivedFrom past c =
      GatewayEvent.takenFrom past c ++ g.waitingFrom c ++ g.held c := by
  obtain ⟨lost, hconserved, rfl | ⟨hstopping, -⟩⟩ := h.conserved c
  · rw [hconserved, List.append_nil]
  · rw [hgoing] at hstopping
    cases hstopping

end Conveys

/-! ## Fair rounds -/

/-- A round in which the dispatcher may take and all of so many readers may publish. Nobody sends
    anything more, and the gateway is not told to stop. -/
structure IsFairRound (connections : Nat) (round : List GatewayMove) : Prop where
  calm : ∀ move ∈ round, move.isCalm = true
  polls : .poll ∈ round
  publishes : ∀ c < connections, .publish c ∈ round

/-- The connections whose readers hold something. -/
def holders (g : Gateway β) : Set ConnectionId :=
  {c | g.held c ≠ []}

/-- How many moves of packets are still to come: out of the queue for those that wait, and into it
    before for those that are held. -/
noncomputable def backlog (g : Gateway β) : Nat :=
  g.dispatcher.queue.waiting.length + 2 * g.holders.ncard

theorem lt_length_of_mem_holders (h : c ∈ g.holders) : c < g.links.toList.length := by
  by_contra hge
  have hnone : g.links.get? c = none := List.getElem?_eq_none (Nat.not_lt.1 hge)
  refine h ?_
  rw [held, hnone]
  rfl

theorem holders_subset (g : Gateway β) : g.holders ⊆ Finset.range g.links.toList.length :=
  fun _ hc => Finset.mem_coe.2 (Finset.mem_range.2 (lt_length_of_mem_holders hc))

theorem finite_holders (g : Gateway β) : g.holders.Finite :=
  (Finset.finite_toSet _).subset g.holders_subset

theorem ncard_holders_le (g : Gateway β) : g.holders.ncard ≤ g.links.toList.length := by
  have hle := Set.ncard_le_ncard g.holders_subset (Finset.finite_toSet _)
  rwa [Set.ncard_coe_finset, Finset.card_range] at hle

theorem backlog_congr (hwaiting : g'.dispatcher.queue.waiting = g.dispatcher.queue.waiting)
    (hheld : g'.held = g.held) : g'.backlog = g.backlog := by
  rw [backlog, backlog, holders, holders, hwaiting, hheld]

/-- Nothing is under way when nothing is left to move. -/
theorem eq_nil_of_backlog (h : g.backlog = 0) :
    g.dispatcher.queue.waiting = [] ∧ ∀ c, g.held c = [] := by
  obtain ⟨hwaiting, hholders⟩ := Nat.add_eq_zero_iff.1 h
  refine ⟨List.length_eq_zero_iff.1 hwaiting, fun c => ?_⟩
  have hnone : g.holders = ∅ :=
    (Set.ncard_eq_zero g.finite_holders).1 ((Nat.mul_eq_zero.1 hholders).resolve_left (by decide))
  by_contra hheld
  have hmem : c ∈ g.holders := hheld
  rw [hnone] at hmem
  cases hmem

/-- What is handed on is held no more, and has less of its way before it. -/
theorem backlog_publish (hlink : g.links.get? c = some link) {bytes : List UInt8}
    (hpublishing : link.reader = .publishing bytes) {queue : PacketQueue}
    (hqueue : g.dispatcher.queue.publish? ⟨c, bytes⟩ = some queue) :
    ((g.setQueue queue).setReader c .reading).holders ⊆ g.holders ∧
      ((g.setQueue queue).setReader c .reading).backlog < g.backlog := by
  obtain ⟨-, hbehind⟩ := PacketQueue.publish?_eq_some_iff.1 hqueue
  have hheld : ((g.setQueue queue).setReader c .reading).held = Function.update g.held c [] :=
    held_setReader (g := g.setQueue queue) hlink .reading
  have hholders : ((g.setQueue queue).setReader c .reading).holders = g.holders \ {c} := by
    ext x
    by_cases heq : x = c
    · simp [holders, hheld, heq]
    · simp [holders, hheld, heq]
  have hmem : c ∈ g.holders := by
    change g.held c ≠ []
    rw [held_of_get? hlink, hpublishing]
    simp [ReaderPhase.pending]
  have hcard := Set.ncard_sdiff_singleton_add_one hmem g.finite_holders
  have hlength : ((g.setQueue queue).setReader c .reading).dispatcher.queue.waiting.length =
      g.dispatcher.queue.waiting.length + 1 := by
    change queue.waiting.length = _
    rw [hbehind, List.length_append, List.length_singleton]
  refine ⟨hholders ▸ Set.sdiff_subset, ?_⟩
  rw [backlog, backlog, hholders, hlength]
  omega

/-- A gateway that is in order and not told to stop. -/
structure IsGoing (g : Gateway β) : Prop where
  orderly : g.IsOrderly
  going : g.isStopping = false

namespace IsGoing

theorem running (h : g.IsGoing) : g.dispatcher.running = true :=
  h.orderly.running.resolve_right (by simp [h.going])

variable [Bus β] {move : GatewayMove}

/-- A calm move brings no packet back. Either it leaves everything under way where it is, or it
    brings a packet further. -/
theorem step (h : g.IsGoing) (hcalm : move.isCalm = true) :
    (g.step move).2.IsGoing ∧ (g.step move).2.holders ⊆ g.holders ∧
      (((g.step move).2.dispatcher.queue.waiting = g.dispatcher.queue.waiting ∧
          (g.step move).2.held = g.held) ∨
        (g.step move).2.backlog < g.backlog) := by
  have horderly := h.orderly.step move
  have hflow := flowStep_step h.orderly move
  rw [hcalm] at hflow
  revert horderly hflow
  generalize g.step move = result
  obtain ⟨events, g'⟩ := result
  intro horderly hflow
  cases hflow with
  | idle _ hidles hstop =>
    have hheld : g'.held = g.held := by
      funext c
      refine (hidles.held c).resolve_right fun ⟨hstopping, _⟩ => ?_
      rw [h.going] at hstopping
      cases hstopping
    refine ⟨⟨horderly, hstop.trans h.going⟩, ?_, Or.inl ⟨hidles.waiting, hheld⟩⟩
    rw [holders, holders, hheld]
  | publish c link bytes queue hlink hpublishing hqueue =>
    obtain ⟨hholders, hless⟩ := backlog_publish hlink hpublishing hqueue
    exact ⟨⟨horderly, h.going⟩, hholders, Or.inr hless⟩
  | poll =>
    obtain ⟨-, hstop, -, houtlets⟩ := Dispatcher.poll_frame g.dispatcher
    have hheld : { g with dispatcher := g.dispatcher.poll.2 }.held = g.held := held_congr houtlets
    refine ⟨⟨horderly, (congrArg StopSignal.stops hstop).trans h.going⟩, ?_, ?_⟩
    · rw [holders, holders, hheld]
    · rcases Dispatcher.poll_takes g.dispatcher with ⟨running, -, hpoll⟩ |
        ⟨p, queue, fault, started, htake, -, hqueue, -, -⟩
      · refine Or.inl ⟨?_, hheld⟩
        rw [hpoll]
      · refine Or.inr ?_
        rw [backlog, backlog, holders, hheld, hqueue, (PacketQueue.take?_eq_some_iff.1 htake).1,
          List.length_cons]
        exact Nat.add_lt_add_right (Nat.lt_succ_self _) _

theorem run (h : g.IsGoing) {schedule : List GatewayMove}
    (hcalm : ∀ move ∈ schedule, move.isCalm = true) :
    (g.run schedule).2.IsGoing ∧ (g.run schedule).2.holders ⊆ g.holders ∧
      (g.run schedule).2.backlog ≤ g.backlog := by
  refine run_induction (motive := fun _ g' => g'.IsGoing ∧ g'.holders ⊆ g.holders ∧
    g'.backlog ≤ g.backlog) [] ⟨h, Set.Subset.rfl, Nat.le_refl _⟩ ?_
  rintro - g' move hmove ⟨hgoing, hholders, hle⟩
  obtain ⟨hgoing', hholders', hmoved⟩ := hgoing.step (hcalm move hmove)
  refine ⟨hgoing', hholders'.trans hholders, Nat.le_trans ?_ hle⟩
  rcases hmoved with ⟨hwaiting, hheld⟩ | hless
  · exact Nat.le_of_eq (backlog_congr hwaiting hheld)
  · exact Nat.le_of_lt hless

/-- A schedule brings some packet further if it contains a move that does so for as long as nothing
    else does. -/
theorem backlog_lt_of_mem (h : g.IsGoing) {schedule : List GatewayMove}
    (hcalm : ∀ move ∈ schedule, move.isCalm = true) (hmem : move ∈ schedule)
    (hmoves : ∀ g' : Gateway β, g'.IsGoing →
      g'.dispatcher.queue.waiting = g.dispatcher.queue.waiting → g'.held = g.held →
      (g'.step move).2.backlog < g'.backlog) :
    (g.run schedule).2.backlog < g.backlog := by
  -- until something moves, everything under way stays where it is
  induction schedule generalizing g with
  | nil => cases hmem
  | cons first schedule ih =>
    have hrest : ∀ move ∈ schedule, move.isCalm = true :=
      fun later hlater => hcalm later (List.mem_cons_of_mem _ hlater)
    obtain ⟨hgoing, -, hmoved⟩ := h.step (hcalm first List.mem_cons_self)
    have hle := (hgoing.run hrest).2.2
    rcases List.mem_cons.1 hmem with rfl | hmem
    · exact Nat.lt_of_le_of_lt hle (hmoves g h rfl rfl)
    rcases hmoved with ⟨hwaiting, hheld⟩ | hless
    · have hlater := ih hgoing hrest hmem fun g' hg' hwaiting' hheld' =>
        hmoves g' hg' (hwaiting'.trans hwaiting) (hheld'.trans hheld)
      rwa [backlog_congr hwaiting hheld] at hlater
    · exact Nat.lt_of_le_of_lt hle hless

/-- A fair round brings some packet further, if any is under way. -/
theorem round (h : g.IsGoing) (hbacklog : 0 < g.backlog) {connections : Nat}
    (hholders : ∀ c ∈ g.holders, c < connections) {round : List GatewayMove}
    (hfair : IsFairRound connections round) : (g.run round).2.backlog < g.backlog := by
  cases hwaiting : g.dispatcher.queue.waiting with
  | cons p rest =>
    refine h.backlog_lt_of_mem hfair.calm hfair.polls fun g' hg' hwaiting' hheld' => ?_
    have hpoll := Dispatcher.poll_of_cons hg'.running hg'.going (hwaiting'.trans hwaiting)
    have hheld : (g'.step .poll).2.held = g'.held :=
      held_congr (Dispatcher.poll_frame g'.dispatcher).2.2.2
    have hshorter : (g'.step .poll).2.dispatcher.queue.waiting = rest := by
      simp only [Gateway.step, hpoll]
    rw [backlog, backlog, holders, hheld, hshorter, hwaiting', hwaiting, List.length_cons]
    exact Nat.add_lt_add_right (Nat.lt_succ_self _) _
  | nil =>
    -- the queue has room, so that a reader that holds something gets rid of it
    obtain ⟨c, hc⟩ : g.holders.Nonempty := by
      rw [← Set.ncard_pos g.finite_holders]
      rw [backlog, hwaiting] at hbacklog
      simpa using hbacklog
    refine h.backlog_lt_of_mem hfair.calm (hfair.publishes c (hholders c hc))
      fun g' hg' hwaiting' hheld' => ?_
    have hholds : g'.held c ≠ [] := hheld' ▸ hc
    obtain ⟨⟨id, peer, isOpen, isWritable, reader⟩, hlink⟩ : ∃ link, g'.links.get? c = some link :=
      ⟨_, List.getElem?_eq_getElem (lt_length_of_mem_holders hholds)⟩
    rw [held_of_get? hlink] at hholds
    cases reader with
    | publishing bytes =>
      have hroom : g'.dispatcher.queue.hasRoom = true := by
        simpa [PacketQueue.hasRoom, hwaiting', hwaiting] using hg'.orderly.hasRoom
      obtain ⟨queue, hqueue⟩ : ∃ queue, g'.dispatcher.queue.publish? ⟨c, bytes⟩ = some queue :=
        ⟨_, PacketQueue.publish?_eq_some_iff.2 ⟨hroom, rfl⟩⟩
      have hstep : (g'.step (.publish c)).2 = (g'.setQueue queue).setReader c .reading := by
        simp only [Gateway.step, Gateway.publish, hlink, hg'.running, if_true, hqueue]
      rw [hstep]
      exact (backlog_publish hlink rfl hqueue).2
    | _ => exact absurd rfl hholds

/-- As many fair rounds as there are moves of packets to come leave nothing under way. -/
theorem rounds (h : g.IsGoing) {connections : Nat} (hholders : ∀ c ∈ g.holders, c < connections)
    {rounds : List (List GatewayMove)} (hfair : ∀ round ∈ rounds, IsFairRound connections round)
    (henough : g.backlog ≤ rounds.length) :
    (g.run rounds.flatten).2.IsGoing ∧ (g.run rounds.flatten).2.backlog = 0 := by
  induction rounds generalizing g with
  | nil => exact ⟨h, Nat.le_zero.1 henough⟩
  | cons round rounds ih =>
    have hround := hfair round List.mem_cons_self
    obtain ⟨hgoing, hsubset, hle⟩ := h.run hround.calm
    rw [List.flatten_cons, run_append]
    refine ih hgoing (fun c hc => hholders c (hsubset hc))
      (fun later hlater => hfair later (List.mem_cons_of_mem _ hlater)) ?_
    rw [List.length_cons] at henough
    rcases Nat.eq_zero_or_pos g.backlog with hzero | hpos
    · rw [hzero] at hle
      exact Nat.le_trans hle (Nat.zero_le _)
    · exact Nat.le_of_lt_succ (Nat.lt_of_lt_of_le (h.round hpos hholders hround) henough)

end IsGoing

/-! ## Every run -/

theorem conveys_fresh (config : GatewayConfig) (dataTypes : Registry) (bus : β)
    (metrics : Metrics) :
    Conveys config []
      (fresh config dataTypes ⟨max config.queueCapacity 1, [], false⟩ bus metrics) :=
  ⟨⟨Nat.lt_of_lt_of_le Nat.one_pos (Nat.le_max_right _ _), Or.inl rfl, Or.inl rfl, Or.inl rfl⟩,
    rfl, rfl, Nat.zero_le _, fun _ => ⟨[], rfl, Or.inl rfl⟩, fun _ _ hmem => (nomatch hmem),
    fun _ hmem => (nomatch hmem)⟩

/-- Whatever the size of its buffers and the capacity of its queue, a gateway conveys what its
    readers read piece by piece. What the dispatcher has taken of a connection is a prefix of the
    pieces that its reader read, and together a prefix of the bytes; no piece is empty or greater
    than a buffer, and the queue never holds more than it may. Unless the gateway is told to stop,
    all pieces that have not been taken are in the queue or held by the reader, and once the
    clients send nothing more they all arrive within a few fair rounds. -/
theorem run_conveys_in_order [Bus β] (config : GatewayConfig) (dataTypes : Registry) (bus : β)
    (metrics : Metrics) {schedule : List GatewayMove} {events : List GatewayEvent}
    {g : Gateway β}
    (hrun : (fresh config dataTypes ⟨max config.queueCapacity 1, [], false⟩ bus metrics).run
      schedule = (events, g)) :
    (∀ c, GatewayEvent.takenFrom events c <+: GatewayEvent.receivedFrom events c) ∧
      (∀ c, (GatewayEvent.takenFrom events c).flatten <+:
        (GatewayEvent.receivedFrom events c).flatten) ∧
      (∀ c, ∀ bytes ∈ GatewayEvent.receivedFrom events c,
        1 ≤ bytes.length ∧ bytes.length ≤ config.readBufferSize) ∧
      (∀ p, .dispatched (.took p (some .empty)) ∉ events) ∧
      g.dispatcher.queue.waiting.length ≤ max config.queueCapacity 1 ∧
      (g.isStopping = false →
        (∀ c, GatewayEvent.receivedFrom events c =
          GatewayEvent.takenFrom events c ++ g.waitingFrom c ++ g.held c) ∧
        ∀ rounds : List (List GatewayMove),
          (∀ round ∈ rounds, IsFairRound g.links.toList.length round) →
          max config.queueCapacity 1 + 2 * g.links.toList.length ≤ rounds.length →
          ∀ c, GatewayEvent.takenFrom (events ++ (g.run rounds.flatten).1) c =
            GatewayEvent.receivedFrom (events ++ (g.run rounds.flatten).1) c) := by
  have hconveys : Conveys config events g := by
    have h := (conveys_fresh config dataTypes bus metrics).run schedule
    rwa [hrun, List.nil_append] at h
  have hfirst : ∀ c, GatewayEvent.takenFrom events c <+: GatewayEvent.receivedFrom events c := by
    intro c
    obtain ⟨lost, hconserved, -⟩ := hconveys.conserved c
    rw [hconserved, List.append_assoc, List.append_assoc]
    exact List.prefix_append _ _
  refine ⟨hfirst, fun c => ?_, fun c bytes hmem => ?_, fun p hmem => ?_,
    hconveys.capacity ▸ hconveys.room, fun hgoing => ⟨hconveys.received_eq hgoing, ?_⟩⟩
  · obtain ⟨rest, hrest⟩ := hfirst c
    rw [← hrest, List.flatten_append]
    exact List.prefix_append _ _
  · obtain ⟨hnonempty, hfits⟩ := hconveys.chunks c bytes hmem
    exact ⟨List.length_pos_iff.2 hnonempty, hfits⟩
  · exact hconveys.faults p (List.mem_filterMap.2 ⟨_, hmem, rfl⟩)
  · intro rounds hfair henough c
    have hg : g.IsGoing := ⟨hconveys.orderly, hgoing⟩
    have hbacklog : g.backlog ≤ rounds.length := by
      have hroom := hconveys.room
      have hholders := g.ncard_holders_le
      rw [hconveys.capacity] at hroom
      rw [backlog]
      omega
    obtain ⟨hgoing', hnothing⟩ :=
      hg.rounds (fun c hc => lt_length_of_mem_holders hc) hfair hbacklog
    obtain ⟨hempty, hheld⟩ := eq_nil_of_backlog hnothing
    rw [(hconveys.run rounds.flatten).received_eq hgoing'.going c, waitingFrom, hempty, hheld,
      List.append_nil]
    exact (List.append_nil _).symm

/-- Two readers and a queue for one packet, which is full: both readers wait for room. Five rounds
    bring everything to the dispatcher. -/
theorem run_conveys_in_order_full :
    ∃ (config : GatewayConfig) (schedule : List GatewayMove) (events : List GatewayEvent)
      (g : Gateway MemoryBus) (rounds : List (List GatewayMove)),
      (fresh config .reference ⟨max config.queueCapacity 1, [], false⟩ .initial .zero).run schedule =
          (events, g) ∧
        config.queueCapacity = 0 ∧ g.isStopping = false ∧
        g.waitingFrom 0 = [[1, 2]] ∧ g.held 0 = [[3]] ∧ g.held 1 = [[4, 5, 6]] ∧
        GatewayEvent.takenFrom (events ++ (g.run rounds.flatten).1) 0 = [[1, 2], [3]] ∧
        GatewayEvent.takenFrom (events ++ (g.run rounds.flatten).1) 1 = [[4, 5, 6]] := by
  let config : GatewayConfig := { GatewayConfig.default with queueCapacity := 0, readBufferSize := 16 }
  let schedule : List GatewayMove :=
    [.connect (some ⟨.v4 ⟨127, 0, 0, 1⟩, 40000⟩), .connect (some ⟨.v4 ⟨127, 0, 0, 1⟩, 40001⟩),
      .read 0 [1, 2], .publish 0, .read 1 [4, 5, 6], .read 0 [3], .publish 1, .publish 0]
  let rounds : List (List GatewayMove) :=
    List.replicate 5 [.publish 1, .publish 0, .readEnd 0, .poll]
  let g₀ : Gateway MemoryBus := fresh config .reference ⟨1, [], false⟩ .initial .zero
  obtain ⟨hgoing, hlength, hwaiting, hheld, hheld', hreceived, hreceived'⟩ :
      (g₀.run schedule).2.isStopping = false ∧ (g₀.run schedule).2.links.toList.length = 2 ∧
        (g₀.run schedule).2.waitingFrom 0 = [[1, 2]] ∧ (g₀.run schedule).2.held 0 = [[3]] ∧
        (g₀.run schedule).2.held 1 = [[4, 5, 6]] ∧
        GatewayEvent.receivedFrom
          ((g₀.run schedule).1 ++ ((g₀.run schedule).2.run rounds.flatten).1) 0 = [[1, 2], [3]] ∧
        GatewayEvent.receivedFrom
          ((g₀.run schedule).1 ++ ((g₀.run schedule).2.run rounds.flatten).1) 1 = [[4, 5, 6]] := by
    decide +kernel
  have hrun : g₀.run schedule = ((g₀.run schedule).1, (g₀.run schedule).2) := (Prod.eta _).symm
  obtain ⟨-, -, -, -, -, hdelivers⟩ :=
    run_conveys_in_order config .reference MemoryBus.initial .zero hrun
  have hfair : ∀ round ∈ rounds, IsFairRound (g₀.run schedule).2.links.toList.length round := by
    intro round hround
    rw [List.eq_of_mem_replicate hround, hlength]
    refine ⟨by simp [GatewayMove.isCalm], by simp, fun c hc => ?_⟩
    have hclients : c = 1 ∨ c = 0 := by omega
    simpa using hclients
  have harrived := (hdelivers hgoing).2 rounds hfair (by rw [hlength]; decide)
  exact ⟨config, schedule, _, _, rounds, hrun, rfl, hgoing, hwaiting, hheld, hheld',
    (harrived 0).trans hreceived, (harrived 1).trans hreceived'⟩

end Gateway

end KnxGateway
