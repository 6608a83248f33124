import KnxGateway.Proofs.Gateway.Provenance
import KnxGateway.Proofs.Peer.AllowList
import Mathlib.Data.List.Perm.Basic

set_option autoImplicit false

/-! # Nobody is served who may not connect

Whatever a gateway holds or does for a client goes back to a connection: packets were read from
one, jobs were started by packets, and jobs answer on the connection of their packet. Connections
are registered in one place only, where a client has just been judged and was allowed. So no byte
of any other client is ever read, and all that such a client gets is the notice of its refusal. -/

namespace KnxGateway

/-! ## What is counted -/

/-- Whether a counter counts clients. -/
def Counter.countsClients : Counter → Bool
  | connectionsAccepted | connectionsRejected => true
  | _ => false

/-- The number of clients that were counted, whether they were accepted or rejected. -/
def Metrics.clients (m : Metrics) : Nat :=
  m.connectionsAccepted + m.connectionsRejected

theorem Metrics.clients_record (m : Metrics) (counter : Counter) :
    (m.record counter).clients = m.clients + if counter.countsClients then 1 else 0 := by
  cases counter <;> simp [clients, record, Counter.countsClients] <;> omega

/-- For a request no clients are counted. -/
theorem Request.countsClients_of_mem {request : Request} {effects : List Effect}
    (h : RequestTask.Performs request.task effects) {counter : Counter}
    (hmem : .counted counter ∈ effects) : counter.countsClients = false := by
  obtain ⟨answers, rfl⟩ := RequestTask.exists_transcript_of_performs h
  have hsent : ∀ (r : Response) (action : Action) (outcome : SendOutcome),
      .counted counter ∈ r.handOver action outcome → counter.countsClients = false := by
    intro r action outcome hcounted
    simp only [Response.handOver, List.mem_cons, reduceCtorEq, Effect.counted.injEq,
      List.not_mem_nil, or_false, false_or] at hcounted
    rw [hcounted]
    cases outcome <;> rfl
  rcases List.mem_append.1 hmem with hfront | hclosing
  · rcases List.mem_append.1 hfront with hopening | hannouncement
    · unfold opening at hopening
      split at hopening
      · cases hopening
      · next call hcall =>
        have hbus := isBusRequest_of_busCall? hcall
        rcases List.mem_cons.1 hopening with hcounted | hopening
        · cases hcounted
          rfl
        rcases List.mem_cons.1 hopening with rfl | hfailed
        · cases hbus
        split at hfailed
        · cases hfailed
        · cases List.mem_singleton.1 hfailed
          rfl
    · unfold announcement at hannouncement
      split at hannouncement
      · rcases List.mem_append.1 hannouncement with hcounted | hlookup
        · exact hsent _ _ _ hcounted
        · cases List.mem_singleton.1 hlookup
      · cases hannouncement
  · exact hsent _ _ _ hclosing

/-- A task counts by an effect of its own, or not at all. -/
theorem RequestTask.clients_of_step {β γ : Type} [Bus β] [Outlets γ] {c : ConnectionId}
    {task next : RequestTask} {w w' : World β γ} {e : Effect}
    (h : task.step c w = some (e, next, w'))
    (hcounted : ∀ counter, e = .counted counter → counter.countsClients = false) :
    w'.metrics.clients = w.metrics.clients := by
  cases task <;> simp only [step, Option.some.injEq, Prod.mk.injEq, reduceCtorEq] at h <;>
    obtain ⟨rfl, -, rfl⟩ := h
  · rw [World.record, Metrics.clients_record, hcounted _ rfl]
    rfl
  all_goals rfl

/-! ## Verdicts -/

namespace GatewayEvent

/-- The verdict about a client, if the event is that it was judged. -/
def verdict? : GatewayEvent → Option Verdict
  | judged verdict => some verdict
  | _ => none

/-- The verdict about a client, if the event is that it was refused. -/
def refusal? : GatewayEvent → Option Verdict
  | refused verdict _ _ => some verdict
  | _ => none

/-- The verdicts about clients, in order. -/
def verdicts (events : List GatewayEvent) : List Verdict :=
  events.filterMap verdict?

/-- The verdicts about the clients that were refused, in the order in which they were. -/
def refusals (events : List GatewayEvent) : List Verdict :=
  events.filterMap refusal?

variable {events later : List GatewayEvent}

theorem verdicts_append : verdicts (events ++ later) = verdicts events ++ verdicts later :=
  List.filterMap_append

theorem refusals_append : refusals (events ++ later) = refusals events ++ refusals later :=
  List.filterMap_append

theorem verdicts_of_quiet (h : ∀ event ∈ events, event.isQuiet = true) : verdicts events = [] :=
  filterMap_of_quiet (fun event hevent => by cases event <;> first | rfl | cases hevent) h

theorem refusals_of_quiet (h : ∀ event ∈ events, event.isQuiet = true) : refusals events = [] :=
  filterMap_of_quiet (fun event hevent => by cases event <;> first | rfl | cases hevent) h

/-- Events that refuse nobody can be left aside. -/
theorem refused_mem_of_append (h : refusals later = []) {verdict : Verdict}
    {outcome : SendOutcome} {bytes : List UInt8}
    (hmem : .refused verdict outcome bytes ∈ events ++ later) :
    .refused verdict outcome bytes ∈ events :=
  (List.mem_append.1 hmem).resolve_right fun hnow =>
    nomatch List.filterMap_eq_nil_iff.1 h _ hnow

end GatewayEvent

namespace Gateway

variable {β : Type}

section Accepting

variable (g : Gateway β) (peer : Option SocketAddress)

theorem verdicts_accept : GatewayEvent.verdicts (g.accept peer).1 = [g.allowList.judge peer] := by
  unfold accept
  cases g.allowList.judge peer <;> rfl

theorem refusals_accept : GatewayEvent.refusals (g.accept peer).1 = [] := by
  unfold accept
  cases g.allowList.judge peer <;> rfl

/-- Every other client is to be refused. -/
theorem pending_accept :
    (g.accept peer).2.refusals =
      g.refusals ++ [g.allowList.judge peer].filter fun verdict => !verdict.isAllowed := by
  unfold accept
  cases g.allowList.judge peer with
  | allowed admitted => exact (List.append_nil _).symm
  | rejected _ | unresolved => rfl

theorem clients_accept : (g.accept peer).2.metrics.clients = g.metrics.clients + 1 := by
  unfold accept
  cases g.allowList.judge peer with
  | allowed _ => exact Metrics.clients_record g.metrics .connectionsAccepted
  | rejected _ | unresolved => exact Metrics.clients_record g.metrics .connectionsRejected

theorem frame_accept :
    (g.accept peer).2.allowList = g.allowList ∧ (g.accept peer).2.config = g.config := by
  unfold accept
  cases g.allowList.judge peer <;> exact ⟨rfl, rfl⟩

end Accepting

/-- How a gateway with the given past has judged the clients that came to it. -/
structure Judges (l : AllowList) (config : GatewayConfig) (counted : Nat)
    (clients : List (Option SocketAddress)) (past : List GatewayEvent) (g : Gateway β) : Prop where
  sameList : g.allowList = l
  sameConfig : g.config = config
  verdicts : GatewayEvent.verdicts past = clients.map l.judge
  peers : g.peers = (clients.map l.judge).filterMap Verdict.admitted?
  refusals : (GatewayEvent.refusals past ++ g.refusals).Perm
    ((clients.map l.judge).filter fun verdict => !verdict.isAllowed)
  notices : ∀ verdict outcome bytes, .refused verdict outcome bytes ∈ past →
    ∃ isWritable, (outcome, bytes) = KnxGateway.refuse verdict config.notifyRejected isWritable
  counts : g.metrics.clients = counted + clients.length

namespace Judges

variable {l : AllowList} {config : GatewayConfig} {counted : Nat}
  {clients : List (Option SocketAddress)} {past events : List GatewayEvent} {g g' : Gateway β}

/-- A move that neither judges nor refuses anybody. -/
theorem of_unchanged (h : Judges l config counted clients past g)
    (hverdicts : GatewayEvent.verdicts events = []) (hrefusals : GatewayEvent.refusals events = [])
    (hlist : g'.allowList = g.allowList) (hconfig : g'.config = g.config)
    (hpeers : g'.peers = g.peers) (hpending : g'.refusals = g.refusals)
    (hcounts : g'.metrics.clients = g.metrics.clients) :
    Judges l config counted clients (past ++ events) g' := by
  refine ⟨hlist.trans h.sameList, hconfig.trans h.sameConfig, ?_, hpeers.trans h.peers, ?_,
    fun verdict outcome bytes hmem =>
      h.notices verdict outcome bytes (GatewayEvent.refused_mem_of_append hrefusals hmem),
    hcounts.trans h.counts⟩
  · rw [GatewayEvent.verdicts_append, hverdicts, List.append_nil]
    exact h.verdicts
  · rw [GatewayEvent.refusals_append, hrefusals, List.append_nil, hpending]
    exact h.refusals

theorem accept (h : Judges l config counted clients past g) (peer : Option SocketAddress) :
    Judges l config counted (clients ++ [peer]) (past ++ (g.accept peer).1) (g.accept peer).2 := by
  obtain ⟨hlist, hconfig⟩ := frame_accept g peer
  refine ⟨hlist.trans h.sameList, hconfig.trans h.sameConfig, ?_, ?_, ?_,
    fun verdict outcome bytes hmem => h.notices verdict outcome bytes
      (GatewayEvent.refused_mem_of_append (refusals_accept g peer) hmem), ?_⟩
  · rw [GatewayEvent.verdicts_append, verdicts_accept, h.verdicts, h.sameList, List.map_append]
    rfl
  · rw [peers_accept, h.peers, h.sameList, List.map_append, List.filterMap_append]
    rfl
  · rw [GatewayEvent.refusals_append, refusals_accept, List.append_nil, pending_accept,
      h.sameList, List.map_append, List.filter_append, ← List.append_assoc]
    exact h.refusals.append_right _
  · rw [clients_accept, h.counts, List.length_append, List.length_singleton, Nat.add_assoc]

theorem refuse (h : Judges l config counted clients past g) {i : Nat} {verdict : Verdict}
    (hverdict : g.refusals[i]? = some verdict) (isWritable : Bool) :
    Judges l config counted clients
      (past ++ [.refused verdict
        (KnxGateway.refuse verdict g.config.notifyRejected isWritable).1
        (KnxGateway.refuse verdict g.config.notifyRejected isWritable).2])
      { g with refusals := g.refusals.eraseIdx i } := by
  refine ⟨h.sameList, h.sameConfig, ?_, h.peers, ?_, fun other outcome bytes hmem => ?_, h.counts⟩
  · rw [GatewayEvent.verdicts_append]
    exact (List.append_nil _).trans h.verdicts
  · -- the refusal leaves the list of those that are still to come
    obtain ⟨hi, rfl⟩ := List.getElem?_eq_some_iff.1 hverdict
    rw [GatewayEvent.refusals_append, List.append_assoc]
    exact ((List.getElem_cons_eraseIdx_perm hi).append_left _).trans h.refusals
  · rcases List.mem_append.1 hmem with hpast | hnow
    · exact h.notices other outcome bytes hpast
    · cases List.mem_singleton.1 hnow
      exact ⟨isWritable, by rw [h.sameConfig]⟩

end Judges

/-! ## Runs -/

/-- The work of a job counts no clients. -/
theorem clients_work [Bus β] {d : Dispatcher β Links} {past : List DispatchEvent}
    (h : d.Records past) (i : Nat) :
    (d.work i).2.world.metrics.clients = d.world.metrics.clients := by
  rcases Dispatcher.work_cases d i with hwork | ⟨job, e, task, world, hjob, hstep, hwork⟩
  · rw [hwork]
  · rw [hwork]
    refine RequestTask.clients_of_step hstep fun counter hcounter => ?_
    -- what the job does now is part of what its request asks for
    obtain ⟨rest, hrest⟩ := RequestTask.exists_performs task
    have hperforms := h.performs i job hjob _ (RequestTask.performs_of_step hstep hrest)
    exact Request.countsClients_of_mem hperforms (by simp [hcounter])

theorem clients_poll [Bus β] (d : Dispatcher β Links) :
    d.poll.2.world.metrics.clients = d.world.metrics.clients := by
  rcases Dispatcher.poll_cases d with ⟨running, -, hpoll⟩ | ⟨p, queue, -, ⟨e, -, hpoll⟩ |
    ⟨-, hpoll⟩ | ⟨request, -, hpoll⟩⟩
  · rw [hpoll]
  · rw [hpoll]
    exact Metrics.clients_record d.world.metrics .formatErrors
  · rw [hpoll]
    exact Metrics.clients_record d.world.metrics .responsesSkipped
  · rw [hpoll]

section Runs

variable {l : AllowList} {config : GatewayConfig} {counted : Nat}
  {clients : List (Option SocketAddress)} {dataTypes : Registry} {past events : List GatewayEvent}
  {g g' : Gateway β}

theorem Judges.transition [Bus β] (h : Judges l config counted clients past g)
    (htraces : Traces dataTypes past g) {arrival : Option (Option SocketAddress)}
    (hmove : g.Transition arrival events g') :
    Judges l config counted (clients ++ arrival.toList) (past ++ events) g' := by
  have hdispatch : ∀ {events : List DispatchEvent} {d : Dispatcher β Links},
      d.world.outlets = g.links → d.world.metrics.clients = g.metrics.clients →
      Judges l config counted (clients ++ []) (past ++ events.map .dispatched)
        { g with dispatcher := d } := by
    intro events d houtlets hcounts
    rw [List.append_nil]
    refine h.of_unchanged (GatewayEvent.filterMap_map_dispatched (fun _ => rfl) _)
      (GatewayEvent.filterMap_map_dispatched (fun _ => rfl) _) rfl rfl ?_ rfl hcounts
    rw [Gateway.peers, Gateway.peers, ← houtlets]
    rfl
  cases hmove with
  | rest hquiet hrests =>
    rw [Option.toList_none, List.append_nil]
    exact h.of_unchanged (GatewayEvent.verdicts_of_quiet hquiet)
      (GatewayEvent.refusals_of_quiet hquiet) hrests.allowList hrests.config hrests.peers
      hrests.refusals (congrArg Metrics.clients hrests.metrics)
  | accept peer => exact h.accept peer
  | refuse isWritable hverdict =>
    rw [Option.toList_none, List.append_nil]
    exact h.refuse hverdict isWritable
  | read bytes hlink =>
    rw [Option.toList_none, List.append_nil]
    exact h.of_unchanged rfl rfl rfl rfl (peers_setReader _ _ _) rfl
      (Metrics.clients_record g.metrics .packetsReceived)
  | publish hholds hqueue =>
    rw [Option.toList_none, List.append_nil]
    exact h.of_unchanged rfl rfl rfl rfl (peers_setReader _ _ _) rfl rfl
  | poll =>
    obtain ⟨-, -, -, houtlets⟩ := Dispatcher.poll_frame g.dispatcher
    exact hdispatch houtlets (clients_poll g.dispatcher)
  | work i =>
    refine hdispatch ?_ (clients_work htraces.records i)
    rcases Dispatcher.work_cases g.dispatcher i with hwork | ⟨job, e, task, world, -, hstep, hwork⟩
    · rw [hwork]
      rfl
    · rw [hwork]
      exact Links.outlets_of_step hstep

/-- Every schedule. -/
theorem Judges.run [Bus β] (h : Judges l config counted clients past g)
    (htraces : Traces dataTypes past g) (schedule : List GatewayMove) :
    Judges l config counted (clients ++ g.arrivals schedule) (past ++ (g.run schedule).1)
        (g.run schedule).2 ∧
      Traces dataTypes (past ++ (g.run schedule).1) (g.run schedule).2 := by
  induction schedule generalizing clients past g with
  | nil =>
    rw [Gateway.run, arrivals, List.append_nil, List.append_nil]
    exact ⟨h, htraces⟩
  | cons move schedule ih =>
    have hmove := g.transition_step move
    have hlater := ih (h.transition htraces hmove) (htraces.transition hmove)
    rw [List.append_assoc, List.append_assoc] at hlater
    exact hlater

end Runs

/-! ## Who is served -/

/-- A connection was accepted from a peer that the allow-list allows. -/
def Authorized (g : Gateway β) (l : AllowList) (c : ConnectionId) : Prop :=
  ∃ link, g.links.get? c = some link ∧ l.allows link.peer.ip = true

theorem Judges.authorized {l : AllowList} {config : GatewayConfig} {counted : Nat}
    {clients : List (Option SocketAddress)} {past : List GatewayEvent} {g : Gateway β}
    (h : Judges l config counted clients past g) {c : ConnectionId} (hc : c < g.peers.length) :
    g.Authorized l c := by
  have hpeer := List.getElem?_eq_getElem hc
  rw [getElem?_peers] at hpeer
  obtain ⟨link, hlink, hlinkPeer⟩ := Option.map_eq_some_iff.1 hpeer
  have hmem : link.peer ∈ g.peers := hlinkPeer ▸ List.getElem_mem hc
  rw [h.peers, List.filterMap_map] at hmem
  obtain ⟨client, -, hadmitted⟩ := List.mem_filterMap.1 hmem
  refine ⟨link, hlink, ?_⟩
  have hjudge : l.judge client = .allowed link.peer := by
    rw [Function.comp_apply] at hadmitted
    cases hverdict : l.judge client with
    | allowed peer =>
      rw [hverdict] at hadmitted
      exact congrArg Verdict.allowed (Option.some.inj hadmitted)
    | rejected _ | unresolved =>
      rw [hverdict] at hadmitted
      cases hadmitted
  exact (AllowList.judge_eq_allowed_iff.1 hjudge).2

/-- All that a gateway with the given past has read, keeps and does stems from authorized
    connections. -/
structure ServesAuthorized (l : AllowList) (dataTypes : Registry) (past : List GatewayEvent)
    (g : Gateway β) : Prop where
  received : ∀ c bytes, .received c bytes ∈ past → g.Authorized l c
  waiting : ∀ p ∈ g.dispatcher.queue.waiting,
    g.Authorized l p.connection ∧ .received p.connection p.bytes ∈ past
  taken : ∀ p fault, .dispatched (.took p fault) ∈ past →
    g.Authorized l p.connection ∧ .received p.connection p.bytes ∈ past
  /-- Requests of the bus and replies are among the effects of jobs. -/
  worked : ∀ i effect, .dispatched (.worked i effect) ∈ past →
    ∃ job p fault effects, g.dispatcher.jobs[i]? = some job ∧ g.Authorized l job.connection ∧
      .dispatched (.took p fault) ∈ past ∧ p.connection = job.connection ∧
      receive dataTypes true p.bytes = .ok (.accepted job.request) ∧
      RequestTask.Performs job.request.task effects ∧ effect ∈ effects
  registered : ∀ c id, .registered c id ∈ past → g.Authorized l c
  registry : ∀ entry ∈ g.registry.entries, g.Authorized l entry.2

/-- What has become of the clients that came to a gateway with the given past. -/
structure ScreensClients (l : AllowList) (notify : Bool) (clients : List (Option SocketAddress))
    (past : List GatewayEvent) (g : Gateway β) : Prop where
  verdicts : GatewayEvent.verdicts past = clients.map l.judge
  /-- The connections are those of the allowed clients, in order. -/
  peers : g.peers = (clients.map l.judge).filterMap Verdict.admitted?
  /-- Every other client is refused once, or is still to be refused. -/
  refusals : (GatewayEvent.refusals past ++ g.refusals).Perm
    ((clients.map l.judge).filter fun verdict => !verdict.isAllowed)
  /-- A client that is refused receives nothing, or the notice to a rejected one. -/
  notices : ∀ verdict outcome bytes, .refused verdict outcome bytes ∈ past →
    bytes = [] ∨ notify = true ∧ ∃ peer, verdict = .rejected peer ∧
      (rejectionNotice peer.ip).frame .generalMessage = .ok bytes

theorem bytes_refuse (verdict : Verdict) (notify isWritable : Bool) :
    (KnxGateway.refuse verdict notify isWritable).2 = [] ∨
      notify = true ∧ ∃ peer, verdict = .rejected peer ∧
        (rejectionNotice peer.ip).frame .generalMessage =
          .ok (KnxGateway.refuse verdict notify isWritable).2 := by
  cases verdict with
  | allowed _ | unresolved => exact Or.inl rfl
  | rejected peer =>
    cases notify with
    | false => exact Or.inl rfl
    | true =>
      cases hframe : (rejectionNotice peer.ip).frame .generalMessage with
      | error e =>
        simp only [KnxGateway.refuse, refuseOn, if_true, hframe]
        exact Or.inl trivial
      | ok frame =>
        simp only [KnxGateway.refuse, refuseOn, if_true, hframe]
        cases isWritable with
        | false => exact Or.inl (congrArg Prod.snd (ByteSink.writeAll_broken frame))
        | true =>
          have htaken := congrArg Prod.snd (ByteSink.writeAll_accepting frame)
          exact Or.inr ⟨trivial, peer, rfl, hframe.trans (congrArg Except.ok htaken.symm)⟩

section Invariants

variable {l : AllowList} {config : GatewayConfig} {counted : Nat}
  {clients : List (Option SocketAddress)} {dataTypes : Registry} {past : List GatewayEvent}
  {g : Gateway β}

theorem Judges.screensClients (h : Judges l config counted clients past g) :
    ScreensClients l config.notifyRejected clients past g := by
  refine ⟨h.verdicts, h.peers, h.refusals, fun verdict outcome bytes hmem => ?_⟩
  obtain ⟨isWritable, hrefuse⟩ := h.notices verdict outcome bytes hmem
  have hbytes := bytes_refuse verdict config.notifyRejected isWritable
  rwa [← hrefuse] at hbytes

theorem Judges.servesAuthorized (h : Judges l config counted clients past g)
    (htraces : Traces dataTypes past g) : ServesAuthorized l dataTypes past g := by
  have hreceived : ∀ c bytes, .received c bytes ∈ past → g.Authorized l c :=
    fun c bytes hc => h.authorized (htraces.received c bytes hc)
  have hpublished : ∀ p, .published p ∈ past →
      g.Authorized l p.connection ∧ .received p.connection p.bytes ∈ past := by
    intro p hp
    have hread := htraces.published p hp
    exact ⟨hreceived _ _ hread, hread⟩
  have htook : ∀ {p : Packet}, p ∈ DispatchEvent.taken (GatewayEvent.dispatches past) →
      ∃ fault, .dispatched (.took p fault) ∈ past := by
    intro p hp
    obtain ⟨event, hevent, htaken⟩ := List.mem_filterMap.1 hp
    obtain ⟨seen, hseen, hdispatched⟩ := List.mem_filterMap.1 hevent
    cases seen <;> cases hdispatched
    cases event <;> cases htaken
    exact ⟨_, hseen⟩
  have hdispatch : ∀ {event : DispatchEvent}, .dispatched event ∈ past →
      event ∈ GatewayEvent.dispatches past := fun hevent =>
    List.mem_filterMap.2 ⟨_, hevent, rfl⟩
  refine ⟨hreceived, fun p hp => hpublished p (htraces.waiting p hp), fun p fault hp => ?_,
    fun i effect heffect => ?_, fun c id hc => h.authorized (htraces.registered c id hc),
    fun entry hentry => h.authorized (htraces.registry entry hentry)⟩
  · exact hpublished p (htraces.taken p (List.mem_filterMap.2 ⟨_, hdispatch hp, rfl⟩))
  · -- the effect is one of a job, which was started by a packet that had been published
    have hworked := hdispatch heffect
    obtain ⟨job, hjob⟩ : ∃ job, g.dispatcher.jobs[i]? = some job :=
      ⟨_, List.getElem?_eq_getElem (htraces.records.isJob i effect hworked)⟩
    obtain ⟨rest, hperforms⟩ := htraces.records.exists_performs hjob
    obtain ⟨p, hp, (hconnection : p.connection = job.connection), hreceive⟩ :=
      htraces.admits.exists_packet (List.mem_map_of_mem (List.mem_of_getElem? hjob))
    obtain ⟨fault, hevent⟩ := htook hp
    obtain ⟨hauthorized, -⟩ := hpublished p (htraces.taken p hp)
    rw [hconnection] at hauthorized
    exact ⟨job, p, fault, _, hjob, hauthorized, hevent, hconnection, hreceive, hperforms,
      List.mem_append_left _ (DispatchEvent.mem_effectsOf_iff.2 hworked)⟩

end Invariants

theorem judges_start {host : Host} {config : GatewayConfig} {dataTypes : Registry} {bus : β}
    {metrics : Metrics} {started : List GatewayEvent} {g : Gateway β}
    (h : start host config dataTypes bus metrics = .ok (started, g)) :
    Judges (.ofTexts config.allowedAddresses) config metrics.clients [] [] g ∧
      Traces dataTypes [] g := by
  obtain ⟨-, -, -, queue, hqueue, rfl⟩ := start_eq_ok_iff.1 h
  unfold PacketQueue.ofCapacity? at hqueue
  split at hqueue
  · cases hqueue
    refine ⟨⟨rfl, rfl, rfl, rfl, .nil, ?_, rfl⟩, rfl, .of_no_jobs rfl, .nil, ?_, ?_, ?_, ?_, ?_, ?_,
      ?_⟩
    · exact fun _ _ _ hmem => nomatch hmem
    · exact fun _ hmem => nomatch hmem
    · exact fun _ hmem => nomatch hmem
    · exact fun _ hmem => nomatch hmem
    · rintro c bytes ⟨link, hlink, -⟩
      cases hlink
    · exact fun _ _ hmem => nomatch hmem
    · exact fun _ _ hmem => nomatch hmem
    · exact fun _ hmem => nomatch hmem
  · cases hqueue

/-- Whatever happens to a gateway after its start, it serves authorized connections only. A
    client that is rejected receives at most the one notice, a client without an address receives
    nothing, and neither ever has a connection that could be read or registered. Every client that
    is accepted by the loop is counted once. -/
theorem serves_authorized_only [Bus β] {host : Host} {config : GatewayConfig}
    {dataTypes : Registry} {bus : β} {metrics : Metrics} {started events : List GatewayEvent}
    {g₀ g : Gateway β} {schedule : List GatewayMove}
    (hstart : start host config dataTypes bus metrics = .ok (started, g₀))
    (hrun : g₀.run schedule = (events, g)) :
    ServesAuthorized (.ofTexts config.allowedAddresses) dataTypes events g ∧
      ScreensClients (.ofTexts config.allowedAddresses) config.notifyRejected
        (g₀.arrivals schedule) events g ∧
      g.metrics.connectionsAccepted + g.metrics.connectionsRejected =
        metrics.connectionsAccepted + metrics.connectionsRejected +
          (g₀.arrivals schedule).length := by
  obtain ⟨hjudges, htraces⟩ := judges_start hstart
  obtain ⟨hjudges', htraces'⟩ := hjudges.run htraces schedule
  rw [hrun, List.nil_append, List.nil_append] at hjudges'
  rw [hrun, List.nil_append] at htraces'
  exact ⟨hjudges'.servesAuthorized htraces', hjudges'.screensClients, hjudges'.counts⟩

/-- Three clients, of which one is allowed. It asks for a read, and of the others one has been
    refused so far. -/
theorem serves_authorized_only_three_clients :
    ∃ (started events : List GatewayEvent) (g₀ g : Gateway MemoryBus)
      (schedule : List GatewayMove) (clients : List (Option SocketAddress)),
      start .standalone .default .reference .initial .zero = .ok (started, g₀) ∧
        g₀.run schedule = (events, g) ∧ g₀.arrivals schedule = clients ∧ clients.length = 3 ∧
        GatewayEvent.receivedFrom events 0 = [encodeRead ⟨2563⟩ ⟨7, 600⟩] ∧
        (GatewayEvent.refusals events).length = 1 ∧ g.dispatcher.jobs.length = 1 ∧
        ServesAuthorized (.ofTexts []) .reference events g ∧
        ScreensClients (.ofTexts []) true clients events g ∧
        g.metrics.connectionsAccepted + g.metrics.connectionsRejected = 3 := by
  let g₀ : Gateway MemoryBus := fresh .default .reference ⟨1024, [], false⟩ .initial .zero
  let clients : List (Option SocketAddress) :=
    [some ⟨.v4 ⟨127, 0, 0, 1⟩, 40000⟩, some ⟨.v4 ⟨10, 0, 0, 9⟩, 50000⟩, none]
  let schedule : List GatewayMove :=
    clients.map .connect ++ [.read 0 (encodeRead ⟨2563⟩ ⟨7, 600⟩), .publish 0, .poll, .work 0,
      .work 0, .refuse 0 true]
  obtain ⟨harrivals, hreceived, hrefusals, hjobs⟩ :
      g₀.arrivals schedule = clients ∧
        GatewayEvent.receivedFrom (g₀.run schedule).1 0 = [encodeRead ⟨2563⟩ ⟨7, 600⟩] ∧
        (GatewayEvent.refusals (g₀.run schedule).1).length = 1 ∧
        (g₀.run schedule).2.dispatcher.jobs.length = 1 := by
    decide +kernel
  have hrun : g₀.run schedule = ((g₀.run schedule).1, (g₀.run schedule).2) :=
    (Prod.eta _).symm
  obtain ⟨hserves, hscreens, hcounts⟩ := serves_authorized_only start_default hrun
  rw [harrivals] at hscreens hcounts
  exact ⟨_, _, g₀, _, schedule, clients, start_default, hrun, harrivals, rfl, hreceived, hrefusals,
    hjobs, hserves, hscreens, hcounts⟩

end Gateway

end KnxGateway
