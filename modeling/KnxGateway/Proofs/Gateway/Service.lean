import KnxGateway.Proofs.Gateway.LinkSteps

set_option autoImplicit false

/-! # How a gateway serves a connection

As long as the reader of a connection goes on, no byte that it reads gets lost or out of order on
the way to the dispatcher: what was read is what the dispatcher has taken, followed by what waits
in the queue, followed by what the reader still holds. Every packet that is taken while the
connection is open and that asks for a request starts one job, and what the job hands over is
written, provided that the stream accepts bytes. -/

namespace KnxGateway

/-! ## Steps of a connection, one by one -/

/-- The bytes that a reader has read and not yet handed on. -/
def ReaderPhase.pending : ReaderPhase → List (List UInt8)
  | publishing bytes => [bytes]
  | reading | leaving | closing | finished | crashed => []

theorem packetsFrom_append (packets later : List Packet) (c : ConnectionId) :
    packetsFrom (packets ++ later) c = packetsFrom packets c ++ packetsFrom later c :=
  List.filter_append packets later

namespace LinkStep

variable {link link' : Link} {before : Option Link} {read published : List (List UInt8)}

/-- No connection vanishes, none is opened again, and none ceases to accept bytes. -/
theorem exists_of_some (h : LinkStep (some link) before read published) :
    ∃ link', before = some link' ∧ (link'.isOpen = true → link.isOpen = true) ∧
      (link.isWritable = true → link'.isWritable = true) := by
  cases h with
  | stay => exact ⟨link, rfl, id, id⟩
  | setWritable => exact ⟨_, rfl, id, fun _ => rfl⟩
  | read => exact ⟨_, rfl, id, id⟩
  | publish => exact ⟨_, rfl, id, id⟩
  | wane _ link' _ hopen hwritable => exact ⟨link', rfl, hopen, fun h => hwritable.trans h⟩

/-- Nothing is read or handed on before a connection is there. -/
theorem of_none (h : LinkStep none before read published) :
    read = [] ∧ published = [] ∧
      ∀ link, before = some link → link.isWritable = true ∧ link.reader.pending = [] := by
  cases h with
  | stay => exact ⟨rfl, rfl, fun link h => nomatch h⟩
  | connect link hwritable hreader =>
    refine ⟨rfl, rfl, fun link' h => ?_⟩
    cases h
    refine ⟨hwritable, ?_⟩
    cases hphase : link.reader with
    | publishing bytes => exact absurd hphase (hreader bytes)
    | _ => rfl

/-- As long as the loop of its reader goes on, what a connection holds back and reads is what it
    hands on and holds back afterwards. -/
theorem conserves (h : LinkStep (some link) (some link') read published)
    (hlooping : link'.reader.isLooping = true) :
    link.reader.isLooping = true ∧
      link.reader.pending ++ read = published ++ link'.reader.pending := by
  cases h with
  | stay => exact ⟨hlooping, List.append_nil _⟩
  | setWritable => exact ⟨hlooping, List.append_nil _⟩
  | read _ bytes hreader =>
    rw [hreader]
    exact ⟨rfl, rfl⟩
  | publish _ bytes hreader =>
    rw [hreader]
    exact ⟨rfl, rfl⟩
  | wane _ _ hreader =>
    rcases hreader with hsame | hover
    · rw [hsame] at hlooping ⊢
      exact ⟨hlooping, List.append_nil _⟩
    · rw [hover] at hlooping
      cases hlooping

end LinkStep

/-- A turn of the loop takes from the queue what it takes. -/
theorem packetsFrom_poll {β γ : Type} [Outlets γ] (d : Dispatcher β γ) (past : List DispatchEvent)
    (c : ConnectionId) :
    packetsFrom (DispatchEvent.taken (past ++ d.poll.1)) c ++
        packetsFrom d.poll.2.queue.waiting c =
      packetsFrom (DispatchEvent.taken past) c ++ packetsFrom d.queue.waiting c := by
  rcases Dispatcher.poll_takes d with ⟨running, -, hpoll⟩ |
    ⟨p, queue, fault, started, htake, htook, hqueue, -, -⟩
  · rw [hpoll, List.append_nil]
  · obtain ⟨hwaiting, -, -⟩ := PacketQueue.take?_eq_some_iff.1 htake
    have hfirst : packetsFrom (p :: queue.waiting) c =
        packetsFrom [p] c ++ packetsFrom queue.waiting c := packetsFrom_append [p] _ c
    rw [htook, DispatchEvent.taken_concat_took, hqueue, hwaiting, hfirst, packetsFrom_append,
      List.append_assoc]

/-- Handing a frame to a connection changes no connection. -/
theorem Links.outlets_of_step {β : Type} [Bus β] {c : ConnectionId} {task next : RequestTask}
    {w w' : World β Links} {e : Effect} (h : task.step c w = some (e, next, w')) :
    w'.outlets = w.outlets := by
  cases task <;> simp only [RequestTask.step, Option.some.injEq, Prod.mk.injEq,
    reduceCtorEq] at h <;> (obtain ⟨-, -, rfl⟩ := h; rfl)

/-! ## Packets and jobs of one connection -/

namespace Admits

variable {registry : Registry} {wasClosed : ConnectionId → Prop} {packets : List Packet}
  {origins : List (ConnectionId × Request)} {c : ConnectionId}

/-- Every job was started by a packet of its connection that asks for its request. -/
theorem exists_packet (h : Admits registry wasClosed packets origins)
    {origin : ConnectionId × Request} (horigin : origin ∈ origins) :
    ∃ p ∈ packets, p.connection = origin.1 ∧
      receive registry true p.bytes = .ok (.accepted origin.2) := by
  induction h with
  | nil => cases horigin
  | @admitted packets origins p request _ hreceive ih =>
    rcases List.mem_append.1 horigin with hmem | hmem
    · obtain ⟨q, hq, heq⟩ := ih hmem
      exact ⟨q, List.mem_append_left _ hq, heq⟩
    · rw [List.mem_singleton.1 hmem]
      exact ⟨p, List.mem_append_right _ (List.mem_singleton.2 rfl), rfl, hreceive⟩
  | leftOut _ _ ih =>
    obtain ⟨q, hq, heq⟩ := ih horigin
    exact ⟨q, List.mem_append_left _ hq, heq⟩

/-- If a connection was never closed and all its packets ask for requests, they start one job
    each, in order. -/
theorem forall₂_of_requests (h : Admits registry wasClosed packets origins) (hopen : ¬wasClosed c)
    (hrequests : ∀ p ∈ packetsFrom packets c, ∃ request,
      receive registry true p.bytes = .ok (.accepted request)) :
    List.Forall₂ (fun p origin => receive registry true p.bytes = .ok (.accepted origin.2))
      (packetsFrom packets c) (origins.filter fun origin => origin.1 = c) := by
  induction h with
  | nil => exact .nil
  | @admitted packets origins p request _ hreceive ih =>
    rw [packetsFrom_append] at hrequests ⊢
    rw [List.filter_append]
    refine List.rel_append (ih fun q hq => hrequests q (List.mem_append_left _ hq)) ?_
    by_cases heq : p.connection = c
    · simpa [packetsFrom, heq] using hreceive
    · simp [packetsFrom, heq]
  | @leftOut packets origins p _ hout ih =>
    rw [packetsFrom_append] at hrequests ⊢
    have hother : p.connection ≠ c := by
      intro heq
      rcases hout with hclosed | hrefused
      · exact hopen (heq ▸ hclosed)
      · have hp : p ∈ packetsFrom [p] c := by simp [packetsFrom, heq]
        obtain ⟨request, hreceive⟩ := hrequests p (List.mem_append_right _ hp)
        exact hrefused request hreceive
    have hnone : packetsFrom [p] c = [] := by simp [packetsFrom, hother]
    rw [hnone, List.append_nil]
    exact ih fun q hq => hrequests q (List.mem_append_left _ hq)

end Admits

/-! ## The invariant -/

namespace Gateway

variable {β : Type}

/-- As far as a connection is concerned, its own packets may be left out once it is closed, and
    those of others at any time. -/
def MayLeaveOut (g : Gateway β) (c x : ConnectionId) : Prop :=
  x = c → ∃ link, g.links.get? c = some link ∧ link.isOpen = false

theorem mayLeaveOut_congr {g g' : Gateway β} {c : ConnectionId} (h : g'.links = g.links) :
    g'.MayLeaveOut c = g.MayLeaveOut c := by
  funext x
  rw [MayLeaveOut, MayLeaveOut, h]

/-- How a gateway with the given past has served a connection whose stream accepts bytes. -/
structure Serves (registry : Registry) (c : ConnectionId) (past : List GatewayEvent)
    (g : Gateway β) : Prop where
  sameRegistry : g.dispatcher.registry = registry
  records : g.dispatcher.Records (GatewayEvent.dispatches past)
  admits : Admits registry (g.MayLeaveOut c)
    (DispatchEvent.taken (GatewayEvent.dispatches past)) (g.dispatcher.jobs.map Job.origin)
  unknown : g.links.get? c = none → GatewayEvent.receivedFrom past c = [] ∧
    packetsFrom (DispatchEvent.taken (GatewayEvent.dispatches past)) c = [] ∧
    packetsFrom g.dispatcher.queue.waiting c = []
  conserved : ∀ link, g.links.get? c = some link → link.reader.isLooping = true →
    (GatewayEvent.receivedFrom past c).map (Packet.mk c) =
      packetsFrom (DispatchEvent.taken (GatewayEvent.dispatches past)) c ++
        packetsFrom g.dispatcher.queue.waiting c ++ link.reader.pending.map (Packet.mk c)
  writable : ∀ link, g.links.get? c = some link → link.isWritable = true
  sent : ∀ link, g.links.get? c = some link → link.isOpen = true →
    ∀ i job frame outcome, g.dispatcher.jobs[i]? = some job → job.connection = c →
      .worked i (.handedOver frame outcome) ∈ GatewayEvent.dispatches past → outcome = .sent

namespace Serves

variable {registry : Registry} {c : ConnectionId} {past : List GatewayEvent} {g : Gateway β}

/-- A connection that is not there has no jobs. -/
theorem ne_of_unknown (h : Serves registry c past g) (hnone : g.links.get? c = none) {i : Nat}
    {job : Job} (hjob : g.dispatcher.jobs[i]? = some job) : job.connection ≠ c := by
  intro heq
  have horigin := List.mem_map_of_mem (f := Job.origin) (List.mem_of_getElem? hjob)
  obtain ⟨p, hp, hconnection, -⟩ := h.admits.exists_packet horigin
  have hmem : p ∈ packetsFrom (DispatchEvent.taken (GatewayEvent.dispatches past)) c :=
    List.mem_filter.2 ⟨hp, decide_eq_true (hconnection.trans heq)⟩
  rw [(h.unknown hnone).2.1] at hmem
  cases hmem

/-- A step of the connection, or of another. -/
theorem linkStep (h : Serves registry c past g) {result : List GatewayEvent × Gateway β}
    (hstep : g.MakesLinkStep c result) : Serves registry c (past ++ result.1) result.2 := by
  have hdispatches : GatewayEvent.dispatches (past ++ result.1) = GatewayEvent.dispatches past := by
    rw [GatewayEvent.dispatches_append, hstep.dispatches, List.append_nil]
  obtain ⟨published, hlink, hwaiting⟩ := hstep.step
  cases hbefore : g.links.get? c with
  | none =>
    -- the connection may be accepted by this step, and there is nothing of it yet
    rw [hbefore] at hlink
    obtain ⟨hread, hpublished, hconnected⟩ := hlink.of_none
    obtain ⟨hreceived, htaken, hqueued⟩ := h.unknown hbefore
    rw [hpublished, List.map_nil, List.append_nil, hqueued] at hwaiting
    refine ⟨hstep.registry.trans h.sameRegistry, ?_, ?_, fun _ => ?_, fun link hlink' _ => ?_,
      fun link hlink' => (hconnected link hlink').1, fun link _ _ i job _ _ hjob heq _ => ?_⟩
    · rw [hdispatches]
      exact h.records.congr hstep.jobs
    · rw [hdispatches, hstep.jobs]
      refine h.admits.mono fun x hx heq => ?_
      obtain ⟨link, hlink', -⟩ := hx heq
      rw [hbefore] at hlink'
      cases hlink'
    · rw [hdispatches, GatewayEvent.receivedFrom_append, hreceived, hread]
      exact ⟨rfl, htaken, hwaiting⟩
    · rw [hdispatches, GatewayEvent.receivedFrom_append, hreceived, hread, htaken, hwaiting,
        (hconnected link hlink').2]
      rfl
    · rw [hstep.jobs] at hjob
      exact absurd heq (h.ne_of_unknown hbefore hjob)
  | some link =>
    rw [hbefore] at hlink
    obtain ⟨link', hafter, hopen, hwritable⟩ := hlink.exists_of_some
    rw [hafter] at hlink
    refine ⟨hstep.registry.trans h.sameRegistry, ?_, ?_, fun hnone => ?_,
      fun other hother hloops => ?_, fun other hother => ?_,
      fun other hother hisOpen i job frame outcome hjob heq hmem => ?_⟩
    · rw [hdispatches]
      exact h.records.congr hstep.jobs
    · -- a connection that was closed stays closed
      rw [hdispatches, hstep.jobs]
      refine h.admits.mono fun x hx heq => ⟨link', hafter, ?_⟩
      obtain ⟨other, hother, hclosed⟩ := hx heq
      rw [hbefore] at hother
      cases hother
      cases hreopened : link'.isOpen with
      | false => rfl
      | true => rw [hopen hreopened] at hclosed; cases hclosed
    · rw [hafter] at hnone
      cases hnone
    · rw [hafter] at hother
      cases hother
      obtain ⟨hlooping, hconserves⟩ := hlink.conserves hloops
      rw [hdispatches, GatewayEvent.receivedFrom_append, List.map_append,
        h.conserved link hbefore hlooping, hwaiting, List.append_assoc, ← List.map_append,
        hconserves, List.map_append]
      simp only [List.append_assoc]
    · rw [hafter] at hother
      cases hother
      exact hwritable (h.writable link hbefore)
    · rw [hafter] at hother
      cases hother
      rw [hdispatches] at hmem
      rw [hstep.jobs] at hjob
      exact h.sent link hbefore (hopen hisOpen) i job frame outcome hjob heq hmem

/-- A turn of the loop of the dispatcher. -/
theorem poll [Bus β] (h : Serves registry c past g) :
    Serves registry c (past ++ (g.step .poll).1) (g.step .poll).2 := by
  obtain ⟨hregistry, -, -, houtlets⟩ := Dispatcher.poll_frame g.dispatcher
  have hlinks : (g.step .poll).2.links = g.links := houtlets
  have hdispatches : GatewayEvent.dispatches (past ++ (g.step .poll).1) =
      GatewayEvent.dispatches past ++ g.dispatcher.poll.1 := by
    rw [GatewayEvent.dispatches_append]
    exact congrArg _ (GatewayEvent.dispatches_map _)
  have hreceived : GatewayEvent.receivedFrom (past ++ (g.step .poll).1) c =
      GatewayEvent.receivedFrom past c := by
    rw [GatewayEvent.receivedFrom_append]
    exact (congrArg _ (GatewayEvent.receivedFrom_map _)).trans (List.append_nil _)
  have hconserved := packetsFrom_poll g.dispatcher (GatewayEvent.dispatches past) c
  refine ⟨hregistry.trans h.sameRegistry, ?_, ?_, fun hnone => ?_, fun link hlink hlooping => ?_,
    fun link hlink => ?_, fun link hlink hopen i job frame outcome hjob heq hmem => ?_⟩
  · rw [hdispatches]
    exact h.records.poll
  · rw [hdispatches, mayLeaveOut_congr hlinks, ← h.sameRegistry]
    refine Admits.poll (h.sameRegistry ▸ h.admits) fun p queue htake hclosed heq => ?_
    cases hlink : g.links.get? c with
    | none =>
      -- a connection that is not there has no packets in the queue
      have hmem : p ∈ packetsFrom g.dispatcher.queue.waiting c := by
        rw [(PacketQueue.take?_eq_some_iff.1 htake).1]
        exact List.mem_filter.2 ⟨List.mem_cons_self, decide_eq_true heq⟩
      rw [(h.unknown hlink).2.2] at hmem
      cases hmem
    | some link =>
      refine ⟨link, rfl, ?_⟩
      have hany : (g.links.get? p.connection).any (fun link => link.isOpen) = false := hclosed
      rw [heq, hlink] at hany
      exact hany
  · rw [hlinks] at hnone
    obtain ⟨hnothing, htaken, hqueued⟩ := h.unknown hnone
    rw [htaken, hqueued] at hconserved
    obtain ⟨htaken', hqueued'⟩ := List.append_eq_nil_iff.1 hconserved
    rw [hreceived, hdispatches]
    exact ⟨hnothing, htaken', hqueued'⟩
  · rw [hlinks] at hlink
    rw [hreceived, hdispatches, h.conserved link hlink hlooping, ← hconserved]
    rfl
  · rw [hlinks] at hlink
    exact h.writable link hlink
  · rw [hlinks] at hlink
    rw [hdispatches] at hmem
    obtain ⟨hjob', hmem'⟩ := h.records.worked_of_poll hjob hmem
    exact h.sent link hlink hopen i job frame outcome hjob' heq hmem'

/-- A frame that is handed to a connection which is open and accepts bytes is written. -/
theorem sent_of_step [Bus β] {task next : RequestTask} {w w' : World β Links}
    {frame : List UInt8} {outcome : SendOutcome}
    (hstep : task.step c w = some (.handedOver frame outcome, next, w')) {link : Link}
    (hlink : w.outlets.get? c = some link) (hopen : link.isOpen = true)
    (hwritable : link.isWritable = true) : outcome = .sent := by
  have houtcome : outcome = w.outlets.trySend c := by
    cases task <;> simp only [RequestTask.step, Option.some.injEq, Prod.mk.injEq, reduceCtorEq,
      false_and] at hstep
    obtain ⟨heffect, -⟩ := hstep
    cases heffect
    rfl
  rw [houtcome, Links.trySend, hlink]
  simp [hopen, hwritable]

/-- An action of a job. -/
theorem work [Bus β] (h : Serves registry c past g) (i : Nat) :
    Serves registry c (past ++ (g.step (.work i)).1) (g.step (.work i)).2 := by
  have hrecords := h.records.work i
  have hadmits := Admits.work (h.sameRegistry ▸ h.admits) i
  rcases Dispatcher.work_cases g.dispatcher i with hwork | ⟨job, e, task, world, hjob, hstep, hwork⟩
  · simp only [step, hwork, List.map_nil, List.append_nil]
    exact h
  have houtlets : world.outlets = g.links := Links.outlets_of_step hstep
  have hdispatches : GatewayEvent.dispatches (past ++ [.dispatched (.worked i e)]) =
      GatewayEvent.dispatches past ++ [.worked i e] := List.filterMap_append
  have hreceived : GatewayEvent.receivedFrom (past ++ [.dispatched (.worked i e)]) c =
      GatewayEvent.receivedFrom past c := by
    rw [GatewayEvent.receivedFrom_append]
    exact List.append_nil _
  rw [hwork] at hrecords hadmits
  simp only [step, hwork, List.map_cons, List.map_nil]
  refine ⟨h.sameRegistry, ?_, ?_, fun hnone => ?_, fun link hlink hlooping => ?_,
    fun link hlink => ?_, fun link hlink hopen j other frame outcome hother heq hmem => ?_⟩
  · rw [hdispatches]
    exact hrecords
  · rw [hdispatches, ← h.sameRegistry]
    exact hadmits.mono fun x hx => by rwa [MayLeaveOut, links, houtlets]
  · rw [links, houtlets] at hnone
    rw [hreceived, hdispatches, DispatchEvent.taken_concat_worked]
    exact h.unknown hnone
  · rw [links, houtlets] at hlink
    rw [hreceived, hdispatches, DispatchEvent.taken_concat_worked]
    exact h.conserved link hlink hlooping
  · rw [links, houtlets] at hlink
    exact h.writable link hlink
  · rw [links, houtlets] at hlink
    rw [hdispatches] at hmem
    -- the connection of a job stays the same
    have hconnection : (g.dispatcher.jobs[j]?).map Job.connection = some c := by
      rw [← Dispatcher.connection_set hjob task j, hother]
      exact congrArg some heq
    obtain ⟨before, hbefore, hsame⟩ := Option.map_eq_some_iff.1 hconnection
    rcases List.mem_append.1 hmem with hpast | hnow
    · exact h.sent link hlink hopen j before frame outcome hbefore hsame hpast
    · cases List.mem_singleton.1 hnow
      rw [hjob] at hbefore
      cases hbefore
      rw [hsame] at hstep
      exact sent_of_step hstep hlink hopen (h.writable link hlink)

/-- Every move, unless the stream of the connection ceases to accept bytes. -/
theorem step [Bus β] (h : Serves registry c past g) {move : GatewayMove}
    (hwritable : move ≠ .setWritable c false) :
    Serves registry c (past ++ (g.step move).1) (g.step move).2 := by
  by_cases hdispatch : move.isDispatch = true
  · cases move with
    | poll => exact h.poll
    | work i => exact h.work i
    | _ => cases hdispatch
  · exact h.linkStep (makesLinkStep_step (Bool.not_eq_true _ ▸ hdispatch) hwritable)

/-- Every schedule. -/
theorem run [Bus β] (h : Serves registry c past g) {schedule : List GatewayMove}
    (hwritable : ∀ move ∈ schedule, move ≠ .setWritable c false) :
    Serves registry c (past ++ (g.run schedule).1) (g.run schedule).2 :=
  run_induction past h fun _ _ move hmove h => h.step (hwritable move hmove)

end Serves

/-! ## The start -/

/-- A gateway at its start. -/
def fresh (config : GatewayConfig) (dataTypes : Registry) (queue : PacketQueue) (bus : β)
    (metrics : Metrics) : Gateway β :=
  { config
    allowList := .ofTexts config.allowedAddresses
    state := .running
    acceptLoop := .accepting
    registry := .empty
    refusals := []
    dispatcher := .start dataTypes queue ⟨bus, ⟨[]⟩, metrics⟩ }

theorem start_eq_ok_iff {host : Host} {config : GatewayConfig} {dataTypes : Registry} {bus : β}
    {metrics : Metrics} {events : List GatewayEvent} {g : Gateway β} :
    start host config dataTypes bus metrics = .ok (events, g) ↔
      config.problem? = none ∧ (host.listenAddress? config.listenAddr).isSome = true ∧
        events = [.entered .stopped, .entered .starting, .entered .running] ∧
        ∃ queue, PacketQueue.ofCapacity? config.queueCapacity = some queue ∧
          g = fresh config dataTypes queue bus metrics := by
  unfold start
  cases config.problem? with
  | some problem => simp
  | none =>
    cases PacketQueue.ofCapacity? config.queueCapacity with
    | none => simp
    | some queue =>
      cases host.listenAddress? config.listenAddr with
      | none => simp
      | some address => simp [fresh, eq_comm]

theorem start_default :
    start .standalone .default .reference MemoryBus.initial .zero =
      .ok ([.entered .stopped, .entered .starting, .entered .running],
        fresh .default .reference ⟨1024, [], false⟩ .initial .zero) :=
  start_eq_ok_iff.2 ⟨rfl, by decide +kernel, rfl, _, if_pos (by decide), rfl⟩

/-- A gateway at its start is in order and has served nobody. -/
theorem serves_start {host : Host} {config : GatewayConfig} {registry : Registry} {bus : β}
    {metrics : Metrics} {events : List GatewayEvent} {g : Gateway β}
    (h : start host config registry bus metrics = .ok (events, g)) (c : ConnectionId) :
    g.IsOrderly ∧ Serves registry c [] g := by
  obtain ⟨-, -, -, queue, hqueue, rfl⟩ := start_eq_ok_iff.1 h
  unfold PacketQueue.ofCapacity? at hqueue
  split at hqueue
  · cases hqueue
    refine ⟨⟨?_, Or.inl rfl, Or.inl rfl, Or.inl rfl⟩, rfl, .of_no_jobs rfl, .nil,
      fun _ => ⟨rfl, rfl, rfl⟩, ?_, ?_, ?_⟩
    · exact Nat.lt_of_lt_of_le Nat.one_pos (Nat.le_max_right _ _)
    · exact fun link hlink => nomatch hlink
    · exact fun link hlink => nomatch hlink
    · exact fun link hlink => nomatch hlink
  · cases hqueue

end Gateway

end KnxGateway
