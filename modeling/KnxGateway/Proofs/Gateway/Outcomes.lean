import KnxGateway.Gateway.State
import KnxGateway.Proofs.Dispatch.JobRecord

set_option autoImplicit false

/-! # What comes of a move

A move that is not possible changes nothing. Every other move has one outcome, or one of two, and
it has it under conditions. Here the outcomes of all moves are listed with their conditions, so that
nobody else has to open the steps of a gateway. -/

namespace KnxGateway

theorem Links.get?_append (l : Links) (link : Link) (c : ConnectionId) :
    (Links.mk (l.toList ++ [link])).get? c =
      if c = l.toList.length then some link else l.get? c := by
  simp only [get?]
  rcases Nat.lt_trichotomy c l.toList.length with hlt | heq | hgt
  · rw [List.getElem?_append_left hlt, if_neg (Nat.ne_of_lt hlt)]
  · rw [heq, List.getElem?_concat_length, if_pos rfl]
  · rw [if_neg (Nat.ne_of_gt hgt), List.getElem?_eq_none (Nat.le_of_lt hgt),
      List.getElem?_eq_none (by rwa [List.length_append, List.length_singleton])]

namespace Gateway

variable {β : Type}

/-! ## Clients -/

/-- The connection that is made for an allowed peer. -/
def newLink (g : Gateway β) (peer : SocketAddress) : Link :=
  ⟨g.nextId, peer, true, true, .start g.config.readBufferSize⟩

/-- The gateway with a new connection for a peer, which is registered. -/
def withConnection (g : Gateway β) (peer : SocketAddress) : Gateway β :=
  { g.record .connectionsAccepted with
    registry := g.registry.insert g.nextId g.links.toList.length }.mapWorld fun world =>
      { world with outlets := Links.mk (world.outlets.toList ++ [g.newLink peer]) }

/-- The new connection comes after all others, which stay where they are. -/
theorem get?_withConnection (g : Gateway β) (peer : SocketAddress) (c : ConnectionId) :
    (g.withConnection peer).links.get? c =
      if c = g.links.toList.length then some (g.newLink peer) else g.links.get? c :=
  Links.get?_append g.links (g.newLink peer) c

theorem get?_length (g : Gateway β) : g.links.get? g.links.toList.length = none :=
  List.getElem?_eq_none (Nat.le_refl _)

/-- The gateway with a verdict about a client that is to be refused. -/
def withRefusal (g : Gateway β) (verdict : Verdict) : Gateway β :=
  { g.record .connectionsRejected with refusals := g.refusals ++ [verdict] }

/-- A client that is allowed is registered, and any other is to be refused. -/
theorem accept_cases (g : Gateway β) (peer : Option SocketAddress) :
    (∃ admitted, g.allowList.judge peer = .allowed admitted ∧
      g.accept peer = ([.judged (.allowed admitted), .registered g.links.toList.length g.nextId],
        g.withConnection admitted)) ∨
      g.accept peer = ([.judged (g.allowList.judge peer)],
        g.withRefusal (g.allowList.judge peer)) := by
  unfold accept
  cases g.allowList.judge peer with
  | allowed admitted => exact Or.inl ⟨admitted, rfl, rfl⟩
  | rejected _ | unresolved => exact Or.inr rfl

/-! ## All moves -/

/-- The outcomes of all moves: what can be seen of a move, and the gateway after it. -/
inductive Outcome [Bus β] (g : Gateway β) :
    GatewayMove → List GatewayEvent → Gateway β → Prop where
  /-- The move is not possible. No client is turned down while the accept loop accepts. -/
  | nothing (move : GatewayMove) : (∀ peer, move = .connect peer → g.acceptLoop ≠ .accepting) →
      Outcome g move [] g
  | accept (peer : Option SocketAddress) : g.acceptLoop = .accepting →
      Outcome g (.connect peer) (g.accept peer).1 (g.accept peer).2
  | refuse (i : Nat) (isWritable : Bool) (verdict : Verdict) : g.refusals[i]? = some verdict →
      Outcome g (.refuse i isWritable)
        [.refused verdict (KnxGateway.refuse verdict g.config.notifyRejected isWritable).1
          (KnxGateway.refuse verdict g.config.notifyRejected isWritable).2]
        { g with refusals := g.refusals.eraseIdx i }
  | setWritable (c : ConnectionId) (isWritable : Bool) :
      Outcome g (.setWritable c isWritable) [] (g.mapLink c fun link => { link with isWritable })
  | read (c : ConnectionId) (link : Link) (bytes : List UInt8) : g.links.get? c = some link →
      link.reader = .reading → bytes ≠ [] → bytes.length ≤ g.config.readBufferSize →
      Outcome g (.read c bytes) [.received c bytes]
        ((g.record .packetsReceived).setReader c (.publishing bytes))
  | readEnd (c : ConnectionId) (link : Link) : g.links.get? c = some link →
      link.reader = .reading → Outcome g (.readEnd c) [] (g.setReader c .leaving)
  | publish (c : ConnectionId) (link : Link) (bytes : List UInt8) (queue : PacketQueue) :
      g.links.get? c = some link → link.reader = .publishing bytes →
      g.dispatcher.running = true → g.dispatcher.queue.publish? ⟨c, bytes⟩ = some queue →
      Outcome g (.publish c) [.published ⟨c, bytes⟩] ((g.setQueue queue).setReader c .reading)
  /-- There is no dispatcher any more to publish for. -/
  | giveUp (c : ConnectionId) (link : Link) (bytes : List UInt8) : g.links.get? c = some link →
      link.reader = .publishing bytes → g.dispatcher.running = false →
      Outcome g (.publish c) [] (g.setReader c .leaving)
  | stopReader (c : ConnectionId) (link : Link) : g.links.get? c = some link →
      g.isStopping = true → link.reader.isLooping = true →
      Outcome g (.stopReader c) [] (g.setReader c .leaving)
  /-- A reader takes its connection out of the registry. -/
  | deregister (c : ConnectionId) (link : Link) : g.links.get? c = some link →
      link.reader = .leaving →
      Outcome g (.leave c) [.deregistered c]
        { g.setReader c .closing with registry := g.registry.erase link.id }
  /-- A reader closes its connection. -/
  | close (c : ConnectionId) (link : Link) : g.links.get? c = some link →
      link.reader = .closing →
      Outcome g (.leave c) [.closed c]
        ((g.setReader c .finished).mapLink c fun l => { l with isOpen := false })
  | stopAccepting : g.isStopping = true → g.acceptLoop = .accepting →
      Outcome g .stopAccepting ((g.registry.entries.map Prod.snd).map .deregistered)
        { g with acceptLoop := .closing (g.registry.entries.map Prod.snd), registry := .empty }
  | closeNext (c : ConnectionId) (rest : List ConnectionId) : g.acceptLoop = .closing (c :: rest) →
      Outcome g .closeNext [.closed c]
        ({ g with acceptLoop := .closing rest }.mapLink c fun l => { l with isOpen := false })
  /-- Nothing is left to close. -/
  | await : g.acceptLoop = .closing [] →
      Outcome g .closeNext [] { g with acceptLoop := .joining }
  | join : g.acceptLoop = .joining →
      (∀ c link, g.links.get? c = some link → link.reader.isOver = true) →
      Outcome g .join [] ({ g with acceptLoop := .returned }.setQueue g.dispatcher.queue.close)
  | poll : Outcome g .poll (g.dispatcher.poll.1.map .dispatched)
      { g with dispatcher := g.dispatcher.poll.2 }
  | work (i : Nat) (job : Job) (effect : Effect) (task : RequestTask) (world : World β Links) :
      g.dispatcher.jobs[i]? = some job →
      job.task.step job.connection g.dispatcher.world = some (effect, task, world) →
      Outcome g (.work i) [.dispatched (.worked i effect)]
        { g with dispatcher := { g.dispatcher with
          world, jobs := g.dispatcher.jobs.set i { job with task } } }
  | shutdown : g.state = .running →
      Outcome g .shutdown [.entered .stopping] ({ g with state := .stopping }.signal .raised)
  | abandon : Outcome g .abandon [] (g.signal .abandoned)
  | complete : g.state = .stopping → g.acceptLoop = .returned → g.dispatcher.running = false →
      Outcome g .complete [.entered .stopped] { g with state := .stopped }

namespace Outcome

variable [Bus β] {g : Gateway β} {c : ConnectionId}

theorem of_read (bytes : List UInt8) :
    g.Outcome (.read c bytes) (g.read c bytes).1 (g.read c bytes).2 := by
  simp only [Gateway.read, ReadBuffer.chunk_eq]
  split
  · next link hlink =>
    split
    · next hread => exact .read c link bytes hlink hread.1 hread.2.1 hread.2.2
    · exact .nothing _ nofun
  · exact .nothing _ nofun

theorem of_publish : g.Outcome (.publish c) (g.publish c).1 (g.publish c).2 := by
  unfold Gateway.publish
  split
  · next bytes hlink =>
    split
    · next hrunning =>
      split
      · next queue hqueue => exact .publish c _ bytes queue hlink rfl hrunning hqueue
      · exact .nothing _ nofun
    · next hrunning => exact .giveUp c _ bytes hlink rfl (Bool.not_eq_true _ ▸ hrunning)
  · exact .nothing _ nofun

theorem of_leave : g.Outcome (.leave c) (g.leave c).1 (g.leave c).2 := by
  unfold Gateway.leave
  split
  · next link hlink =>
    split
    · next hleaving => exact .deregister c link hlink hleaving
    · next hclosing => exact .close c link hlink hclosing
    · exact .nothing _ nofun
  · exact .nothing _ nofun

theorem of_join : g.Outcome .join g.join.1 g.join.2 := by
  unfold Gateway.join
  split
  · next hjoin =>
    obtain ⟨hjoining, hall⟩ := Bool.and_eq_true_iff.1 hjoin
    refine .join (of_decide_eq_true hjoining) fun c link hlink => ?_
    exact List.all_eq_true.1 hall link (List.mem_of_getElem? hlink)
  · exact .nothing _ nofun

theorem of_work (i : Nat) : g.Outcome (.work i) ((g.dispatcher.work i).1.map .dispatched)
    { g with dispatcher := (g.dispatcher.work i).2 } := by
  rcases Dispatcher.work_cases g.dispatcher i with
    hwork | ⟨job, effect, task, world, hjob, hstep, hwork⟩
  · rw [hwork]
    exact .nothing _ nofun
  · rw [hwork]
    exact .work i job effect task world hjob hstep

theorem of_complete : g.Outcome .complete g.complete.1 g.complete.2 := by
  unfold Gateway.complete
  split
  · next hends =>
    rw [Bool.and_eq_true_iff, Bool.and_eq_true_iff] at hends
    obtain ⟨⟨hstopping, hreturned⟩, hrunning⟩ := hends
    exact .complete (of_decide_eq_true hstopping) (of_decide_eq_true hreturned)
      (by simpa using hrunning)
  · exact .nothing _ nofun

end Outcome

/-- Every move has one of these outcomes. -/
theorem outcome_step [Bus β] (g : Gateway β) (move : GatewayMove) :
    g.Outcome move (g.step move).1 (g.step move).2 := by
  cases move with
  | connect peer =>
    simp only [step]
    split
    · next haccepting => exact .accept peer haccepting
    · next hclosed => exact .nothing _ fun _ _ => hclosed
  | refuse i isWritable =>
    simp only [step, carryOutRefusal]
    split
    · exact .nothing _ nofun
    · next verdict hverdict => exact .refuse i isWritable verdict hverdict
  | setWritable c isWritable => exact .setWritable c isWritable
  | read c bytes => exact .of_read bytes
  | readEnd c =>
    simp only [step, readEnd]
    split
    · next link hlink =>
      split
      · next hreading => exact .readEnd c link hlink hreading
      · exact .nothing _ nofun
    · exact .nothing _ nofun
  | publish c => exact .of_publish
  | stopReader c =>
    simp only [step, stopReader]
    split
    · next link hlink =>
      split
      · next hstops =>
        obtain ⟨hstopping, hlooping⟩ := Bool.and_eq_true_iff.1 hstops
        exact .stopReader c link hlink hstopping hlooping
      · exact .nothing _ nofun
    · exact .nothing _ nofun
  | leave c => exact .of_leave
  | stopAccepting =>
    simp only [step, stopAccepting]
    split
    · next hstops =>
      obtain ⟨hstopping, haccepting⟩ := Bool.and_eq_true_iff.1 hstops
      exact .stopAccepting hstopping (of_decide_eq_true haccepting)
    · exact .nothing _ nofun
  | closeNext =>
    simp only [step, closeNext]
    split
    · next hphase => exact .await hphase
    · next c rest hphase => exact .closeNext c rest hphase
    · exact .nothing _ nofun
  | join => exact .of_join
  | poll => exact .poll
  | work i => exact .of_work i
  | shutdown =>
    simp only [step, shutdown]
    split
    · next hrunning => exact .shutdown hrunning
    · exact .nothing _ nofun
  | abandon => exact .abandon
  | complete => exact .of_complete

/-! ## Runs -/

/-- What holds of a gateway with its past and is kept by every move of a schedule still holds after
    the schedule. -/
theorem run_induction [Bus β] {motive : List GatewayEvent → Gateway β → Prop}
    (past : List GatewayEvent) {g : Gateway β} {schedule : List GatewayMove} (h : motive past g)
    (hstep : ∀ past g, ∀ move ∈ schedule, motive past g →
      motive (past ++ (g.step move).1) (g.step move).2) :
    motive (past ++ (g.run schedule).1) (g.run schedule).2 := by
  induction schedule generalizing past g with
  | nil =>
    rw [run, List.append_nil]
    exact h
  | cons move schedule ih =>
    have hlater := ih _ (hstep past g move List.mem_cons_self h) fun past g later hmem =>
      hstep past g later (List.mem_cons_of_mem _ hmem)
    rw [List.append_assoc] at hlater
    exact hlater

end Gateway

end KnxGateway
