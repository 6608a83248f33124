import KnxGateway.Proofs.Dispatch.JobRecord

set_option autoImplicit false

/-! # The loop of the dispatcher

Between two turns of the loop anything may happen: packets are published, signals are given, jobs
act, connections are closed and the bus changes its mind. Still the loop does with the packets what
it should. It takes them in order, goes on behind a packet at fault, and takes none once it has
been told to stop. If nobody tells it, it ends when all packets have been taken.

The capacity of the queue decides only how early a packet can be published. A loop over a queue of
any other capacity can do just the same when each packet is published right before it is taken. -/

namespace KnxGateway

variable {β γ : Type}

/-! ## A dispatcher amid changes -/

/-- What can happen while a dispatcher runs: a move of its own, or a change around it. -/
inductive Occurrence (β γ : Type) where
  | move (move : DispatchMove)
  /-- Somebody else acts on the bus and on the connections. -/
  | outside (bus : β → β) (outlets : γ → γ)

namespace Occurrence

/-- Whether it is a turn of the loop. -/
def isPoll : Occurrence β γ → Bool
  | move .poll => true
  | move _ | outside _ _ => false

theorem eq_poll_of_isPoll {o : Occurrence β γ} (h : o.isPoll = true) : o = .move .poll := by
  rcases o with (_ | _ | _ | _ | _) | _ <;> first | rfl | cases h

/-- Whether it tells the loop to stop. -/
def stops : Occurrence β γ → Bool
  | move (.signal stop) => stop.stops
  | move _ | outside _ _ => false

/-- Whether it is done by the one who publishes. -/
def feeds : Occurrence β γ → Bool
  | move .publish | move .hangUp => true
  | move _ | outside _ _ => false

end Occurrence

/-- The world after a change from outside. Nobody else touches the counters. -/
def World.change (w : World β γ) (bus : β → β) (outlets : γ → γ) : World β γ :=
  ⟨bus w.bus, outlets w.outlets, w.metrics⟩

namespace FedDispatcher

variable [Bus β] [Outlets γ]

def occur (f : FedDispatcher β γ) : Occurrence β γ → List DispatchEvent × FedDispatcher β γ
  | .move move => f.step move
  | .outside bus outlets =>
    ([], ⟨{ f.dispatcher with world := f.dispatcher.world.change bus outlets }, f.pending⟩)

/-- A run during which there may be changes from outside. -/
def runAmid (f : FedDispatcher β γ) :
    List (Occurrence β γ) → List DispatchEvent × FedDispatcher β γ
  | [] => ([], f)
  | o :: occurrences =>
    let later := (f.occur o).2.runAmid occurrences
    ((f.occur o).1 ++ later.1, later.2)

variable {f : FedDispatcher β γ}

theorem runAmid_singleton (f : FedDispatcher β γ) (o : Occurrence β γ) :
    f.runAmid [o] = f.occur o := by
  rw [runAmid, runAmid, List.append_nil]

theorem runAmid_append (f : FedDispatcher β γ) (occurrences later : List (Occurrence β γ)) :
    f.runAmid (occurrences ++ later) =
      ((f.runAmid occurrences).1 ++ ((f.runAmid occurrences).2.runAmid later).1,
        ((f.runAmid occurrences).2.runAmid later).2) := by
  induction occurrences generalizing f with
  | nil => rfl
  | cons o occurrences ih => simp [runAmid, ih]

/-- What holds at first and is kept by all that can happen holds after every run. -/
theorem invariant_runAmid {P : List DispatchEvent → FedDispatcher β γ → Prop}
    (past : List DispatchEvent) (h : P past f)
    (hkept : ∀ past f o, P past f → P (past ++ (f.occur o).1) (f.occur o).2)
    (occurrences : List (Occurrence β γ)) :
    P (past ++ (f.runAmid occurrences).1) (f.runAmid occurrences).2 := by
  induction occurrences generalizing f past with
  | nil =>
    rw [runAmid, List.append_nil]
    exact h
  | cons o occurrences ih =>
    have hlater := ih _ (hkept past f o h)
    rw [List.append_assoc] at hlater
    exact hlater

end FedDispatcher

/-! ## Packets at fault -/

namespace Dispatcher

variable [Bus β] [Outlets γ] {d : Dispatcher β γ} {p : Packet}

/-- A packet is at fault exactly if handling it fails, and exactly then an error is counted. -/
theorem accept_fault (d : Dispatcher β γ) (p : Packet) :
    (∀ e, (d.accept p).1 = some e ↔ d.world.handle d.registry p = .error e) ∧
      (d.accept p).2.world.metrics.formatErrors =
        d.world.metrics.formatErrors + (d.accept p).1.toList.length := by
  unfold accept World.handle World.accept
  cases receive d.registry (Outlets.isOpen d.world.outlets p.connection) p.bytes with
  | error e => simp [World.record, Metrics.record]
  | ok reception => cases reception <;> simp [World.record, Metrics.record]

/-- The loop goes on behind every packet. -/
theorem poll_of_took {fault : Option FormatError} (h : d.poll.1 = [.took p fault]) :
    d.poll.2.running = true ∧
      (∀ e, fault = some e ↔ d.world.handle d.registry p = .error e) ∧
      d.poll.2.world.metrics.formatErrors =
        d.world.metrics.formatErrors + fault.toList.length := by
  rcases turn_cases d with ⟨-, hpoll⟩ | ⟨-, hpoll⟩ | ⟨-, -, -, hpoll⟩ |
    ⟨q, rest, hrunning, -, -, hpoll⟩
  · rw [hpoll] at h
    cases h
  · rw [hpoll] at h
    cases h
  · rw [hpoll] at h
    cases h
  · rw [hpoll] at h ⊢
    obtain ⟨rfl, rfl⟩ : q = p ∧ (d.accept q).1 = fault := by simpa using h
    obtain ⟨jobs, world, haccept⟩ := d.accept_frame q
    refine ⟨?_, d.accept_fault q⟩
    rw [haccept]
    exact hrunning

end Dispatcher

/-! ## One occurrence -/

namespace FedDispatcher

variable [Bus β] [Outlets γ] {f : FedDispatcher β γ} {o : Occurrence β γ}
  {occurrences later : List (Occurrence β γ)} {packets : List Packet} {past : List DispatchEvent}

/-- A turn of the loop is taken, a packet is published, the one who publishes goes away, or the
    packets stay where they are. -/
theorem occur_cases (f : FedDispatcher β γ) (o : Occurrence β γ) :
    (o = .move .poll ∧ f.occur o = (f.dispatcher.poll.1, ⟨f.dispatcher.poll.2, f.pending⟩)) ∨
      (o.isPoll = false ∧
        ((∃ p rest queue, f.pending = p :: rest ∧ f.dispatcher.queue.publish? p = some queue ∧
            o.stops = false ∧ f.occur o = ([], ⟨{ f.dispatcher with queue }, rest⟩)) ∨
          (f.pending = [] ∧ o.stops = false ∧
            f.occur o = ([], ⟨{ f.dispatcher with queue := f.dispatcher.queue.close }, []⟩)) ∨
          ∃ events stop jobs world, DispatchEvent.taken events = [] ∧
            stop.stops = (f.dispatcher.stop.stops || o.stops) ∧
            f.occur o = (events, ⟨{ f.dispatcher with stop, jobs, world }, f.pending⟩))) := by
  have hstays : ∀ o : Occurrence β γ, o.stops = false → f.occur o = ([], f) →
      ∃ events stop jobs world, DispatchEvent.taken events = [] ∧
        stop.stops = (f.dispatcher.stop.stops || o.stops) ∧
        f.occur o = (events, ⟨{ f.dispatcher with stop, jobs, world }, f.pending⟩) :=
    fun o hstops hoccur => ⟨[], _, _, _, rfl, by rw [hstops, Bool.or_false], hoccur⟩
  rcases o with (_ | _ | stop | _ | i) | ⟨bus, outlets⟩
  · refine Or.inr ⟨rfl, ?_⟩
    cases hpending : f.pending with
    | nil => exact Or.inr (Or.inr (hpending ▸ hstays _ rfl (by simp [occur, step, hpending])))
    | cons p rest =>
      cases hpublish : f.dispatcher.queue.publish? p with
      | none =>
        exact Or.inr (Or.inr (hpending ▸ hstays _ rfl (by simp [occur, step, hpending, hpublish])))
      | some queue =>
        exact Or.inl ⟨p, rest, queue, rfl, hpublish, rfl, by simp [occur, step, hpending, hpublish]⟩
  · refine Or.inr ⟨rfl, Or.inr ?_⟩
    by_cases hpending : f.pending = []
    · exact Or.inl ⟨hpending, rfl, by simp [occur, step, hpending]⟩
    · exact Or.inr (hstays _ rfl (by simp [occur, step, hpending]))
  · refine Or.inr ⟨rfl, Or.inr (Or.inr ?_)⟩
    cases hstop : f.dispatcher.stop.stops with
    | true =>
      exact ⟨[], f.dispatcher.stop, f.dispatcher.jobs, f.dispatcher.world, rfl, by simp [hstop],
        by simp [occur, step, hstop]⟩
    | false =>
      exact ⟨[], stop, f.dispatcher.jobs, f.dispatcher.world, rfl, rfl, by simp [occur, step, hstop]⟩
  · exact Or.inl ⟨rfl, rfl⟩
  · refine Or.inr ⟨rfl, Or.inr (Or.inr ?_)⟩
    rcases Dispatcher.work_cases f.dispatcher i with hwork | ⟨job, e, task, world, -, -, hwork⟩
    · exact hstays _ rfl (by simp [occur, step, hwork])
    · exact ⟨[.worked i e], f.dispatcher.stop, f.dispatcher.jobs.set i { job with task }, world, rfl,
        (Bool.or_false _).symm, by simp [occur, step, hwork]⟩
  · refine Or.inr ⟨rfl, Or.inr (Or.inr ?_)⟩
    exact ⟨[], _, _, _, rfl, (Bool.or_false _).symm, rfl⟩

/-! ## Packets on their way -/

/-- What has become of the packets: some have been taken, some wait, and the others are still to be
    published. A loop that has ended was told to stop, or it has come to the end of the queue. -/
structure Feeds (packets : List Packet) (past : List DispatchEvent) (f : FedDispatcher β γ) :
    Prop where
  inOrder : DispatchEvent.taken past ++ (f.dispatcher.queue.waiting ++ f.pending) = packets
  closed : f.dispatcher.queue.closed = true → f.pending = []
  halted : f.dispatcher.running = false → f.dispatcher.stop.stops = true ∨
    (f.dispatcher.queue.closed = true ∧ f.dispatcher.queue.waiting = [])

namespace Feeds

omit [Bus β] [Outlets γ] in
theorem start (registry : Registry) (world : World β γ) (packets : List Packet)
    {wanted : Nat} {queue : PacketQueue} (hqueue : PacketQueue.ofCapacity? wanted = some queue) :
    Feeds packets [] ⟨.start registry queue world, packets⟩ := by
  rw [PacketQueue.eq_of_ofCapacity? hqueue]
  exact ⟨rfl, nofun, nofun⟩

omit [Bus β] in
theorem poll (h : Feeds packets past f) :
    Feeds packets (past ++ f.dispatcher.poll.1) ⟨f.dispatcher.poll.2, f.pending⟩ := by
  rcases f.dispatcher.turn_cases with ⟨-, hpoll⟩ | ⟨hstop, hpoll⟩ | ⟨-, -, hwaiting, hpoll⟩ |
    ⟨p, rest, hrunning, -, hwaiting, hpoll⟩
  · rw [hpoll, List.append_nil]
    exact h
  · rw [hpoll, List.append_nil]
    exact ⟨h.inOrder, h.closed, fun _ => Or.inl hstop⟩
  · rw [hpoll, List.append_nil]
    exact ⟨h.inOrder, h.closed, fun hended => Or.inr ⟨by simpa using hended, hwaiting⟩⟩
  · obtain ⟨jobs, world, haccept⟩ := f.dispatcher.accept_frame p
    rw [hpoll, haccept]
    refine ⟨?_, h.closed, fun hended => ?_⟩
    · have hinOrder := h.inOrder
      rw [hwaiting] at hinOrder
      simpa [DispatchEvent.taken_concat_took] using hinOrder
    · rw [show f.dispatcher.running = false from hended] at hrunning
      cases hrunning

theorem occur (h : Feeds packets past f) (o : Occurrence β γ) :
    Feeds packets (past ++ (f.occur o).1) (f.occur o).2 := by
  rcases occur_cases f o with ⟨-, hoccur⟩ |
    ⟨-, ⟨p, rest, queue, hpending, hpublish, -, hoccur⟩ | ⟨hpending, -, hoccur⟩ |
      ⟨events, stop, jobs, world, htaken, hstops, hoccur⟩⟩
  · rw [hoccur]
    exact h.poll
  · -- as long as a packet is to be published, the queue is open
    have hopen : f.dispatcher.queue.closed ≠ true := fun hclosed => by
      rw [h.closed hclosed] at hpending
      cases hpending
    obtain ⟨-, rfl⟩ := PacketQueue.publish?_eq_some_iff.1 hpublish
    rw [hoccur, List.append_nil]
    refine ⟨?_, fun hclosed => absurd hclosed hopen, fun hended => ?_⟩
    · rw [← h.inOrder, hpending, List.append_assoc, List.singleton_append]
    · exact (h.halted hended).imp_right fun hend => absurd hend.1 hopen
  · rw [hoccur, List.append_nil]
    have hinOrder := h.inOrder
    rw [hpending] at hinOrder
    exact ⟨hinOrder, fun _ => rfl, fun hended => (h.halted hended).imp_right fun hend => ⟨rfl, hend.2⟩⟩
  · rw [hoccur]
    refine ⟨?_, h.closed, fun hended => (h.halted hended).imp_left fun hstop => ?_⟩
    · rw [DispatchEvent.taken_append, htaken, List.append_nil]
      exact h.inOrder
    · rw [hstops, hstop, Bool.true_or]

theorem runAmid (h : Feeds packets past f) (occurrences : List (Occurrence β γ)) :
    Feeds packets (past ++ (f.runAmid occurrences).1) (f.runAmid occurrences).2 :=
  invariant_runAmid past h (fun _ _ o hfeeds => hfeeds.occur o) occurrences

end Feeds

/-! ## Stop signals -/

theorem stops_occur (f : FedDispatcher β γ) (o : Occurrence β γ) :
    (f.occur o).2.dispatcher.stop.stops = (f.dispatcher.stop.stops || o.stops) := by
  rcases occur_cases f o with ⟨rfl, hoccur⟩ | ⟨-, ⟨p, rest, queue, -, -, hstops, hoccur⟩ |
    ⟨-, hstops, hoccur⟩ | ⟨events, stop, jobs, world, -, hstops, hoccur⟩⟩
  · obtain ⟨-, hstop, -⟩ := Dispatcher.poll_frame f.dispatcher
    rw [hoccur, hstop]
    exact (Bool.or_false _).symm
  · rw [hoccur, hstops, Bool.or_false]
  · rw [hoccur, hstops, Bool.or_false]
  · rw [hoccur, hstops]

theorem registry_runAmid (f : FedDispatcher β γ) (occurrences : List (Occurrence β γ)) :
    (f.runAmid occurrences).2.dispatcher.registry = f.dispatcher.registry := by
  refine invariant_runAmid (P := fun _ g => g.dispatcher.registry = f.dispatcher.registry) [] rfl
    (fun _ g o hsame => ?_) occurrences
  rcases occur_cases g o with ⟨-, hoccur⟩ | ⟨-, ⟨p, rest, queue, -, -, -, hoccur⟩ |
    ⟨-, -, hoccur⟩ | ⟨events, stop, jobs, world, -, -, hoccur⟩⟩
  · rw [hoccur, (Dispatcher.poll_frame g.dispatcher).1, hsame]
  all_goals rw [hoccur, hsame]

/-- The loop has been told to stop exactly if there has been a signal to do so. -/
theorem stops_runAmid (f : FedDispatcher β γ) (occurrences : List (Occurrence β γ)) :
    (f.runAmid occurrences).2.dispatcher.stop.stops =
      (f.dispatcher.stop.stops || occurrences.any Occurrence.stops) := by
  induction occurrences generalizing f with
  | nil => exact (Bool.or_false _).symm
  | cons o occurrences ih => rw [runAmid, ih, stops_occur, List.any_cons, Bool.or_assoc]

/-- A loop that has ended does not begin again. -/
theorem running_runAmid_of_halted (h : f.dispatcher.running = false)
    (occurrences : List (Occurrence β γ)) :
    (f.runAmid occurrences).2.dispatcher.running = false := by
  refine invariant_runAmid (P := fun _ g => g.dispatcher.running = false) [] h
    (fun _ g o hended => ?_) occurrences
  rcases occur_cases g o with ⟨-, hoccur⟩ | ⟨-, ⟨p, rest, queue, -, -, -, hoccur⟩ |
    ⟨-, -, hoccur⟩ | ⟨events, stop, jobs, world, -, -, hoccur⟩⟩
  · rw [hoccur, Dispatcher.poll_of_halted hended]
    exact hended
  all_goals
    rw [hoccur]
    exact hended

/-- Without a turn of the loop no packet is taken. -/
theorem taken_occur_of_not_isPoll (f : FedDispatcher β γ) (h : o.isPoll = false) :
    DispatchEvent.taken (f.occur o).1 = [] := by
  rcases occur_cases f o with ⟨rfl, -⟩ | ⟨-, ⟨p, rest, queue, -, -, -, hoccur⟩ | ⟨-, -, hoccur⟩ |
    ⟨events, stop, jobs, world, htaken, -, hoccur⟩⟩
  · cases h
  · rw [hoccur]
    rfl
  · rw [hoccur]
    rfl
  · rw [hoccur]
    exact htaken

theorem taken_runAmid_of_not_isPoll (f : FedDispatcher β γ)
    (h : occurrences.any Occurrence.isPoll = false) :
    DispatchEvent.taken (f.runAmid occurrences).1 = [] := by
  induction occurrences generalizing f with
  | nil => rfl
  | cons o occurrences ih =>
    rw [List.any_cons, Bool.or_eq_false_iff] at h
    rw [runAmid, DispatchEvent.taken_append, taken_occur_of_not_isPoll f h.1, ih _ h.2]
    rfl

/-- Once the loop has been told to stop, it takes no packet, and its next turn is its last. -/
theorem runAmid_of_stops (h : f.dispatcher.stop.stops = true)
    (occurrences : List (Occurrence β γ)) :
    DispatchEvent.taken (f.runAmid occurrences).1 = [] ∧
      (occurrences.any Occurrence.isPoll = true →
        (f.runAmid occurrences).2.dispatcher.running = false) := by
  induction occurrences generalizing f with
  | nil => exact ⟨rfl, nofun⟩
  | cons o occurrences ih =>
    have hstops : (f.occur o).2.dispatcher.stop.stops = true := by
      rw [stops_occur, h, Bool.true_or]
    obtain ⟨htaken, hhalts⟩ := ih hstops
    cases hpoll : o.isPoll with
    | false =>
      rw [runAmid, DispatchEvent.taken_append, taken_occur_of_not_isPoll f hpoll, htaken, List.any_cons, hpoll]
      exact ⟨rfl, hhalts⟩
    | true =>
      cases Occurrence.eq_poll_of_isPoll hpoll
      have hoccur : f.occur (.move .poll) = (f.dispatcher.poll.1, ⟨f.dispatcher.poll.2, f.pending⟩) :=
        rfl
      rw [runAmid, DispatchEvent.taken_append, htaken, hoccur, Dispatcher.poll_of_stops h]
      exact ⟨rfl, fun _ => running_runAmid_of_halted rfl occurrences⟩

/-- A loop over a queue that nobody feeds any more ends, after a turn for each packet that waits
    and one more. -/
theorem running_runAmid_of_closed (hclosed : f.dispatcher.queue.closed = true)
    (hpending : f.pending = [])
    (hstop : (f.runAmid occurrences).2.dispatcher.stop.stops = false)
    (hturns : f.dispatcher.queue.waiting.length < occurrences.countP Occurrence.isPoll) :
    (f.runAmid occurrences).2.dispatcher.running = false := by
  induction occurrences generalizing f with
  | nil => simp at hturns
  | cons o occurrences ih =>
    rw [stops_runAmid, List.any_cons, Bool.or_eq_false_iff, Bool.or_eq_false_iff] at hstop
    obtain ⟨hgoing, hfirst, hlater⟩ := hstop
    have hstopLater : ((f.occur o).2.runAmid occurrences).2.dispatcher.stop.stops = false := by
      rw [stops_runAmid, stops_occur, hgoing, hfirst, hlater]
      rfl
    rw [List.countP_cons] at hturns
    rw [runAmid]
    rcases occur_cases f o with ⟨rfl, hoccur⟩ |
      ⟨hpoll, ⟨p, rest, queue, hnext, -, -, -⟩ | ⟨-, -, hoccur⟩ |
        ⟨events, stop, jobs, world, -, -, hoccur⟩⟩
    · rw [hoccur] at hstopLater ⊢
      rcases f.dispatcher.turn_cases with ⟨hrunning, hpoll⟩ | ⟨hstops, -⟩ | ⟨-, -, -, hpoll⟩ |
        ⟨p, rest, -, -, hwaiting, hpoll⟩
      · rw [hpoll]
        exact running_runAmid_of_halted hrunning occurrences
      · rw [hgoing] at hstops
        cases hstops
      · rw [hpoll, hclosed]
        exact running_runAmid_of_halted rfl occurrences
      · rw [hpoll] at hstopLater ⊢
        refine ih hclosed hpending hstopLater ?_
        simp only [hwaiting, List.length_cons, Occurrence.isPoll, if_true] at hturns
        exact Nat.lt_of_succ_lt_succ hturns
    · rw [hpending] at hnext
      cases hnext
    · rw [hoccur] at hstopLater ⊢
      exact ih rfl rfl hstopLater (by simpa [hpoll, PacketQueue.close] using hturns)
    · rw [hoccur] at hstopLater ⊢
      exact ih hclosed hpending hstopLater (by simpa [hpoll] using hturns)

/-! ## The capacity does not matter -/

/-- The same dispatcher over a queue of another capacity in which no packet waits: those that would
    wait are still to be published. -/
def lazily (f : FedDispatcher β γ) (capacity : Nat) : FedDispatcher β γ :=
  ⟨{ f.dispatcher with
      queue := ⟨capacity, [], f.dispatcher.queue.closed && f.dispatcher.queue.waiting.isEmpty⟩ },
    f.dispatcher.queue.waiting ++ f.pending⟩

variable {capacity : Nat}

/-- A packet that is taken at once needs no more room than any queue has. -/
theorem publish_poll_lazily (hcapacity : 1 ≤ capacity) (hrunning : f.dispatcher.running = true)
    (hstop : f.dispatcher.stop.stops = false) {p : Packet} {rest : List Packet}
    (hwaiting : f.dispatcher.queue.waiting = p :: rest) :
    (f.lazily capacity).runAmid [.move .publish, .move .poll] =
      ([.took p (f.dispatcher.accept p).1],
        ⟨{ (f.dispatcher.accept p).2 with queue := ⟨capacity, [], false⟩ }, rest ++ f.pending⟩) := by
  have hpublish : (f.lazily capacity).occur (.move .publish) =
      ([], ⟨{ f.dispatcher with queue := ⟨capacity, [p], false⟩ }, rest ++ f.pending⟩) := by
    have hroom : 0 < capacity := hcapacity
    simp [occur, step, lazily, hwaiting, PacketQueue.publish?, PacketQueue.hasRoom, hroom]
  have hpoll := Dispatcher.poll_of_cons (d := { f.dispatcher with queue := ⟨capacity, [p], false⟩ })
    hrunning hstop rfl
  rw [Dispatcher.accept_queue] at hpoll
  rw [runAmid, runAmid_singleton, hpublish]
  simp only [occur, step, hpoll, List.nil_append]

theorem exists_poll_lazily (hcapacity : 1 ≤ capacity)
    (hclosed : f.dispatcher.queue.closed = true → f.pending = []) :
    ∃ moves, (f.lazily capacity).runAmid moves =
        (f.dispatcher.poll.1, lazily ⟨f.dispatcher.poll.2, f.pending⟩ capacity) ∧
      moves.filter (fun o => !o.feeds) = [.move .poll] := by
  have hturn : (f.lazily capacity).occur (.move .poll) =
      ((f.lazily capacity).dispatcher.poll.1,
        ⟨(f.lazily capacity).dispatcher.poll.2, (f.lazily capacity).pending⟩) := rfl
  rcases f.dispatcher.turn_cases with ⟨hrunning, hpoll⟩ | ⟨hstop, hpoll⟩ |
    ⟨hrunning, hstop, hwaiting, hpoll⟩ | ⟨p, rest, hrunning, hstop, hwaiting, hpoll⟩
  · refine ⟨[.move .poll], ?_, rfl⟩
    rw [runAmid_singleton, hturn, hpoll,
      Dispatcher.poll_of_halted (d := (f.lazily capacity).dispatcher) hrunning]
  · refine ⟨[.move .poll], ?_, rfl⟩
    rw [runAmid_singleton, hturn, hpoll,
      Dispatcher.poll_of_stops (d := (f.lazily capacity).dispatcher) hstop]
    rfl
  · refine ⟨[.move .poll], ?_, rfl⟩
    rw [runAmid_singleton, hturn, hpoll,
      Dispatcher.poll_of_nil (d := (f.lazily capacity).dispatcher) hrunning hstop rfl]
    simp [lazily, hwaiting]
  · rw [hpoll]
    have hfront := publish_poll_lazily hcapacity hrunning hstop hwaiting
    by_cases hend : f.dispatcher.queue.closed = true ∧ rest = []
    · -- the queue ends when its last packet has been taken
      obtain ⟨hend, rfl⟩ := hend
      refine ⟨[.move .publish, .move .poll] ++ [.move .hangUp], ?_, rfl⟩
      rw [runAmid_append, hfront, runAmid_singleton, hclosed hend]
      simp [occur, step, lazily, PacketQueue.close, hend]
    · refine ⟨[.move .publish, .move .poll], hfront.trans ?_, rfl⟩
      have hgoes : (f.dispatcher.queue.closed && rest.isEmpty) = false := by
        simpa using hend
      simp [lazily, hgoes]

/-- Whatever happens can happen over a queue of another capacity, too. Only publishing differs. -/
theorem exists_occur_lazily (hcapacity : 1 ≤ capacity)
    (hclosed : f.dispatcher.queue.closed = true → f.pending = []) (o : Occurrence β γ) :
    ∃ moves, (f.lazily capacity).runAmid moves =
        ((f.occur o).1, (f.occur o).2.lazily capacity) ∧
      moves.filter (fun o => !o.feeds) = [o].filter (fun o => !o.feeds) := by
  rcases o with (_ | _ | stop | _ | i) | ⟨bus, outlets⟩
  · -- a packet that is published only goes from those to be published to those that would wait
    refine ⟨[], ?_, rfl⟩
    rw [runAmid]
    cases hpending : f.pending with
    | nil => simp [occur, step, hpending]
    | cons p rest =>
      cases hpublish : f.dispatcher.queue.publish? p with
      | none => simp [occur, step, hpending, hpublish]
      | some queue =>
        have hopen : f.dispatcher.queue.closed = false := by
          by_contra hclosed'
          rw [hclosed (by simpa using hclosed')] at hpending
          cases hpending
        obtain ⟨-, rfl⟩ := PacketQueue.publish?_eq_some_iff.1 hpublish
        simp [occur, step, lazily, hpending, hpublish, hopen]
  · by_cases hpending : f.pending = []
    · cases hwaiting : f.dispatcher.queue.waiting with
      | nil =>
        refine ⟨[.move .hangUp], ?_, rfl⟩
        rw [runAmid_singleton]
        simp [occur, step, lazily, hpending, hwaiting, PacketQueue.close]
      | cons p rest =>
        refine ⟨[], ?_, rfl⟩
        simp [runAmid, occur, step, lazily, hpending, hwaiting, PacketQueue.close]
    · exact ⟨[], by simp [runAmid, occur, step, hpending], rfl⟩
  · refine ⟨[.move (.signal stop)], ?_, rfl⟩
    rw [runAmid_singleton]
    cases hstop : f.dispatcher.stop.stops <;> simp [occur, step, lazily, hstop]
  · exact exists_poll_lazily hcapacity hclosed
  · refine ⟨[.move (.work i)], ?_, rfl⟩
    rw [runAmid_singleton]
    simp only [occur, step, lazily]
    rw [Dispatcher.work_queue]
    rcases Dispatcher.work_cases f.dispatcher i with hwork | ⟨job, e, task, world, -, -, hwork⟩ <;>
      rw [hwork]
  · exact ⟨[.outside bus outlets], runAmid_singleton _ _, rfl⟩

theorem exists_runAmid_lazily (hcapacity : 1 ≤ capacity) (h : Feeds packets past f)
    (occurrences : List (Occurrence β γ)) :
    ∃ moves, (f.lazily capacity).runAmid moves =
        ((f.runAmid occurrences).1, (f.runAmid occurrences).2.lazily capacity) ∧
      moves.filter (fun o => !o.feeds) = occurrences.filter (fun o => !o.feeds) := by
  induction occurrences generalizing f past with
  | nil => exact ⟨[], rfl, rfl⟩
  | cons o occurrences ih =>
    obtain ⟨first, hfirst, hsame⟩ := exists_occur_lazily hcapacity h.closed o
    obtain ⟨moves, hmoves, hlater⟩ := ih (h.occur o)
    refine ⟨first ++ moves, ?_, ?_⟩
    · rw [runAmid_append, hfirst, hmoves, runAmid]
    · rw [List.filter_append, hsame, hlater, ← List.filter_append, List.singleton_append]

/-! ## Whole runs -/

/-- Packets are taken in order, each of them once, and a packet at fault is counted and does not
    end the loop. After a signal to stop no packet is taken any more, and the next turn ends the
    loop. Without such a signal a loop that ends has taken all packets, and it does end, once
    nobody publishes any more. A queue of another capacity allows for the same, if packets are
    published at other times. -/
theorem runAmid_takes_in_order {wanted : Nat} {queue : PacketQueue} {registry : Registry}
    {world : World β γ} {events : List DispatchEvent}
    (hqueue : PacketQueue.ofCapacity? wanted = some queue)
    (hrun : runAmid ⟨.start registry queue world, packets⟩ occurrences = (events, f)) :
    DispatchEvent.taken events ++ (f.dispatcher.queue.waiting ++ f.pending) = packets ∧
    (∀ p fault, f.dispatcher.poll.1 = [.took p fault] →
      f.dispatcher.poll.2.running = true ∧
        (∀ e, fault = some e ↔ f.dispatcher.world.handle registry p = .error e) ∧
        f.dispatcher.poll.2.world.metrics.formatErrors =
          f.dispatcher.world.metrics.formatErrors + fault.toList.length) ∧
    (occurrences.any Occurrence.isPoll = false → DispatchEvent.taken events = []) ∧
    (∀ stop later, stop.stops = true →
      let ending := f.runAmid (.move (.signal stop) :: later)
      DispatchEvent.taken ending.1 = [] ∧
        (later.any Occurrence.isPoll = true → ending.2.dispatcher.running = false)) ∧
    (∀ later, (occurrences ++ later).any Occurrence.stops = false →
      let ending := f.runAmid later
      (ending.2.dispatcher.running = false →
        DispatchEvent.taken (events ++ ending.1) = packets) ∧
      (f.dispatcher.queue.closed = true →
        f.dispatcher.queue.waiting.length < later.countP Occurrence.isPoll →
          ending.2.dispatcher.running = false)) ∧
    ∀ otherWanted otherQueue, PacketQueue.ofCapacity? otherWanted = some otherQueue →
      ∃ moves f', runAmid ⟨.start registry otherQueue world, packets⟩ moves = (events, f') ∧
        moves.filter (fun o => !o.feeds) = occurrences.filter (fun o => !o.feeds) ∧
        { f'.dispatcher with queue := f.dispatcher.queue } = f.dispatcher := by
  have hfeeds := (Feeds.start registry world packets hqueue).runAmid occurrences
  have hregistry := registry_runAmid ⟨.start registry queue world, packets⟩ occurrences
  have hstop := stops_runAmid ⟨.start registry queue world, packets⟩ occurrences
  rw [hrun] at hfeeds hregistry hstop
  refine ⟨hfeeds.inOrder, fun p fault htook => ?_, fun hidle => ?_, fun stop later hstops => ?_,
    fun later hgoing => ?_, fun otherWanted otherQueue hother => ?_⟩
  · rw [← show f.dispatcher.registry = registry from hregistry]
    exact Dispatcher.poll_of_took htook
  · have htaken := taken_runAmid_of_not_isPoll ⟨.start registry queue world, packets⟩ hidle
    rwa [hrun] at htaken
  · have hended : (f.occur (.move (.signal stop))).2.dispatcher.stop.stops = true := by
      rw [stops_occur, Occurrence.stops, hstops, Bool.or_true]
    obtain ⟨htaken, hhalts⟩ := runAmid_of_stops hended later
    refine ⟨?_, hhalts⟩
    rw [runAmid, DispatchEvent.taken_append, htaken, taken_occur_of_not_isPoll f rfl]
    rfl
  · rw [List.any_append, Bool.or_eq_false_iff] at hgoing
    have hclear : (f.runAmid later).2.dispatcher.stop.stops = false := by
      rw [stops_runAmid, hstop, hgoing.1, hgoing.2]
      rfl
    refine ⟨fun hended => ?_, fun hclosed hturns =>
      running_runAmid_of_closed hclosed (hfeeds.closed hclosed) hclear hturns⟩
    have hlater := hfeeds.runAmid later
    rcases hlater.halted hended with hstops | ⟨hclosed, hwaiting⟩
    · rw [hclear] at hstops
      cases hstops
    · have hinOrder := hlater.inOrder
      rwa [hwaiting, hlater.closed hclosed, List.append_nil, List.append_nil] at hinOrder
  · rw [PacketQueue.eq_of_ofCapacity? hqueue] at hrun
    rw [PacketQueue.eq_of_ofCapacity? hother]
    have hstart := Feeds.start registry world packets hqueue
    rw [PacketQueue.eq_of_ofCapacity? hqueue] at hstart
    obtain ⟨moves, hmoves, hsame⟩ :=
      exists_runAmid_lazily (Nat.le_max_right otherWanted 1) hstart occurrences
    rw [hrun] at hmoves
    exact ⟨moves, _, hmoves, hsame, rfl⟩

/-- A read and a packet that is no frame wait for a dispatcher. -/
def readAndFault (capacity : Nat) : FedDispatcher MemoryBus ScriptedConnection :=
  ⟨.start .reference ⟨capacity, [], false⟩ ⟨.initial, ⟨true, []⟩, .zero⟩,
    [⟨0, encodeRead ⟨2563⟩ ⟨7, 600⟩⟩, ⟨0, [7]⟩]⟩

theorem runAmid_takes_in_order_fault :
    ∃ events f, (readAndFault 1).runAmid [.move .publish, .move .poll, .move .publish,
          .move .hangUp] = (events, f) ∧
      f.dispatcher.poll.1 = [.took ⟨0, [7]⟩ (some (.tooShort .header 3 1))] ∧
      f.dispatcher.poll.2.running = true ∧ f.dispatcher.poll.2.world.metrics.formatErrors = 1 ∧
      DispatchEvent.taken (f.runAmid [.move (.signal .raised), .move .poll]).1 = [] ∧
      (f.runAmid [.move (.signal .raised), .move .poll]).2.dispatcher.running = false ∧
      (f.runAmid [.move .poll, .move .poll]).2.dispatcher.running = false ∧
      DispatchEvent.taken (events ++ (f.runAmid [.move .poll, .move .poll]).1) =
        [⟨0, encodeRead ⟨2563⟩ ⟨7, 600⟩⟩, ⟨0, [7]⟩] ∧
      ∃ moves f', (readAndFault 64).runAmid moves = (events, f') ∧
        { f'.dispatcher with queue := f.dispatcher.queue } = f.dispatcher := by
  have hrun : (readAndFault 1).runAmid [.move .publish, .move .poll, .move .publish,
      .move .hangUp] = (_, _) := rfl
  have hqueue : PacketQueue.ofCapacity? 0 = some ⟨1, [], false⟩ := rfl
  have hother : PacketQueue.ofCapacity? 64 = some ⟨64, [], false⟩ := rfl
  obtain ⟨-, htook, -, hstops, hends, hcapacity⟩ := runAmid_takes_in_order hqueue hrun
  obtain ⟨hrunning, -, herrors⟩ := htook _ _ rfl
  obtain ⟨htaken, hhalts⟩ := hstops .raised [.move .poll] rfl
  obtain ⟨hall, hhalted⟩ := hends [.move .poll, .move .poll] rfl
  have hended := hhalted rfl (by decide)
  obtain ⟨moves, f', hmoves, -, hsame⟩ := hcapacity _ _ hother
  exact ⟨_, _, hrun, rfl, hrunning, herrors, htaken, hhalts rfl, hended, hall hended, moves, f',
    hmoves, hsame⟩

end FedDispatcher

end KnxGateway
