import KnxGateway.Proofs.Bus.History
import KnxGateway.Proofs.Dispatch.RunLoop

set_option autoImplicit false

/-! # The ledger of the counters

The counters of the dispatcher are bumped in many places: where a packet is read, where the bus has
answered, and where a frame has been handed over. Still the ledger balances. Over a whole run each
counter grows by the number of events that it is named for, whatever the bus answers, whatever
becomes of the frames, and whatever happens in between. -/

namespace KnxGateway

/-! ## What there is to count -/

namespace Effect

/-- Whether an effect is a request that the bus did not acknowledge. -/
def isRefused : Effect → Bool
  | read _ answer | wrote _ _ answer => !answer.isAcknowledged
  | counted _ | lookedUp _ _ | handedOver _ _ => false

theorem isCountedBy_busRequests : isCountedBy .busRequests = isBusRequest := by
  funext e
  cases e with
  | handedOver frame outcome => cases outcome <;> rfl
  | _ => rfl

theorem isCountedBy_busFailures : isCountedBy .busFailures = isRefused := by
  funext e
  cases e with
  | handedOver frame outcome => cases outcome <;> rfl
  | _ => rfl

theorem countP_isRefused_le (effects : List Effect) :
    effects.countP isRefused ≤ effects.countP isBusRequest := by
  refine List.countP_mono_left fun e _ hrefused => ?_
  cases e with
  | read a answer | wrote a v answer => rfl
  | _ => cases hrefused

theorem isCountedBy_formatErrors : isCountedBy .formatErrors = fun _ => false := by
  funext e
  cases e with
  | handedOver frame outcome => cases outcome <;> rfl
  | _ => rfl

end Effect

/-- A packet and the world in which it was handled. -/
structure Handling (β γ : Type) where
  world : World β γ
  packet : Packet

namespace Handling

variable {β γ : Type} [Outlets γ] {registry : Registry} {h : Handling β γ}

/-- Whether handling the packet failed. -/
def isFault [Bus β] (registry : Registry) (h : Handling β γ) : Bool :=
  !(h.world.handle registry h.packet).isOk

/-- Whether there was a packet whose connection was closed. -/
def isLate (h : Handling β γ) : Bool :=
  !h.packet.bytes.isEmpty && !Outlets.isOpen h.world.outlets h.packet.connection

/-- Whether the loop itself has something to count for a counter. -/
def isCountedBy [Bus β] (registry : Registry) (c : Counter) (h : Handling β γ) : Bool :=
  (c = .formatErrors && h.isFault registry) || (c = .responsesSkipped && h.isLate)

theorem isCountedBy_formatErrors [Bus β] :
    (isCountedBy registry .formatErrors : Handling β γ → Bool) = isFault registry := by
  funext h
  simp [isCountedBy]

theorem isCountedBy_responsesSkipped [Bus β] :
    (isCountedBy registry .responsesSkipped : Handling β γ → Bool) = isLate := by
  funext h
  simp [isCountedBy]

theorem isCountedBy_of_ne [Bus β] {c : Counter} (hfaults : c ≠ .formatErrors)
    (hlate : c ≠ .responsesSkipped) :
    (isCountedBy registry c : Handling β γ → Bool) = fun _ => false := by
  funext h
  simp [isCountedBy, hfaults, hlate]

end Handling

/-- The counters have grown by what there was to count. -/
structure Metrics.Balances {β γ : Type} [Bus β] [Outlets γ] (registry : Registry)
    (handlings : List (Handling β γ)) (effects : List Effect) (before after : Metrics) : Prop where
  formatErrors : after.formatErrors =
    before.formatErrors + handlings.countP (Handling.isFault registry)
  responsesSent : after.responsesSent =
    before.responsesSent + (effects.filterMap Effect.outcome?).count .sent
  responseFailures : after.responseFailures =
    before.responseFailures + (effects.filterMap Effect.outcome?).count .failed
  responsesSkipped : after.responsesSkipped =
    before.responsesSkipped + (effects.filterMap Effect.outcome?).count .skipped +
      handlings.countP Handling.isLate
  busRequests : after.busRequests = before.busRequests + effects.countP Effect.isBusRequest
  busFailures : after.busFailures = before.busFailures + effects.countP Effect.isRefused

/-! ## One turn of the loop, one action of a job -/

variable {β γ : Type} [Outlets γ]

/-- A packet is left out exactly if it holds something and its connection is closed. -/
theorem receive_eq_skipped_iff {registry : Registry} {isOpen : Bool} {bytes : List UInt8} :
    receive registry isOpen bytes = .ok .skipped ↔ (!bytes.isEmpty && !isOpen) = true := by
  unfold receive
  cases bytes.isEmpty with
  | true => simp
  | false =>
    cases isOpen with
    | false => simp
    | true =>
      -- an open connection leads to a request or to a fault
      simp only [bind, Except.bind, pure, Except.pure, Bool.false_eq_true, Bool.not_true, if_false,
        Bool.and_false, iff_false]
      split
      · simp
      · split
        · simp
        · split
          · split <;> simp
          · split <;> simp
          · simp

namespace Handling

variable [Bus β] {registry : Registry} {w : World β γ} {p : Packet} {c : Counter}

omit [Bus β] in
theorem isLate_iff_of_receive {reception : Except FormatError Reception}
    (h : receive registry (Outlets.isOpen w.outlets p.connection) p.bytes = reception) :
    isLate ⟨w, p⟩ = true ↔ reception = .ok .skipped := by
  rw [← h, receive_eq_skipped_iff]
  rfl

theorem isFault_of_receive {reception : Except FormatError Reception}
    (h : receive registry (Outlets.isOpen w.outlets p.connection) p.bytes = reception) :
    isFault registry ⟨w, p⟩ = !reception.isOk := by
  rcases reception with e | _ | request <;>
    simp [isFault, World.handle, World.accept, h, Except.isOk, Except.toBool]

theorem isCountedBy_of_fault {e : FormatError}
    (h : receive registry (Outlets.isOpen w.outlets p.connection) p.bytes = .error e) :
    isCountedBy registry c ⟨w, p⟩ = decide (c = .formatErrors) := by
  have hlate : isLate ⟨w, p⟩ = false := by
    rw [Bool.eq_false_iff, Ne, isLate_iff_of_receive h]
    exact nofun
  have hfault : isFault registry ⟨w, p⟩ = true := isFault_of_receive h
  simp [isCountedBy, hlate, hfault]

theorem isCountedBy_of_skipped
    (h : receive registry (Outlets.isOpen w.outlets p.connection) p.bytes = .ok .skipped) :
    isCountedBy registry c ⟨w, p⟩ = decide (c = .responsesSkipped) := by
  have hlate : isLate ⟨w, p⟩ = true := (isLate_iff_of_receive h).2 rfl
  have hfault : isFault registry ⟨w, p⟩ = false := isFault_of_receive h
  simp [isCountedBy, hlate, hfault]

theorem isCountedBy_of_accepted {request : Request}
    (h : receive registry (Outlets.isOpen w.outlets p.connection) p.bytes =
      .ok (.accepted request)) :
    isCountedBy registry c ⟨w, p⟩ = false := by
  have hlate : isLate ⟨w, p⟩ = false := by
    rw [Bool.eq_false_iff, Ne, isLate_iff_of_receive h]
    exact nofun
  have hfault : isFault registry ⟨w, p⟩ = false := isFault_of_receive h
  simp [isCountedBy, hlate, hfault]

end Handling

namespace Dispatcher

variable {d : Dispatcher β γ}

theorem get_poll [Bus β] (d : Dispatcher β γ) (c : Counter) :
    d.poll.2.world.metrics.get c = d.world.metrics.get c +
      ((DispatchEvent.taken d.poll.1).map (Handling.mk d.world)).countP
        (Handling.isCountedBy d.registry c) := by
  rcases poll_cases d with ⟨running, -, hpoll⟩ | ⟨p, queue, -, ⟨e, hreceive, hpoll⟩ |
    ⟨hreceive, hpoll⟩ | ⟨request, hreceive, hpoll⟩⟩
  · rw [hpoll]
    rfl
  · rw [hpoll]
    simp [DispatchEvent.taken, DispatchEvent.taken?, Handling.isCountedBy_of_fault hreceive,
      World.record, Metrics.get_record]
  · rw [hpoll]
    simp [DispatchEvent.taken, DispatchEvent.taken?, Handling.isCountedBy_of_skipped hreceive,
      World.record, Metrics.get_record]
  · rw [hpoll]
    simp [DispatchEvent.taken, DispatchEvent.taken?, Handling.isCountedBy_of_accepted hreceive]

/-- A turn of the loop has no effect on anybody else. -/
theorem effects_poll (d : Dispatcher β γ) : DispatchEvent.effects d.poll.1 = [] := by
  rcases poll_takes d with ⟨running, -, hpoll⟩ | ⟨p, queue, fault, started, -, htook, -⟩
  · rw [hpoll]
    rfl
  · rw [htook]
    rfl

end Dispatcher

theorem RequestTask.get_of_step [Bus β] {w w' : World β γ} {connection : ConnectionId}
    {task next : RequestTask} {e : Effect} (h : task.step connection w = some (e, next, w'))
    (c : Counter) :
    w'.metrics.get c = w.metrics.get c + e.counter?.toList.count c := by
  cases task with
  | done => cases h
  | count counter rest =>
    cases h
    rw [World.record, Metrics.get_record]
    by_cases heq : c = counter
    · simp [Effect.counter?, heq]
    · simp [Effect.counter?, heq, Ne.symm heq]
  | readBus a rest | writeBus a v rest | lookUp a rest | send frame rest =>
    cases h
    rfl

/-! ## What all jobs have counted -/

namespace Effect

variable {effects later : List Effect}

theorem Balanced.of_perm (h : Balanced later) (hperm : effects.Perm later) : Balanced effects := by
  intro c
  rw [(hperm.filterMap counter?).count_eq, hperm.countP_eq, h c]

theorem Balanced.flatten {parts : List (List Effect)} (h : ∀ part ∈ parts, Balanced part) :
    Balanced parts.flatten := by
  induction parts with
  | nil => exact fun c => rfl
  | cons part parts ih =>
    rw [List.forall_mem_cons] at h
    exact h.1.append (ih h.2)

end Effect

omit [Outlets γ] in
/-- Jobs that are done have counted all that they did. -/
theorem Dispatcher.Records.balanced {d : Dispatcher β γ} {past : List DispatchEvent}
    (h : d.Records past) (hidle : d.isIdle = true) :
    Effect.Balanced (DispatchEvent.effects past) := by
  refine (Effect.Balanced.flatten fun part hpart => ?_).of_perm (DispatchEvent.perm_effects h.isJob)
  obtain ⟨i, hi, rfl⟩ := List.mem_map.1 hpart
  have hjob := List.getElem?_eq_getElem (List.mem_range.1 hi)
  have hdone := isIdle_iff.1 hidle _ (List.mem_of_getElem? hjob)
  obtain ⟨answers, htranscript⟩ :=
    RequestTask.exists_transcript_of_performs (h.performs_of_done hjob hdone)
  rw [htranscript]
  exact Request.balanced_transcript _ answers

/-! ## Whole runs -/

namespace FedDispatcher

variable [Bus β] {f : FedDispatcher β γ} {past : List DispatchEvent}

/-- The packets that the loop took, each with the world at that time. -/
def handlings (f : FedDispatcher β γ) : List (Occurrence β γ) → List (Handling β γ)
  | [] => []
  | o :: occurrences =>
    (DispatchEvent.taken (f.occur o).1).map (Handling.mk f.dispatcher.world) ++
      (f.occur o).2.handlings occurrences

theorem map_packet_handlings (f : FedDispatcher β γ) (occurrences : List (Occurrence β γ)) :
    (f.handlings occurrences).map Handling.packet =
      DispatchEvent.taken (f.runAmid occurrences).1 := by
  induction occurrences generalizing f with
  | nil => rfl
  | cons o occurrences ih =>
    rw [handlings, runAmid, DispatchEvent.taken_append, List.map_append, ih, List.map_map]
    congr 1
    exact List.map_id _

/-- Besides turns of the loop and actions of jobs, nothing acts on the jobs or on the counters, and
    only others act on the bus. -/
theorem occur_aside (f : FedDispatcher β γ) (o : Occurrence β γ) :
    o = .move .poll ∨ (∃ i, o = .move (.work i)) ∨
      ((f.occur o).1 = [] ∧ (f.occur o).2.dispatcher.jobs = f.dispatcher.jobs ∧
        (f.occur o).2.dispatcher.world.metrics = f.dispatcher.world.metrics ∧
        ((f.occur o).2.dispatcher.world.bus = f.dispatcher.world.bus ∨
          ∃ bus outlets, o = .outside bus outlets ∧
            (f.occur o).2.dispatcher.world.bus = bus f.dispatcher.world.bus)) := by
  cases o with
  | outside bus outlets => exact Or.inr (Or.inr ⟨rfl, rfl, rfl, Or.inr ⟨bus, outlets, rfl, rfl⟩⟩)
  | move move =>
    rcases step_aside f move with rfl | ⟨i, rfl⟩ | ⟨queue, stop, pending, hstep⟩
    · exact Or.inl rfl
    · exact Or.inr (Or.inl ⟨i, rfl⟩)
    · rw [occur, hstep]
      exact Or.inr (Or.inr ⟨rfl, rfl, rfl, Or.inl rfl⟩)

theorem records_occur (h : f.dispatcher.Records past) (o : Occurrence β γ) :
    (f.occur o).2.dispatcher.Records (past ++ (f.occur o).1) := by
  rcases occur_aside f o with rfl | ⟨i, rfl⟩ | ⟨hevents, hjobs, -, -⟩
  · exact h.poll
  · exact h.work i
  · rw [hevents, List.append_nil]
    exact h.congr hjobs

theorem records_runAmid (h : f.dispatcher.Records past) (occurrences : List (Occurrence β γ)) :
    (f.runAmid occurrences).2.dispatcher.Records (past ++ (f.runAmid occurrences).1) :=
  invariant_runAmid (P := fun past f => f.dispatcher.Records past) past h
    (fun _ _ o hrecords => records_occur hrecords o) occurrences

/-! ### What was counted -/

theorem get_occur (f : FedDispatcher β γ) (o : Occurrence β γ) (c : Counter) :
    (f.occur o).2.dispatcher.world.metrics.get c = f.dispatcher.world.metrics.get c +
      ((DispatchEvent.effects (f.occur o).1).filterMap Effect.counter?).count c +
      (f.handlings [o]).countP (Handling.isCountedBy f.dispatcher.registry c) := by
  rw [handlings, handlings, List.append_nil]
  rcases occur_aside f o with rfl | ⟨i, rfl⟩ | ⟨hevents, -, hmetrics, -⟩
  · have hsilent : DispatchEvent.effects (f.occur (.move .poll)).1 = [] :=
      f.dispatcher.effects_poll
    rw [hsilent]
    exact f.dispatcher.get_poll c
  · have hoccur : f.occur (.move (.work i)) =
        ((f.dispatcher.work i).1, ⟨(f.dispatcher.work i).2, f.pending⟩) := rfl
    rw [hoccur]
    rcases f.dispatcher.work_cases i with hwork | ⟨job, e, task, world, -, hstep, hwork⟩
    · rw [hwork]
      rfl
    · have heffects : DispatchEvent.effects [.worked i e] = [e] := rfl
      have hcounted : [e].filterMap Effect.counter? = e.counter?.toList := by
        cases hcounter : e.counter? <;> simp [hcounter]
      rw [hwork, heffects, hcounted]
      exact RequestTask.get_of_step hstep c
  · rw [hevents, hmetrics]
    rfl

/-- Each counter grows by what the jobs have counted and by what the loop has counted itself. -/
theorem get_runAmid (f : FedDispatcher β γ) (occurrences : List (Occurrence β γ)) (c : Counter) :
    (f.runAmid occurrences).2.dispatcher.world.metrics.get c =
      f.dispatcher.world.metrics.get c +
        ((DispatchEvent.effects (f.runAmid occurrences).1).filterMap Effect.counter?).count c +
        (f.handlings occurrences).countP (Handling.isCountedBy f.dispatcher.registry c) := by
  induction occurrences generalizing f with
  | nil => rfl
  | cons o occurrences ih =>
    have hregistry : (f.occur o).2.dispatcher.registry = f.dispatcher.registry := by
      have hsame := registry_runAmid f [o]
      rwa [runAmid_singleton] at hsame
    have hfirst := get_occur f o c
    rw [handlings, handlings, List.append_nil] at hfirst
    rw [runAmid, handlings, ih, hfirst, hregistry, DispatchEvent.effects_append,
      List.filterMap_append, List.count_append, List.countP_append]
    omega

/-- Once all jobs are done, each counter has grown by what there was to count. -/
theorem balances_runAmid (hjobs : f.dispatcher.jobs = []) (occurrences : List (Occurrence β γ))
    (hidle : (f.runAmid occurrences).2.dispatcher.isIdle = true) :
    Metrics.Balances f.dispatcher.registry (f.handlings occurrences)
      (DispatchEvent.effects (f.runAmid occurrences).1) f.dispatcher.world.metrics
      (f.runAmid occurrences).2.dispatcher.world.metrics := by
  have hrecords := records_runAmid (.of_no_jobs hjobs) occurrences
  rw [List.nil_append] at hrecords
  have hget := fun c => get_runAmid f occurrences c
  simp only [hrecords.balanced hidle _] at hget
  have houtcome := Effect.countP_isCountedBy_counter
    (DispatchEvent.effects (f.runAmid occurrences).1)
  constructor
  · simpa [Metrics.get, Effect.isCountedBy_formatErrors, Handling.isCountedBy_formatErrors]
      using hget .formatErrors
  · have hsent := hget (SendOutcome.counter .sent)
    rw [houtcome] at hsent
    simpa [Metrics.get, SendOutcome.counter, Handling.isCountedBy_of_ne] using hsent
  · have hfailed := hget (SendOutcome.counter .failed)
    rw [houtcome] at hfailed
    simpa [Metrics.get, SendOutcome.counter, Handling.isCountedBy_of_ne] using hfailed
  · have hskipped := hget (SendOutcome.counter .skipped)
    rw [houtcome] at hskipped
    simpa [Metrics.get, SendOutcome.counter, Handling.isCountedBy_responsesSkipped] using hskipped
  · simpa [Metrics.get, Effect.isCountedBy_busRequests, Handling.isCountedBy_of_ne]
      using hget .busRequests
  · simpa [Metrics.get, Effect.isCountedBy_busFailures, Handling.isCountedBy_of_ne]
      using hget .busFailures

end FedDispatcher

/-! ## The requests that a bus in memory counts -/

namespace FedDispatcher

variable {f : FedDispatcher MemoryBus γ} {occurrences : List (Occurrence MemoryBus γ)}

/-- Nobody else sends requests to the bus. -/
def IsAlone (occurrences : List (Occurrence MemoryBus γ)) : Prop :=
  ∀ bus outlets, .outside bus outlets ∈ occurrences →
    ∀ b, (bus b).requestCount = b.requestCount

theorem requestCount_occur (f : FedDispatcher MemoryBus γ) {o : Occurrence MemoryBus γ}
    (h : IsAlone [o]) :
    (f.occur o).2.dispatcher.world.bus.requestCount =
      f.dispatcher.world.bus.requestCount +
        (DispatchEvent.effects (f.occur o).1).countP Effect.isBusRequest := by
  rcases occur_aside f o with rfl | ⟨i, rfl⟩ | ⟨hevents, -, -, hsame | ⟨bus, outlets, rfl, hbus⟩⟩
  · obtain ⟨-, -, hbus, -⟩ := f.dispatcher.poll_frame
    have hsilent : DispatchEvent.effects (f.occur (.move .poll)).1 = [] :=
      f.dispatcher.effects_poll
    rw [hsilent, show (f.occur (.move .poll)).2.dispatcher.world.bus = _ from hbus]
    rfl
  · have hoccur : f.occur (.move (.work i)) =
        ((f.dispatcher.work i).1, ⟨(f.dispatcher.work i).2, f.pending⟩) := rfl
    rw [hoccur]
    rcases f.dispatcher.work_cases i with hwork | ⟨job, e, task, world, -, hstep, hwork⟩
    · rw [hwork]
      rfl
    · obtain ⟨hgives, hbus⟩ := RequestTask.leads_of_step hstep
      have hleads : f.dispatcher.world.bus.Leads [e] world.bus := ⟨hgives, hbus⟩
      rw [hwork]
      exact MemoryBus.requestCount_of_leads hleads
  · rw [hevents, hsame]
    rfl
  · rw [hevents, hbus, h bus outlets List.mem_cons_self]
    rfl

theorem requestCount_runAmid (f : FedDispatcher MemoryBus γ) (h : IsAlone occurrences) :
    (f.runAmid occurrences).2.dispatcher.world.bus.requestCount =
      f.dispatcher.world.bus.requestCount +
        (DispatchEvent.effects (f.runAmid occurrences).1).countP Effect.isBusRequest := by
  induction occurrences generalizing f with
  | nil => rfl
  | cons o occurrences ih =>
    have hfirst : IsAlone [o] := fun bus outlets hmem =>
      h bus outlets (List.mem_cons.2 (Or.inl (List.mem_singleton.1 hmem)))
    have hlater : IsAlone occurrences := fun bus outlets hmem =>
      h bus outlets (List.mem_cons_of_mem _ hmem)
    rw [runAmid, ih _ hlater, requestCount_occur f hfirst, DispatchEvent.effects_append,
      List.countP_append, Nat.add_assoc]

/-! ## The ledger balances -/

/-- Over a run at whose end all jobs are done, faults, outcomes and requests have been counted
    once each, and a packet that came too late counts as a skipped response. At most every request
    fails. A bus in memory has counted the same number of requests, if nobody else sent any. -/
theorem runAmid_balances :
    (∀ (β γ : Type) [Bus β] [Outlets γ] (f f' : FedDispatcher β γ)
      (occurrences : List (Occurrence β γ)) (events : List DispatchEvent),
      f.dispatcher.jobs = [] → f.runAmid occurrences = (events, f') →
      f'.dispatcher.isIdle = true →
        (f.handlings occurrences).map Handling.packet = DispatchEvent.taken events ∧
        Metrics.Balances f.dispatcher.registry (f.handlings occurrences)
          (DispatchEvent.effects events) f.dispatcher.world.metrics f'.dispatcher.world.metrics ∧
        f'.dispatcher.world.metrics.busFailures - f.dispatcher.world.metrics.busFailures ≤
          f'.dispatcher.world.metrics.busRequests - f.dispatcher.world.metrics.busRequests) ∧
    ∀ (γ : Type) [Outlets γ] (f f' : FedDispatcher MemoryBus γ)
      (occurrences : List (Occurrence MemoryBus γ)) (events : List DispatchEvent),
      f.dispatcher.jobs = [] → f.runAmid occurrences = (events, f') →
      f'.dispatcher.isIdle = true → IsAlone occurrences →
        f'.dispatcher.world.bus.requestCount - f.dispatcher.world.bus.requestCount =
          f'.dispatcher.world.metrics.busRequests - f.dispatcher.world.metrics.busRequests := by
  constructor
  · intro β γ _ _ f f' occurrences events hjobs hrun hidle
    have hpackets := map_packet_handlings f occurrences
    have hbalances := balances_runAmid hjobs occurrences (by rwa [hrun])
    simp only [hrun] at hpackets hbalances
    refine ⟨hpackets, hbalances, ?_⟩
    have hrefused := Effect.countP_isRefused_le (DispatchEvent.effects events)
    have hrequests := hbalances.busRequests
    have hfailures := hbalances.busFailures
    omega
  · intro γ _ f f' occurrences events hjobs hrun hidle halone
    have hbalances := balances_runAmid hjobs occurrences (by rwa [hrun])
    have hcount := requestCount_runAmid f halone
    simp only [hrun] at hbalances hcount
    have hrequests := hbalances.busRequests
    omega

/-- A packet that is no frame, a read, and a read that comes too late. -/
def threePackets : FedDispatcher MemoryBus ScriptedConnection :=
  ⟨.start .reference ⟨4, [], false⟩ ⟨.initial, ⟨true, [.failed]⟩, .zero⟩,
    [⟨0, [7]⟩, ⟨0, encodeRead ⟨2563⟩ ⟨7, 600⟩⟩, ⟨0, encodeRead ⟨2563⟩ ⟨7, 600⟩⟩]⟩

/-- The connection is closed between the second packet and the third. -/
def closing : List (Occurrence MemoryBus ScriptedConnection) :=
  [.move .publish, .move .publish, .move .publish, .move .poll, .move .poll, .move (.work 0),
    .move (.work 0), .move (.work 0), .move (.work 0), .move (.work 0),
    .outside id fun c => { c with isOpen := false }, .move .poll]

theorem runAmid_balances_closing :
    ∃ events f', threePackets.runAmid closing = (events, f') ∧
      f'.dispatcher.world.metrics = ⟨0, 0, 0, 1, 0, 1, 1, 1, 1⟩ ∧
      Metrics.Balances .reference (threePackets.handlings closing) (DispatchEvent.effects events)
        .zero f'.dispatcher.world.metrics ∧
      f'.dispatcher.world.bus.requestCount = 1 := by
  have hrun : threePackets.runAmid closing = (_, _) := rfl
  obtain ⟨hledger, hmemory⟩ := runAmid_balances
  obtain ⟨-, hbalances, -⟩ := hledger _ _ _ _ _ _ rfl hrun (by decide +kernel)
  have halone : IsAlone closing := by
    intro bus outlets hmem b
    simp only [closing, List.mem_cons, reduceCtorEq, false_or, Occurrence.outside.injEq,
      List.not_mem_nil, or_false] at hmem
    rw [hmem.1]
    rfl
  refine ⟨_, _, hrun, by decide +kernel, hbalances, ?_⟩
  exact hmemory _ _ _ _ _ rfl hrun (by decide +kernel) halone

end FedDispatcher

end KnxGateway
