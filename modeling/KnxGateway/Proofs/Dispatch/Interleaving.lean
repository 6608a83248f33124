import KnxGateway.Proofs.Dispatch.Independence
import KnxGateway.Proofs.Dispatch.JobRecord

set_option autoImplicit false

/-! # Interleavings of request tasks

All jobs of a dispatcher act on one bus and one set of connections, and nothing orders the actions
of different jobs. Whatever the schedule, every frame goes to the connection that its job came
from, and the frames of one job are those of its request, in order. Over a bus in memory,
independent requests come out as if each had been carried out to its end before the next. -/

namespace KnxGateway

/-! ## Frames on their way -/

namespace DispatchEvent

/-- The frames that jobs handed over, in order, each with the connection of its job. -/
def deliveries (jobs : List Job) (events : List DispatchEvent) :
    List (ConnectionId × List UInt8) :=
  events.filterMap fun event =>
    match event with
    | took _ _ => none
    | worked i e => (jobs[i]?).bind fun job => e.frame?.map fun frame => (job.connection, frame)

/-- Only the connections of those jobs matter that acted. -/
theorem deliveries_congr {jobs jobs' : List Job} {events : List DispatchEvent}
    (h : ∀ i e, .worked i e ∈ events →
      (jobs'[i]?).map Job.connection = (jobs[i]?).map Job.connection) :
    deliveries jobs' events = deliveries jobs events := by
  refine List.filterMap_congr fun event hevent => ?_
  cases event with
  | took p fault => rfl
  | worked i e =>
    have hconnection := h i e hevent
    change (jobs'[i]?).bind _ = (jobs[i]?).bind _
    cases hjob : jobs[i]? with
    | none =>
      rw [hjob, Option.map_none, Option.map_eq_none_iff] at hconnection
      rw [hconnection]
    | some job =>
      rw [hjob, Option.map_some, Option.map_eq_some_iff] at hconnection
      obtain ⟨job', hjob', hsame⟩ := hconnection
      rw [hjob', Option.bind_some, Option.bind_some, hsame]

theorem deliveries_append {jobs : List Job} {events later : List DispatchEvent} :
    deliveries jobs (events ++ later) = deliveries jobs events ++ deliveries jobs later :=
  List.filterMap_append

end DispatchEvent

/-- Hands frames to their connections, in order. -/
def Outlets.sendAll {γ : Type} [Outlets γ] (outlets : γ)
    (frames : List (ConnectionId × List UInt8)) : γ :=
  frames.foldl (fun outlets frame => (Outlets.trySend outlets frame.1 frame.2).2) outlets

theorem Outlets.sendAll_append {γ : Type} [Outlets γ] (outlets : γ)
    (frames later : List (ConnectionId × List UInt8)) :
    Outlets.sendAll outlets (frames ++ later) =
      Outlets.sendAll (Outlets.sendAll outlets frames) later :=
  List.foldl_append

/-- Whether a connection was closed before, between or behind the given frames. -/
def Outlets.WasClosed {γ : Type} [Outlets γ] (outlets : γ)
    (frames : List (ConnectionId × List UInt8)) (c : ConnectionId) : Prop :=
  ∃ sent, sent <+: frames ∧ Outlets.isOpen (Outlets.sendAll outlets sent) c = false

/-- An action of a task sends its frame, if it has one, to the connection of the task. -/
theorem RequestTask.outlets_of_step {β γ : Type} [Bus β] [Outlets γ] {c : ConnectionId}
    {task next : RequestTask} {w w' : World β γ} {e : Effect}
    (h : task.step c w = some (e, next, w')) :
    w'.outlets = Outlets.sendAll w.outlets (e.frame?.map fun frame => (c, frame)).toList := by
  cases task <;> simp only [step, Option.some.injEq, Prod.mk.injEq, reduceCtorEq] at h <;>
    (obtain ⟨rfl, -, rfl⟩ := h; rfl)

/-! ## What a dispatcher over a bus in memory has done -/

namespace Dispatcher

variable {γ : Type} [Outlets γ]

/-- The past tells all about a dispatcher that began in the given world: what its jobs have done,
    which packets they came from, what the bus answered, and which frames the connections got. -/
structure Follows (registry : Registry) (start : World MemoryBus γ) (past : List DispatchEvent)
    (d : Dispatcher MemoryBus γ) : Prop where
  sameRegistry : d.registry = registry
  records : d.Records past
  admits : Admits registry
    (Outlets.WasClosed start.outlets (DispatchEvent.deliveries d.jobs past))
    (DispatchEvent.taken past) (d.jobs.map Job.origin)
  leads : start.bus.Leads (DispatchEvent.effects past) d.world.bus
  outlets : d.world.outlets =
    Outlets.sendAll start.outlets (DispatchEvent.deliveries d.jobs past)

namespace Follows

variable {registry : Registry} {start : World MemoryBus γ} {past : List DispatchEvent}
  {d d' : Dispatcher MemoryBus γ}

theorem of_no_jobs (h : d.jobs = []) : Follows d.registry d.world [] d :=
  ⟨rfl, .of_no_jobs h, h ▸ .nil, rfl, rfl⟩

/-- The queue and the signals do not matter. -/
theorem congr (h : Follows registry start past d) (hregistry : d'.registry = d.registry)
    (hjobs : d'.jobs = d.jobs) (hbus : d'.world.bus = d.world.bus)
    (houtlets : d'.world.outlets = d.world.outlets) : Follows registry start past d' where
  sameRegistry := hregistry.trans h.sameRegistry
  records := h.records.congr hjobs
  admits := hjobs ▸ h.admits
  leads := hbus ▸ h.leads
  outlets := by rw [houtlets, hjobs, h.outlets]

theorem poll (h : Follows registry start past d) :
    Follows registry start (past ++ d.poll.1) d.poll.2 := by
  obtain ⟨hregistry, -, hbus, houtlets⟩ := poll_frame d
  -- a turn of the loop hands no frame over and has no effect
  have hturn : DispatchEvent.deliveries d.poll.2.jobs (past ++ d.poll.1) =
        DispatchEvent.deliveries d.jobs past ∧
      DispatchEvent.effects (past ++ d.poll.1) = DispatchEvent.effects past := by
    rw [DispatchEvent.deliveries_append, DispatchEvent.effects, List.filterMap_append]
    rcases poll_takes d with ⟨running, -, hpoll⟩ | ⟨p, queue, fault, started, -, htook, -, -, hjobs⟩
    · rw [hpoll]
      exact ⟨List.append_nil _, List.append_nil _⟩
    · rw [htook, hjobs]
      refine ⟨(List.append_nil _).trans ?_, List.append_nil _⟩
      refine DispatchEvent.deliveries_congr fun i e hmem => ?_
      rw [List.getElem?_append_left (h.records.isJob i e hmem)]
  obtain ⟨hdeliveries, heffects⟩ := hturn
  refine ⟨hregistry.trans h.sameRegistry, h.records.poll, ?_, ?_, ?_⟩
  · rw [hdeliveries, ← h.sameRegistry]
    refine Admits.poll (h.sameRegistry ▸ h.admits) fun p _ _ hclosed =>
      ⟨_, List.prefix_rfl, ?_⟩
    rw [← h.outlets]
    exact hclosed
  · rw [heffects, hbus]
    exact h.leads
  · rw [hdeliveries, houtlets]
    exact h.outlets

theorem work (h : Follows registry start past d) (i : Nat) :
    Follows registry start (past ++ (d.work i).1) (d.work i).2 := by
  have hrecords := h.records.work i
  rcases work_cases d i with hwork | ⟨job, e, task, world, hjob, hstep, hwork⟩
  · rw [hwork, List.append_nil]
    exact h
  rw [hwork] at hrecords ⊢
  obtain ⟨hgives, hbus⟩ := RequestTask.leads_of_step hstep
  have hsame : DispatchEvent.deliveries (d.jobs.set i { job with task }) past =
      DispatchEvent.deliveries d.jobs past :=
    DispatchEvent.deliveries_congr fun j x _ => connection_set hjob task j
  have hlast : DispatchEvent.deliveries (d.jobs.set i { job with task }) [.worked i e] =
      (e.frame?.map fun frame => (job.connection, frame)).toList := by
    obtain ⟨hi, -⟩ := List.getElem?_eq_some_iff.1 hjob
    rw [DispatchEvent.deliveries, List.filterMap_cons, List.filterMap_nil]
    simp only [List.getElem?_set_self hi, Option.bind_some]
    cases e.frame? <;> rfl
  refine ⟨h.sameRegistry, hrecords, ?_, ?_, ?_⟩
  · -- more frames leave more moments at which a connection may be closed
    have hadmits := Admits.work (h.sameRegistry ▸ h.admits) i
    rw [hwork, h.sameRegistry] at hadmits
    refine hadmits.mono fun c ⟨sent, hsent, hc⟩ => ⟨sent, hsent.trans ?_, hc⟩
    rw [DispatchEvent.deliveries_append, hsame]
    exact List.prefix_append _ _
  · rw [DispatchEvent.effects, List.filterMap_append]
    exact MemoryBus.leads_concat_iff.2 ⟨_, h.leads, hgives, hbus⟩
  · rw [DispatchEvent.deliveries_append, Outlets.sendAll_append, hsame, hlast, ← h.outlets]
    exact RequestTask.outlets_of_step hstep

end Follows

end Dispatcher

/-! ## Whole runs -/

namespace FedDispatcher

variable {γ : Type} [Outlets γ] {registry : Registry} {start : World MemoryBus γ}
  {past : List DispatchEvent} {f : FedDispatcher MemoryBus γ}

theorem follows_step (h : f.dispatcher.Follows registry start past) (move : DispatchMove) :
    (f.step move).2.dispatcher.Follows registry start (past ++ (f.step move).1) := by
  rcases step_aside f move with rfl | ⟨i, rfl⟩ | ⟨queue, stop, pending, hstep⟩
  · exact h.poll
  · exact h.work i
  · rw [hstep, List.append_nil]
    exact h.congr rfl rfl rfl rfl

theorem follows_run (h : f.dispatcher.Follows registry start past) (schedule : List DispatchMove) :
    (f.run schedule).2.dispatcher.Follows registry start (past ++ (f.run schedule).1) := by
  induction schedule generalizing f past with
  | nil =>
    rw [run, List.append_nil]
    exact h
  | cons move schedule ih =>
    have hlater := ih (follows_step h move)
    rw [List.append_assoc] at hlater
    exact hlater

end FedDispatcher

/-! ## One request after the other -/

namespace World

variable {β γ : Type} [Bus β] [Outlets γ]

/-- Carries requests of connections out, each to its end before the next, and yields what was
    done for each of them. -/
def carryOut (w : World β γ) : List (ConnectionId × Request) → List (List Effect) × World β γ
  | [] => ([], w)
  | (c, request) :: rest =>
    let (effects, w) := request.task.run c w
    let (later, w) := w.carryOut rest
    (effects :: later, w)

/-- Requests that are carried out one after the other are a merge, too. -/
theorem merge_carryOut {γ : Type} [Outlets γ] (w : World MemoryBus γ)
    (origins : List (ConnectionId × Request)) :
    Merge (origins.map Prod.snd) w.bus (w.carryOut origins).1 (w.carryOut origins).1.flatten
      (w.carryOut origins).2.bus := by
  induction origins generalizing w with
  | nil => exact ⟨.nil, List.Perm.refl _, rfl⟩
  | cons origin rest ih =>
    obtain ⟨c, request⟩ := origin
    have hrest := ih (request.task.run c w).2
    exact ⟨.cons (RequestTask.performs_run c request.task w) hrest.performs, List.Perm.refl _,
      MemoryBus.leads_append_iff.2 ⟨_, RequestTask.leads_run c request.task w, hrest.leads⟩⟩

end World

/-- All that the jobs of a dispatcher have done is a merge, once they are done. -/
theorem Dispatcher.Follows.merge {γ : Type} [Outlets γ] {registry : Registry}
    {start : World MemoryBus γ} {past : List DispatchEvent} {d : Dispatcher MemoryBus γ}
    (h : d.Follows registry start past) (hdone : ∀ job ∈ d.jobs, job.task = .done) :
    Merge (d.jobs.map Job.request) start.bus
      ((List.range d.jobs.length).map (DispatchEvent.effectsOf past))
      (DispatchEvent.effects past) d.world.bus := by
  refine ⟨?_, DispatchEvent.perm_effects h.records.isJob, h.leads⟩
  rw [List.forall₂_iff_get]
  refine ⟨by simp, fun i hi hi' => ?_⟩
  have hjob : i < d.jobs.length := by simpa using hi
  simp only [List.get_eq_getElem, List.getElem_map, List.getElem_range]
  exact h.records.performs_of_done (List.getElem?_eq_getElem hjob)
    (hdone _ (List.getElem_mem hjob))

/-! ## The replies of a job -/

/-- What a job has done is a part of the transcript of its request, and its frames stand for the
    responses to the request. -/
theorem Dispatcher.Records.exists_replies {β γ : Type} {past : List DispatchEvent}
    {d : Dispatcher β γ} (h : d.Records past) {i : Nat} {job : Job}
    (hjob : d.jobs[i]? = some job) :
    ∃ answers front final,
      let effects := DispatchEvent.effectsOf past i
      let replies := (front ++ [final]).map fun r => .ok ⟨job.request.responseAction, r⟩
      final.last = true ∧ (front = [] ∨ front = [⟨false, .success, []⟩]) ∧
        effects <+: job.request.transcript answers ∧
        Effect.frames effects <+: job.request.framesFor answers ∧
        (Effect.frames effects).map Reply.ofFrame <+: replies ∧
        (job.task = .done → effects = job.request.transcript answers ∧
          Effect.frames effects = job.request.framesFor answers ∧
          (Effect.frames effects).map Reply.ofFrame = replies) := by
  obtain ⟨answers, rest, htranscript, hrest⟩ := h.exists_transcript hjob
  have hframes : job.request.framesFor answers =
      Effect.frames (DispatchEvent.effectsOf past i) ++ Effect.frames rest := by
    rw [← Request.frames_transcript, htranscript]
    exact List.filterMap_append
  have hsent : Effect.frames (DispatchEvent.effectsOf past i) <+:
      job.request.framesFor answers := ⟨Effect.frames rest, hframes.symm⟩
  -- the frames stand for the responses to the request
  obtain ⟨front, final, hresponses, hlast, hfront⟩ :=
    job.request.exists_responses_eq answers.bus answers.value
  have hreplies := job.request.map_ofFrame_responses answers.bus answers.value
  rw [← Request.framesFor, hresponses] at hreplies
  refine ⟨answers, front, final, hlast, hfront, ⟨rest, htranscript.symm⟩, hsent, ?_,
    fun hdone => ?_⟩
  · rw [← hreplies]
    exact hsent.map _
  · rw [hrest hdone, List.append_nil] at htranscript
    rw [hrest hdone] at hframes
    have hall := (hframes.trans (List.append_nil _)).symm
    exact ⟨htranscript.symm, hall, hall ▸ hreplies⟩

/-! ## Interleavings do not matter -/

namespace FedDispatcher

variable {γ : Type} [Outlets γ]

/-- Whatever the schedule, the jobs are those of the packets that were accepted, in the order in
    which the packets were taken; every frame goes to the connection that the packet of its job
    came from; and what a job does is what its request asks for, in order. Its frames stand for
    responses to the request, of which the final one alone is marked as the last. If the requests
    are independent and all jobs are done, then the frames of every request, the last values and
    the number of bus requests are those that come of carrying the requests out one after the
    other. -/
theorem run_interleaved {f f' : FedDispatcher MemoryBus γ} {schedule : List DispatchMove}
    {events : List DispatchEvent} (hjobs : f.dispatcher.jobs = [])
    (hrun : f.run schedule = (events, f')) :
    Admits f.dispatcher.registry
        (Outlets.WasClosed f.dispatcher.world.outlets
          (DispatchEvent.deliveries f'.dispatcher.jobs events))
        (DispatchEvent.taken events) (f'.dispatcher.jobs.map Job.origin) ∧
      f'.dispatcher.world.outlets =
        Outlets.sendAll f.dispatcher.world.outlets
          (DispatchEvent.deliveries f'.dispatcher.jobs events) ∧
      (∀ i job, f'.dispatcher.jobs[i]? = some job → ∃ answers front final,
        let effects := DispatchEvent.effectsOf events i
        let replies := (front ++ [final]).map fun r => .ok ⟨job.request.responseAction, r⟩
        final.last = true ∧ (front = [] ∨ front = [⟨false, .success, []⟩]) ∧
          effects <+: job.request.transcript answers ∧
          Effect.frames effects <+: job.request.framesFor answers ∧
          (Effect.frames effects).map Reply.ofFrame <+: replies ∧
          (job.task = .done → effects = job.request.transcript answers ∧
            Effect.frames effects = job.request.framesFor answers ∧
            (Effect.frames effects).map Reply.ofFrame = replies)) ∧
      (f'.dispatcher.isIdle = true →
        (f'.dispatcher.jobs.map Job.request).Pairwise Request.IsIndependentOf →
          let alone := f.dispatcher.world.carryOut (f'.dispatcher.jobs.map Job.origin)
          (List.range f'.dispatcher.jobs.length).map
              (fun i => Effect.frames (DispatchEvent.effectsOf events i)) =
            alone.1.map Effect.frames ∧
          (∀ a, f'.dispatcher.world.bus.pool.lastValue a = alone.2.bus.pool.lastValue a) ∧
          f'.dispatcher.world.bus.requestCount = alone.2.bus.requestCount) := by
  have hfollows := follows_run (Dispatcher.Follows.of_no_jobs hjobs) schedule
  rw [hrun, List.nil_append] at hfollows
  refine ⟨hfollows.admits, hfollows.outlets, fun i job hjob => hfollows.records.exists_replies hjob,
    fun hidle hindependent => ?_⟩
  -- both ways of carrying the requests out are merges
  have hmerge := hfollows.merge (Dispatcher.isIdle_iff.1 hidle)
  have halone := f.dispatcher.world.merge_carryOut (f'.dispatcher.jobs.map Job.origin)
  rw [List.map_map] at halone
  refine ⟨?_, fun a => hmerge.lastValue_eq halone hindependent a, ?_⟩
  · have hframes := (hmerge.frames hindependent).trans (halone.frames hindependent).symm
    rw [List.map_map] at hframes
    exact hframes
  · rw [hmerge.requestCount_eq]
    exact halone.requestCount_eq.symm

/-- A read and a write of different addresses that take turns. -/
theorem run_interleaved_read_write :
    ∃ (f f' : FedDispatcher MemoryBus ScriptedConnection) (schedule : List DispatchMove)
      (events : List DispatchEvent),
      f.run schedule = (events, f') ∧ f'.dispatcher.jobs.length = 2 ∧
        f'.dispatcher.isIdle = true ∧
        (∀ i job, f'.dispatcher.jobs[i]? = some job → ∃ front final,
          (Effect.frames (DispatchEvent.effectsOf events i)).map Reply.ofFrame =
              (front ++ [final]).map (fun r => .ok ⟨job.request.responseAction, r⟩) ∧
            final.last = true) ∧
        let alone := f.dispatcher.world.carryOut (f'.dispatcher.jobs.map Job.origin)
        (List.range f'.dispatcher.jobs.length).map
            (fun i => Effect.frames (DispatchEvent.effectsOf events i)) =
          alone.1.map Effect.frames ∧
        f'.dispatcher.world.bus.requestCount = alone.2.bus.requestCount := by
  let world : World MemoryBus ScriptedConnection := ⟨.initial, ⟨true, []⟩, .zero⟩
  let f : FedDispatcher MemoryBus ScriptedConnection :=
    ⟨.start .reference ⟨2, [], false⟩ world,
      [⟨0, encodeRead ⟨2563⟩ ⟨7, 600⟩⟩, ⟨1, [1, 1, 8, 10, 4, 0, 1, 0, 1, 111, 110]⟩]⟩
  let schedule : List DispatchMove :=
    [.publish, .publish, .poll, .poll, .work 0, .work 1, .work 1, .work 0, .work 0, .work 1,
      .work 0, .work 1, .work 0]
  have hrun : f.run schedule = ((f.run schedule).1, (f.run schedule).2) := rfl
  obtain ⟨hlength, hidle, hnodup⟩ :
      (f.run schedule).2.dispatcher.jobs.length = 2 ∧
        (f.run schedule).2.dispatcher.isIdle = true ∧
        (((f.run schedule).2.dispatcher.jobs.map Job.request).map Request.address).Nodup := by
    decide +kernel
  obtain ⟨-, -, hjobs, halone⟩ := run_interleaved rfl hrun
  obtain ⟨hframes, -, hcount⟩ := halone hidle (Request.pairwise_isIndependentOf hnodup)
  refine ⟨f, _, schedule, _, hrun, hlength, hidle, fun i job hjob => ?_, hframes, hcount⟩
  obtain ⟨_, front, final, hlast, -, -, -, -, hend⟩ := hjobs i job hjob
  have hdone : job.task = .done :=
    Dispatcher.isIdle_iff.1 hidle job (List.mem_of_getElem? hjob)
  obtain ⟨-, -, hreplies⟩ := hend hdone
  exact ⟨front, final, hreplies, hlast⟩

end FedDispatcher

end KnxGateway
