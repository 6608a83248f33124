import KnxGateway.Proofs.Dispatch.Replies
import Mathlib.Data.List.Nodup

set_option autoImplicit false

/-! # What the jobs of a dispatcher have done

A dispatcher takes turns of its loop and lets its jobs act, in any order. What a job has done so
far can be read off the events of the past: it is the beginning of something that its request asks
for, and all of it once the job is done. A job never changes the request that it is for, nor the
connection that it answers. -/

namespace KnxGateway

variable {β γ : Type}

/-! ## Tasks that are under way -/

namespace RequestTask

theorem performs_of_step [Bus β] [Outlets γ] {c : ConnectionId} {task next : RequestTask}
    {w w' : World β γ} {e : Effect} (h : task.step c w = some (e, next, w')) {rest : List Effect}
    (hrest : Performs next rest) : Performs task (e :: rest) := by
  cases task <;> simp only [step, Option.some.injEq, Prod.mk.injEq, reduceCtorEq] at h <;>
    obtain ⟨rfl, rfl, -⟩ := h
  · exact .count hrest
  · exact .readBus _ hrest
  · exact .writeBus _ hrest
  · exact .lookUp _ hrest
  · exact .send _ hrest

/-- Every task comes to an end, whatever it is told. -/
theorem exists_performs (task : RequestTask) : ∃ effects, Performs task effects := by
  induction task with
  | done => exact ⟨_, .done⟩
  | count counter next ih =>
    obtain ⟨effects, h⟩ := ih
    exact ⟨_, .count h⟩
  | readBus a next ih =>
    obtain ⟨effects, h⟩ := ih (.ok true)
    exact ⟨_, .readBus _ h⟩
  | writeBus a v next ih =>
    obtain ⟨effects, h⟩ := ih (.ok true)
    exact ⟨_, .writeBus _ h⟩
  | lookUp a next ih =>
    obtain ⟨effects, h⟩ := ih none
    exact ⟨_, .lookUp _ h⟩
  | send frame next ih =>
    obtain ⟨effects, h⟩ := ih .sent
    exact ⟨_, .send _ h⟩

end RequestTask

/-! ## The effects of one job -/

namespace DispatchEvent

/-- The effects of the job of a given number, in order. -/
def effectsOf (events : List DispatchEvent) (i : Nat) : List Effect :=
  events.filterMap (effectOf? i)

variable {events later : List DispatchEvent} {i : Nat}

theorem effectsOf_append :
    effectsOf (events ++ later) i = effectsOf events i ++ effectsOf later i :=
  List.filterMap_append

theorem effectsOf_took (p : Packet) (fault : Option FormatError) :
    effectsOf [.took p fault] i = [] :=
  rfl

theorem effectsOf_worked_self (e : Effect) : effectsOf [.worked i e] i = [e] := by
  simp [effectsOf, effectOf?]

theorem effectsOf_cons_self (e : Effect) :
    effectsOf (.worked i e :: events) i = e :: effectsOf events i := by
  simp [effectsOf, effectOf?]

theorem effectsOf_worked_of_ne {j : Nat} (h : j ≠ i) (e : Effect) :
    effectsOf [.worked j e] i = [] := by
  simp [effectsOf, effectOf?, h]

theorem mem_effectsOf_iff {e : Effect} : e ∈ effectsOf events i ↔ .worked i e ∈ events := by
  rw [effectsOf, List.mem_filterMap]
  constructor
  · rintro ⟨event, hevent, heffect⟩
    cases event with
    | took p fault => cases heffect
    | worked j x =>
      simp only [effectOf?, Option.ite_none_right_eq_some, Option.some.injEq] at heffect
      obtain ⟨rfl, rfl⟩ := heffect
      exact hevent
  · exact fun h => ⟨_, h, if_pos rfl⟩

/-- The events split where the effects of a job split. -/
theorem exists_split_of_effectsOf {front back : List Effect} {e : Effect}
    (h : effectsOf events i = front ++ e :: back) :
    ∃ before after, events = before ++ .worked i e :: after ∧ effectsOf before i = front ∧
      effectsOf after i = back := by
  obtain ⟨before, tail, rfl, rfl, htail⟩ := List.filterMap_eq_append_iff.1 h
  obtain ⟨between, event, after, rfl, hbetween, hevent, rfl⟩ := List.filterMap_eq_cons_iff.1 htail
  cases event with
  | took p fault => cases hevent
  | worked j x =>
    simp only [effectOf?, Option.ite_none_right_eq_some, Option.some.injEq] at hevent
    obtain ⟨rfl, rfl⟩ := hevent
    refine ⟨before ++ between, after, by simp, ?_, rfl⟩
    rw [effectsOf_append, effectsOf, effectsOf, List.filterMap_eq_nil_iff.2 hbetween,
      List.append_nil]

/-- A job without events has no effects. -/
theorem effectsOf_of_forall (h : ∀ e, .worked i e ∉ events) : effectsOf events i = [] :=
  List.eq_nil_iff_forall_not_mem.2 fun e he => h e (mem_effectsOf_iff.1 he)

/-! ### The packets that were taken -/

theorem taken_append : taken (events ++ later) = taken events ++ taken later :=
  List.filterMap_append

theorem taken_concat_took (p : Packet) (fault : Option FormatError) :
    taken (events ++ [.took p fault]) = taken events ++ [p] :=
  List.filterMap_append

theorem taken_concat_worked (e : Effect) : taken (events ++ [.worked i e]) = taken events := by
  rw [taken, List.filterMap_append]
  exact List.append_nil _

/-! ### The effects of all jobs -/

theorem effects_append : effects (events ++ later) = effects events ++ effects later :=
  List.filterMap_append

/-- The number of the job and the effect, if the event is that a job acted. -/
def worked? : DispatchEvent → Option (Nat × Effect)
  | took _ _ => none
  | worked i e => some (i, e)

/-- The effects of all jobs with the numbers of the jobs, in order. -/
def allWorked (events : List DispatchEvent) : List (Nat × Effect) :=
  events.filterMap worked?

/-- An element that is added to one of several lists is added to all of them together. -/
theorem perm_flatten_map_cons {α : Type} {indices : List Nat} (hnodup : indices.Nodup)
    (hi : i ∈ indices) (x : α) (parts : Nat → List α) :
    (indices.map fun k => (if i = k then [x] else []) ++ parts k).flatten.Perm
      (x :: (indices.map parts).flatten) := by
  obtain ⟨before, after, rfl⟩ := List.append_of_mem hi
  -- the lists in front of and behind the one that grows stay as they are
  have hother : ∀ l : List Nat, i ∉ l →
      (l.map fun k => (if i = k then [x] else []) ++ parts k) = l.map parts := by
    intro l hl
    refine List.map_congr_left fun k hk => ?_
    have hne : i ≠ k := fun heq => hl (heq ▸ hk)
    rw [if_neg hne, List.nil_append]
  rw [List.nodup_middle, List.nodup_cons, List.mem_append, not_or] at hnodup
  rw [List.map_append, List.map_cons, hother before hnodup.1.1, hother after hnodup.1.2,
    if_pos rfl]
  simp only [List.flatten_append, List.flatten_cons, List.cons_append, List.nil_append,
    List.map_append, List.map_cons]
  exact List.perm_middle

/-- What all jobs did is a merge of what the single jobs did. -/
theorem perm_allWorked {n : Nat} (h : ∀ i e, .worked i e ∈ events → i < n) :
    (allWorked events).Perm
      ((List.range n).map fun i => (effectsOf events i).map fun e => (i, e)).flatten := by
  induction events with
  | nil => simp [allWorked, effectsOf]
  | cons event events ih =>
    have hevents := ih fun i e hmem => h i e (List.mem_cons_of_mem _ hmem)
    cases event with
    | took p fault => exact hevents
    | worked i e =>
      have hi : i ∈ List.range n := List.mem_range.2 (h i e List.mem_cons_self)
      -- the event adds to the effects of one job
      have hparts : (fun k => (effectsOf (.worked i e :: events) k).map fun e => (k, e)) =
          fun k => (if i = k then [(i, e)] else []) ++
            (effectsOf events k).map fun e => (k, e) := by
        funext k
        by_cases heq : i = k
        · subst heq
          simp [effectsOf, effectOf?]
        · simp [effectsOf, effectOf?, heq]
      rw [hparts]
      exact (hevents.cons (i, e)).trans (perm_flatten_map_cons List.nodup_range hi (i, e) _).symm

theorem perm_effects {n : Nat} (h : ∀ i e, .worked i e ∈ events → i < n) :
    (effects events).Perm ((List.range n).map (effectsOf events)).flatten := by
  have heffects : effects events = (allWorked events).map Prod.snd := by
    rw [effects, allWorked, List.map_filterMap]
    refine List.filterMap_congr fun event _ => ?_
    cases event <;> rfl
  have hperm := (perm_allWorked h).map Prod.snd
  rw [← heffects] at hperm
  simpa only [List.map_flatten, List.map_map, Function.comp_def, List.map_id'] using! hperm

end DispatchEvent

/-! ## One turn of the loop, one action of a job -/

/-- The connection and the request of a job. -/
def Job.origin (job : Job) : ConnectionId × Request :=
  (job.connection, job.request)

namespace Dispatcher

variable {d : Dispatcher β γ}

theorem isIdle_iff : d.isIdle = true ↔ ∀ job ∈ d.jobs, job.task = .done := by
  rw [isIdle, List.all_eq_true]
  refine forall₂_congr fun job _ => ?_
  cases job.task <;> simp

theorem poll_of_halted [Outlets γ] (hrunning : d.running = false) : d.poll = ([], d) := by
  rw [poll, hrunning]
  rfl

theorem poll_of_stops [Outlets γ] (hstop : d.stop.stops = true) :
    d.poll = ([], { d with running := false }) := by
  cases hrunning : d.running with
  | false =>
    rw [poll_of_halted hrunning, ← hrunning]
  | true =>
    rw [poll, hrunning, hstop]
    rfl

theorem poll_of_nil [Outlets γ] (hrunning : d.running = true) (hstop : d.stop.stops = false)
    (hwaiting : d.queue.waiting = []) :
    d.poll = ([], { d with running := !d.queue.closed }) := by
  rw [poll, hrunning, hstop, PacketQueue.take?, hwaiting]
  rfl

/-- The queue has no part in how a packet is read. -/
theorem accept_queue [Outlets γ] (d : Dispatcher β γ) (queue : PacketQueue) (p : Packet) :
    { d with queue }.accept p = ((d.accept p).1, { (d.accept p).2 with queue }) := by
  simp only [accept]
  split <;> rfl

/-- Whatever becomes of the packet, the queue is without it and the loop goes on. -/
theorem poll_of_cons [Outlets γ] {p : Packet} {rest : List Packet} (hrunning : d.running = true)
    (hstop : d.stop.stops = false) (hwaiting : d.queue.waiting = p :: rest) :
    d.poll = ([.took p (d.accept p).1],
      { (d.accept p).2 with queue := { d.queue with waiting := rest } }) := by
  rw [poll, if_neg (by simp [hrunning]), if_neg (by simp [hstop]), PacketQueue.take?, hwaiting]
  simp only [accept_queue]

/-- Reading a packet may count an event and start a job, no more. -/
theorem accept_frame [Outlets γ] (d : Dispatcher β γ) (p : Packet) :
    ∃ jobs world, (d.accept p).2 = { d with jobs, world } := by
  unfold accept
  split <;> exact ⟨_, _, rfl⟩

/-- The loop has ended, it is told to stop, it finds no packet, or it takes the first one. -/
theorem turn_cases [Outlets γ] (d : Dispatcher β γ) :
    (d.running = false ∧ d.poll = ([], d)) ∨
      (d.stop.stops = true ∧ d.poll = ([], { d with running := false })) ∨
      (d.running = true ∧ d.stop.stops = false ∧ d.queue.waiting = [] ∧
        d.poll = ([], { d with running := !d.queue.closed })) ∨
      ∃ p rest, d.running = true ∧ d.stop.stops = false ∧ d.queue.waiting = p :: rest ∧
        d.poll = ([.took p (d.accept p).1],
          { (d.accept p).2 with queue := { d.queue with waiting := rest } }) := by
  by_cases hrunning : d.running = false
  · exact Or.inl ⟨hrunning, poll_of_halted hrunning⟩
  by_cases hstop : d.stop.stops = true
  · exact Or.inr (Or.inl ⟨hstop, poll_of_stops hstop⟩)
  rw [Bool.not_eq_false] at hrunning
  rw [Bool.not_eq_true] at hstop
  cases hwaiting : d.queue.waiting with
  | nil =>
    exact Or.inr (Or.inr (Or.inl ⟨hrunning, hstop, rfl, poll_of_nil hrunning hstop hwaiting⟩))
  | cons p rest =>
    exact Or.inr (Or.inr (Or.inr ⟨p, rest, hrunning, hstop, rfl,
      poll_of_cons hrunning hstop hwaiting⟩))

/-- A turn of the loop takes no packet, or it takes one that is at fault, skipped or accepted. -/
theorem poll_cases [Outlets γ] (d : Dispatcher β γ) :
    (∃ running, (running = true ∨ d.running = false ∨ d.stop.stops = true ∨
        d.queue.closed = true) ∧ d.poll = ([], { d with running })) ∨
      ∃ p queue, d.queue.take? = some (p, queue) ∧
        let reception := receive d.registry (Outlets.isOpen d.world.outlets p.connection) p.bytes
        (∃ e, reception = .error e ∧
            d.poll =
              ([.took p (some e)], { d with queue, world := d.world.record .formatErrors })) ∨
          (reception = .ok .skipped ∧
            d.poll = ([.took p none], { d with queue, world := d.world.record .responsesSkipped })) ∨
          ∃ request, reception = .ok (.accepted request) ∧
            d.poll =
              ([.took p none],
                { d with queue, jobs := d.jobs ++ [.start p.connection request] }) := by
  rcases turn_cases d with ⟨hrunning, hpoll⟩ | ⟨hstop, hpoll⟩ | ⟨-, -, -, hpoll⟩ |
    ⟨p, rest, -, -, hwaiting, hpoll⟩
  · exact Or.inl ⟨false, Or.inr (Or.inl hrunning), by rw [hpoll, ← hrunning]⟩
  · exact Or.inl ⟨false, Or.inr (Or.inr (Or.inl hstop)), hpoll⟩
  · exact Or.inl ⟨!d.queue.closed, by cases d.queue.closed <;> simp, hpoll⟩
  · refine Or.inr ⟨p, { d.queue with waiting := rest },
      PacketQueue.take?_eq_some_iff.2 ⟨hwaiting, rfl, rfl⟩, ?_⟩
    rw [hpoll]
    simp only [accept, World.accept]
    cases receive d.registry (Outlets.isOpen d.world.outlets p.connection) p.bytes with
    | error e => exact Or.inl ⟨e, rfl, rfl⟩
    | ok reception =>
      cases reception with
      | skipped => exact Or.inr (Or.inl ⟨rfl, rfl⟩)
      | accepted request => exact Or.inr (Or.inr ⟨request, rfl, rfl⟩)

/-- A turn of the loop asks nobody and hands no frame over. -/
theorem poll_frame [Outlets γ] (d : Dispatcher β γ) :
    d.poll.2.registry = d.registry ∧ d.poll.2.stop = d.stop ∧
      d.poll.2.world.bus = d.world.bus ∧ d.poll.2.world.outlets = d.world.outlets := by
  rcases poll_cases d with ⟨running, -, hpoll⟩ | ⟨p, queue, -, ⟨e, -, hpoll⟩ | ⟨-, hpoll⟩ |
    ⟨request, -, hpoll⟩⟩ <;> rw [hpoll] <;> exact ⟨rfl, rfl, rfl, rfl⟩

/-- A turn of the loop takes the next packet if it takes one, and starts jobs behind the others. -/
theorem poll_takes [Outlets γ] (d : Dispatcher β γ) :
    (∃ running, (running = true ∨ d.running = false ∨ d.stop.stops = true ∨
        d.queue.closed = true) ∧ d.poll = ([], { d with running })) ∨
      ∃ p queue fault started, d.queue.take? = some (p, queue) ∧ d.poll.1 = [.took p fault] ∧
        d.poll.2.queue = queue ∧ d.poll.2.running = d.running ∧
        d.poll.2.jobs = d.jobs ++ started := by
  rcases poll_cases d with hnone | ⟨p, queue, htake, ⟨e, -, hpoll⟩ | ⟨-, hpoll⟩ |
    ⟨request, -, hpoll⟩⟩
  · exact Or.inl hnone
  · exact Or.inr ⟨p, queue, some e, [], htake, by rw [hpoll], by rw [hpoll], by rw [hpoll],
      by rw [hpoll, List.append_nil]⟩
  · exact Or.inr ⟨p, queue, none, [], htake, by rw [hpoll], by rw [hpoll], by rw [hpoll],
      by rw [hpoll, List.append_nil]⟩
  · exact Or.inr ⟨p, queue, none, _, htake, by rw [hpoll], by rw [hpoll], by rw [hpoll],
      by rw [hpoll]⟩

/-- A job carries one atomic action out, unless it is done or there is no such job. -/
theorem work_cases [Bus β] [Outlets γ] (d : Dispatcher β γ) (i : Nat) :
    d.work i = ([], d) ∨
      ∃ job e task world, d.jobs[i]? = some job ∧
        job.task.step job.connection d.world = some (e, task, world) ∧
        d.work i = ([.worked i e], { d with world, jobs := d.jobs.set i { job with task } }) := by
  unfold work
  cases hjob : d.jobs[i]? with
  | none => exact Or.inl rfl
  | some job =>
    cases hstep : job.task.step job.connection d.world with
    | none => exact Or.inl (by simp only [hstep])
    | some next =>
      obtain ⟨e, task, world⟩ := next
      exact Or.inr ⟨job, e, task, world, rfl, hstep, by simp only [hstep]⟩

/-- The queue has no part in what a job does. -/
theorem work_queue [Bus β] [Outlets γ] (d : Dispatcher β γ) (queue : PacketQueue) (i : Nat) :
    { d with queue }.work i = ((d.work i).1, { (d.work i).2 with queue }) := by
  simp only [work]
  split
  · rfl
  · split <;> rfl

/-- An action of a job leaves the origins of all jobs as they are. -/
theorem origins_set {jobs : List Job} {i : Nat} {job : Job} (h : jobs[i]? = some job)
    (task : RequestTask) :
    (jobs.set i { job with task }).map Job.origin = jobs.map Job.origin := by
  obtain ⟨hi, rfl⟩ := List.getElem?_eq_some_iff.1 h
  have hi' : i < (jobs.map Job.origin).length := by rwa [List.length_map]
  have horigin : Job.origin { jobs[i] with task } = (jobs.map Job.origin)[i] := by
    rw [List.getElem_map]
    rfl
  rw [List.map_set, horigin, List.set_getElem_self]

theorem connection_set {jobs : List Job} {i : Nat} {job : Job} (h : jobs[i]? = some job)
    (task : RequestTask) (j : Nat) :
    ((jobs.set i { job with task })[j]?).map Job.connection = (jobs[j]?).map Job.connection := by
  have horigin := congrArg (fun origins => origins[j]?.map Prod.fst) (origins_set h task)
  simpa only [List.getElem?_map, Option.map_map] using! horigin

/-! ## Which packets start jobs -/

end Dispatcher

/-- The packets taken from the queue and the origins of the jobs they started. A packet starts one
    job if it asks for a request; it is left out only if it does not, or if its connection was
    closed. -/
inductive Admits (registry : Registry) (wasClosed : ConnectionId → Prop) :
    List Packet → List (ConnectionId × Request) → Prop where
  | nil : Admits registry wasClosed [] []
  | admitted {packets : List Packet} {origins : List (ConnectionId × Request)} {p : Packet}
      {request : Request} : Admits registry wasClosed packets origins →
      receive registry true p.bytes = .ok (.accepted request) →
      Admits registry wasClosed (packets ++ [p]) (origins ++ [(p.connection, request)])
  | leftOut {packets : List Packet} {origins : List (ConnectionId × Request)} {p : Packet} :
      Admits registry wasClosed packets origins →
      (wasClosed p.connection ∨
        ∀ request, receive registry true p.bytes ≠ .ok (.accepted request)) →
      Admits registry wasClosed (packets ++ [p]) origins

/-- The bytes of a packet are accepted on open connections only. -/
theorem isOpen_of_receive {registry : Registry} {isOpen : Bool} {bytes : List UInt8}
    {request : Request} (h : receive registry isOpen bytes = .ok (.accepted request)) :
    isOpen = true := by
  cases isOpen with
  | true => rfl
  | false =>
    unfold receive at h
    split at h <;> cases h

namespace Admits

variable {registry : Registry} {wasClosed wasClosed' : ConnectionId → Prop}
  {packets : List Packet} {origins : List (ConnectionId × Request)}

theorem mono (h : Admits registry wasClosed packets origins)
    (hclosed : ∀ c, wasClosed c → wasClosed' c) : Admits registry wasClosed' packets origins := by
  induction h with
  | nil => exact .nil
  | admitted _ hreceive ih => exact .admitted ih hreceive
  | leftOut _ hout ih => exact .leftOut ih (hout.imp_left (hclosed _))

/-- A packet that is not accepted is left out. -/
theorem concat_of_ne (h : Admits registry wasClosed packets origins) {isOpen : Bool} {p : Packet}
    (hreceive : ∀ request, receive registry isOpen p.bytes ≠ .ok (.accepted request))
    (hclosed : isOpen = false → wasClosed p.connection) :
    Admits registry wasClosed (packets ++ [p]) origins := by
  cases isOpen with
  | false => exact .leftOut h (Or.inl (hclosed rfl))
  | true => exact .leftOut h (Or.inr hreceive)

/-- A turn of the loop admits packets as it should. -/
theorem poll [Outlets γ] {d : Dispatcher β γ} {past : List DispatchEvent}
    (h : Admits d.registry wasClosed (DispatchEvent.taken past) (d.jobs.map Job.origin))
    (hclosed : ∀ p queue, d.queue.take? = some (p, queue) →
      Outlets.isOpen d.world.outlets p.connection = false → wasClosed p.connection) :
    Admits d.registry wasClosed (DispatchEvent.taken (past ++ d.poll.1))
      (d.poll.2.jobs.map Job.origin) := by
  rcases Dispatcher.poll_cases d with ⟨running, -, hpoll⟩ | ⟨p, queue, htake,
    ⟨e, hreceive, hpoll⟩ | ⟨hreceive, hpoll⟩ | ⟨request, hreceive, hpoll⟩⟩
  · rw [hpoll, List.append_nil]
    exact h
  · rw [hpoll, DispatchEvent.taken_concat_took]
    exact h.concat_of_ne (by simp [hreceive]) (hclosed p queue htake)
  · rw [hpoll, DispatchEvent.taken_concat_took]
    exact h.concat_of_ne (by simp [hreceive]) (hclosed p queue htake)
  · -- what is accepted at all is accepted on an open connection
    rw [isOpen_of_receive hreceive] at hreceive
    rw [hpoll, DispatchEvent.taken_concat_took, List.map_append]
    exact .admitted h hreceive

/-- An action of a job takes no packets and starts no jobs. -/
theorem work [Bus β] [Outlets γ] {d : Dispatcher β γ} {past : List DispatchEvent}
    (h : Admits d.registry wasClosed (DispatchEvent.taken past) (d.jobs.map Job.origin)) (i : Nat) :
    Admits d.registry wasClosed (DispatchEvent.taken (past ++ (d.work i).1))
      ((d.work i).2.jobs.map Job.origin) := by
  rcases Dispatcher.work_cases d i with hwork | ⟨job, e, task, world, hjob, hstep, hwork⟩
  · rw [hwork, List.append_nil]
    exact h
  · rw [hwork, DispatchEvent.taken_concat_worked, Dispatcher.origins_set hjob]
    exact h

end Admits

/-! ## The past of the jobs -/

namespace Dispatcher

variable {d : Dispatcher β γ}

/-- The past tells what the jobs have done: only jobs have acted, and what a job has done goes
    together with what it is still to do. -/
structure Records (past : List DispatchEvent) (d : Dispatcher β γ) : Prop where
  isJob : ∀ i e, .worked i e ∈ past → i < d.jobs.length
  performs : ∀ i job, d.jobs[i]? = some job → ∀ rest, RequestTask.Performs job.task rest →
    RequestTask.Performs job.request.task (DispatchEvent.effectsOf past i ++ rest)

namespace Records

variable {past : List DispatchEvent}

theorem of_no_jobs (h : d.jobs = []) : Records [] d := by
  refine ⟨fun i e hmem => absurd hmem List.not_mem_nil, fun i job hjob => ?_⟩
  rw [h] at hjob
  cases hjob

/-- Only the jobs matter. -/
theorem congr {d' : Dispatcher β γ} (h : Records past d) (hjobs : d'.jobs = d.jobs) :
    Records past d' := by
  obtain ⟨hisJob, hperforms⟩ := h
  rw [← hjobs] at hisJob hperforms
  exact ⟨hisJob, hperforms⟩

/-- A packet that starts no job leaves the record as it is. -/
theorem took (h : Records past d) (p : Packet) (fault : Option FormatError) :
    Records (past ++ [.took p fault]) d := by
  refine ⟨fun i e hmem => h.isJob i e (by simpa using hmem), fun i job hjob rest hrest => ?_⟩
  rw [DispatchEvent.effectsOf_append, DispatchEvent.effectsOf_took, List.append_nil]
  exact h.performs i job hjob rest hrest

theorem poll [Outlets γ] (h : Records past d) : Records (past ++ d.poll.1) d.poll.2 := by
  rcases poll_cases d with ⟨running, -, hpoll⟩ | ⟨p, queue, -, ⟨e, -, hpoll⟩ | ⟨-, hpoll⟩ |
    ⟨request, -, hpoll⟩⟩
  · rw [hpoll, List.append_nil]
    exact h.congr rfl
  · rw [hpoll]
    exact (h.took p (some e)).congr rfl
  · rw [hpoll]
    exact (h.took p none).congr rfl
  · rw [hpoll]
    have htook := h.took p none
    refine ⟨fun i e hmem => ?_, fun i job hjob rest hrest => ?_⟩
    · have hi := htook.isJob i e hmem
      rw [List.length_append]
      omega
    · rw [List.getElem?_append] at hjob
      split at hjob
      · exact htook.performs i job hjob rest hrest
      · next hge =>
        -- the new job has done nothing yet
        have heffects : DispatchEvent.effectsOf (past ++ [.took p none]) i = [] :=
          DispatchEvent.effectsOf_of_forall fun e hmem => hge (htook.isJob i e hmem)
        rw [List.getElem?_singleton] at hjob
        split at hjob
        · cases hjob
          rw [heffects]
          exact hrest
        · cases hjob

theorem work [Bus β] [Outlets γ] (h : Records past d) (i : Nat) :
    Records (past ++ (d.work i).1) (d.work i).2 := by
  rcases work_cases d i with hwork | ⟨job, e, task, world, hjob, hstep, hwork⟩
  · rw [hwork, List.append_nil]
    exact h
  rw [hwork]
  obtain ⟨hi, -⟩ := List.getElem?_eq_some_iff.1 hjob
  refine ⟨fun j x hmem => ?_, fun j other hother rest hrest => ?_⟩
  · rw [List.length_set]
    rcases List.mem_append.1 hmem with hmem | hmem
    · exact h.isJob j x hmem
    · cases List.mem_singleton.1 hmem
      exact hi
  · rw [DispatchEvent.effectsOf_append]
    rw [List.getElem?_set] at hother
    split at hother
    · -- the job that acted has one effect more behind it
      next heq =>
      subst heq
      cases hother
      rw [DispatchEvent.effectsOf_worked_self, List.append_assoc]
      exact h.performs i job hjob _ (RequestTask.performs_of_step hstep hrest)
    · next hne =>
      rw [DispatchEvent.effectsOf_worked_of_ne hne, List.append_nil]
      exact h.performs j other hother rest hrest

variable {i : Nat} {job : Job}

/-- A job that has acted before a turn of the loop was there before it. -/
theorem worked_of_poll [Outlets γ] (h : Records past d) {e : Effect}
    (hjob : d.poll.2.jobs[i]? = some job) (hmem : .worked i e ∈ past ++ d.poll.1) :
    d.jobs[i]? = some job ∧ .worked i e ∈ past := by
  rcases poll_takes d with ⟨running, -, hpoll⟩ | ⟨p, queue, fault, started, -, htook, -, -, hjobs⟩
  · rw [hpoll] at hjob hmem
    rw [List.append_nil] at hmem
    exact ⟨hjob, hmem⟩
  · rw [htook] at hmem
    have hpast : .worked i e ∈ past := by simpa using hmem
    rw [hjobs, List.getElem?_append_left (h.isJob i e hpast)] at hjob
    exact ⟨hjob, hpast⟩

/-- What a job has done is all that its request asks for, once it is done. -/
theorem performs_of_done (h : Records past d) (hjob : d.jobs[i]? = some job)
    (hdone : job.task = .done) :
    RequestTask.Performs job.request.task (DispatchEvent.effectsOf past i) := by
  have hperforms := h.performs i job hjob [] (hdone ▸ .done)
  rw [List.append_nil] at hperforms
  exact hperforms

/-- What a job has done is the beginning of something that its request asks for. -/
theorem exists_performs (h : Records past d) (hjob : d.jobs[i]? = some job) :
    ∃ rest, RequestTask.Performs job.request.task (DispatchEvent.effectsOf past i ++ rest) := by
  obtain ⟨rest, hrest⟩ := RequestTask.exists_performs job.task
  exact ⟨rest, h.performs i job hjob rest hrest⟩

/-- What is still to do completes what a job has done to a transcript of its request. -/
theorem exists_transcript (h : Records past d) (hjob : d.jobs[i]? = some job) :
    ∃ answers rest,
      job.request.transcript answers = DispatchEvent.effectsOf past i ++ rest ∧
        (job.task = .done → rest = []) := by
  obtain ⟨rest, hperforms, hrest⟩ :
      ∃ rest, RequestTask.Performs job.request.task (DispatchEvent.effectsOf past i ++ rest) ∧
        (job.task = .done → rest = []) := by
    cases htask : job.task with
    | done =>
      exact ⟨[], (List.append_nil _).symm ▸ h.performs_of_done hjob htask, fun _ => rfl⟩
    | _ =>
      obtain ⟨rest, hperforms⟩ := h.exists_performs hjob
      exact ⟨rest, hperforms, fun h => nomatch h⟩
  obtain ⟨answers, htranscript⟩ := RequestTask.exists_transcript_of_performs hperforms
  exact ⟨answers, rest, htranscript.symm, hrest⟩

end Records

end Dispatcher

/-! ## Moves of a dispatcher that is fed -/

/-- Besides turns of the loop and actions of jobs, no move has an event or acts on the jobs and on
    the world. -/
theorem FedDispatcher.step_aside [Bus β] [Outlets γ] (f : FedDispatcher β γ) (move : DispatchMove) :
    move = .poll ∨ (∃ i, move = .work i) ∨
      ∃ queue stop pending, f.step move = ([], ⟨{ f.dispatcher with queue, stop }, pending⟩) := by
  have hstays : ∃ queue stop pending,
      (([], f) : List DispatchEvent × FedDispatcher β γ) =
        ([], ⟨{ f.dispatcher with queue, stop }, pending⟩) :=
    ⟨f.dispatcher.queue, f.dispatcher.stop, f.pending, rfl⟩
  cases move with
  | poll => exact Or.inl rfl
  | work i => exact Or.inr (Or.inl ⟨i, rfl⟩)
  | publish =>
    refine Or.inr (Or.inr ?_)
    simp only [step]
    split
    · exact hstays
    · split
      · exact hstays
      · exact ⟨_, _, _, rfl⟩
  | hangUp =>
    refine Or.inr (Or.inr ?_)
    simp only [step]
    split
    · exact ⟨_, _, _, rfl⟩
    · exact hstays
  | signal stop =>
    refine Or.inr (Or.inr ?_)
    simp only [step]
    split
    · exact hstays
    · exact ⟨_, _, _, rfl⟩

end KnxGateway
