import KnxGateway.Proofs.Gateway.Service

set_option autoImplicit false

/-! # A gateway comes to rest

A connection is at rest when everything that was read from it has been dealt with: its reader waits
for more bytes, none of its packets is in the queue, and all its jobs are done. As long as the
gateway is not told to stop, it can always bring a connection to rest by itself. The queue is
emptied turn by turn, the reader hands on what it still holds, and the jobs act until they are
done. -/

namespace KnxGateway

/-- A dispatcher that goes on takes the packet that waits first. -/
theorem Dispatcher.waiting_poll {β γ : Type} [Outlets γ] {d : Dispatcher β γ}
    (hrunning : d.running = true) (hstop : d.stop.stops = false) {p : Packet} {rest : List Packet}
    (hwaiting : d.queue.waiting = p :: rest) : d.poll.2.queue.waiting = rest := by
  rw [poll_of_cons hrunning hstop hwaiting]

namespace Gateway

variable {β : Type} [Bus β] {g g' : Gateway β} {c : ConnectionId}

/-! ## Moves of the gateway itself -/

/-- By publishing for a connection, by turns of the loop and by actions of jobs, the gateway gets
    from one state to another. -/
def CanReach (g : Gateway β) (c : ConnectionId) (g' : Gateway β) : Prop :=
  ∃ schedule, (∀ move ∈ schedule, move = .publish c ∨ move.isDispatch = true) ∧
    (g.run schedule).2 = g'

namespace CanReach

theorem refl (g : Gateway β) (c : ConnectionId) : g.CanReach c g :=
  ⟨[], fun _ hmove => absurd hmove List.not_mem_nil, rfl⟩

theorem trans {g'' : Gateway β} (h : g.CanReach c g') (h' : g'.CanReach c g'') :
    g.CanReach c g'' := by
  obtain ⟨schedule, hmoves, rfl⟩ := h
  obtain ⟨later, hlater, rfl⟩ := h'
  refine ⟨schedule ++ later, fun move hmove => ?_, by rw [run_append]⟩
  rcases List.mem_append.1 hmove with hmove | hmove
  · exact hmoves move hmove
  · exact hlater move hmove

theorem step {move : GatewayMove} (h : move = .publish c ∨ move.isDispatch = true) :
    g.CanReach c (g.step move).2 :=
  ⟨[move], fun _ hmove => List.mem_singleton.1 hmove ▸ h, rfl⟩

theorem isOrderly (h : g.CanReach c g') (horderly : g.IsOrderly) : g'.IsOrderly := by
  obtain ⟨schedule, -, rfl⟩ := h
  exact horderly.run schedule

end CanReach

/-! ## The queue -/

/-- The queue can be emptied. -/
theorem exists_emptied (horderly : g.IsOrderly) (hgoing : g.isStopping = false) :
    ∃ g', g.CanReach c g' ∧ g'.dispatcher.queue.waiting = [] ∧ g'.links = g.links ∧
      g'.isStopping = false := by
  induction hwaiting : g.dispatcher.queue.waiting generalizing g with
  | nil => exact ⟨g, .refl g c, hwaiting, rfl, hgoing⟩
  | cons p rest ih =>
    obtain ⟨-, hstop, -, houtlets⟩ := Dispatcher.poll_frame g.dispatcher
    have hrunning : g.dispatcher.running = true :=
      horderly.running.resolve_right (by simp [hgoing])
    have hrest : (g.step .poll).2.dispatcher.queue.waiting = rest :=
      Dispatcher.waiting_poll hrunning hgoing hwaiting
    have hgoing' : (g.step .poll).2.isStopping = false := by
      rw [isStopping] at hgoing ⊢
      exact (congrArg StopSignal.stops hstop).trans hgoing
    obtain ⟨g', hreach, hempty, hlinks, hgoing''⟩ := ih (horderly.step .poll) hgoing' hrest
    exact ⟨g', (CanReach.step (Or.inr rfl)).trans hreach, hempty, hlinks.trans houtlets, hgoing''⟩

/-- A reader whose loop goes on can get rid of what it holds, once the queue is empty. -/
theorem exists_published (horderly : g.IsOrderly) (hgoing : g.isStopping = false)
    (hempty : g.dispatcher.queue.waiting = []) {link : Link} (hlink : g.links.get? c = some link)
    (hlooping : link.reader.isLooping = true) :
    ∃ g', g.CanReach c g' ∧ g'.links.get? c = some { link with reader := .reading } ∧
      g'.isStopping = false := by
  obtain ⟨id, peer, isOpen, isWritable, reader⟩ := link
  cases reader with
  | reading => exact ⟨g, .refl g c, hlink, hgoing⟩
  | publishing bytes =>
    have hrunning : g.dispatcher.running = true :=
      horderly.running.resolve_right (by simp [hgoing])
    have hroom : g.dispatcher.queue.hasRoom = true := by
      simpa [PacketQueue.hasRoom, hempty] using horderly.hasRoom
    refine ⟨(g.step (.publish c)).2, .step (Or.inl rfl), ?_, ?_⟩ <;>
      simp only [step, publish, hlink, hrunning, PacketQueue.publish?, hroom, if_true]
    · change ((g.links.modify c _).get? c) = _
      rw [Links.get?_modify, if_pos rfl, hlink]
      rfl
    · exact hgoing
  | leaving | closing | finished | crashed => cases hlooping

/-! ## The jobs -/

/-- One action of a job that is not done. -/
theorem step_work {i : Nat} {job : Job} (hjob : g.dispatcher.jobs[i]? = some job) {e : Effect}
    {next : RequestTask} {world : World β Links}
    (hstep : job.task.step job.connection g.dispatcher.world = some (e, next, world)) :
    (g.step (.work i)).2 = { g with dispatcher := { g.dispatcher with
      world, jobs := g.dispatcher.jobs.set i { job with task := next } } } := by
  simp only [step, Dispatcher.work, hjob, hstep]

/-- Whether a job can be carried out to its end while nothing else changes. -/
def CanFinish (g : Gateway β) (c : ConnectionId) (i : Nat) (job : Job) : Prop :=
  ∃ g', g.CanReach c g' ∧ g'.dispatcher.jobs = g.dispatcher.jobs.set i { job with task := .done } ∧
    g'.links = g.links ∧ g'.dispatcher.queue = g.dispatcher.queue

theorem canFinish_of_step {i : Nat} {job : Job} (hjob : g.dispatcher.jobs[i]? = some job)
    {e : Effect} {next : RequestTask} {world : World β Links}
    (hstep : job.task.step job.connection g.dispatcher.world = some (e, next, world))
    (hlater : ∀ {g' : Gateway β} {job' : Job}, g'.dispatcher.jobs[i]? = some job' →
      job'.task = next → g'.CanFinish c i job') : g.CanFinish c i job := by
  have hwork := step_work hjob hstep
  obtain ⟨hi, -⟩ := List.getElem?_eq_some_iff.1 hjob
  have hnext : (g.step (.work i)).2.dispatcher.jobs[i]? = some { job with task := next } := by
    rw [hwork]
    exact List.getElem?_set_self hi
  obtain ⟨g', hreach, hjobs, hlinks, hqueue⟩ := hlater hnext rfl
  rw [hwork] at hjobs hlinks hqueue
  refine ⟨g', (CanReach.step (Or.inr rfl)).trans hreach, ?_, ?_, hqueue⟩
  · rw [hjobs]
    exact List.set_set _
  · exact hlinks.trans (Links.outlets_of_step hstep)

theorem canFinish {i : Nat} {job : Job} (hjob : g.dispatcher.jobs[i]? = some job) :
    g.CanFinish c i job := by
  -- on the tree of what is left to do: each action leaves one of its branches
  induction htask : job.task generalizing g job with
  | done =>
    refine ⟨g, .refl g c, ?_, rfl, rfl⟩
    obtain ⟨hi, rfl⟩ := List.getElem?_eq_some_iff.1 hjob
    rw [← htask]
    exact (List.set_getElem_self hi).symm
  | count counter next ih =>
    exact canFinish_of_step hjob (by rw [htask]; rfl) fun hjob' htask' => ih hjob' htask'
  | readBus a next ih =>
    exact canFinish_of_step hjob (by rw [htask]; rfl) fun hjob' htask' => ih _ hjob' htask'
  | writeBus a v next ih =>
    exact canFinish_of_step hjob (by rw [htask]; rfl) fun hjob' htask' => ih _ hjob' htask'
  | lookUp a next ih =>
    exact canFinish_of_step hjob (by rw [htask]; rfl) fun hjob' htask' => ih _ hjob' htask'
  | send frame next ih =>
    exact canFinish_of_step hjob (by rw [htask]; rfl) fun hjob' htask' => ih _ hjob' htask'

/-- One job after the other can be carried out to its end; those that are done stay done. -/
theorem exists_done_below {n : Nat} (hn : n ≤ g.dispatcher.jobs.length) :
    ∃ g', g.CanReach c g' ∧ g'.dispatcher.jobs.length = g.dispatcher.jobs.length ∧
      (∀ i < n, ∀ job, g'.dispatcher.jobs[i]? = some job → job.task = .done) ∧
      g'.links = g.links ∧ g'.dispatcher.queue = g.dispatcher.queue := by
  induction n with
  | zero => exact ⟨g, .refl g c, rfl, fun i hi => absurd hi (Nat.not_lt_zero i), rfl, rfl⟩
  | succ n ih =>
    obtain ⟨g', hreach, hlength, hdone, hlinks, hqueue⟩ := ih (Nat.le_of_succ_le hn)
    have hlt : n < g'.dispatcher.jobs.length := by omega
    obtain ⟨g'', hreach', hjobs, hlinks', hqueue'⟩ :=
      canFinish (c := c) (List.getElem?_eq_getElem hlt)
    refine ⟨g'', hreach.trans hreach', ?_, fun i hi job hjob => ?_, hlinks'.trans hlinks,
      hqueue'.trans hqueue⟩
    · rw [hjobs, List.length_set, hlength]
    · rw [hjobs, List.getElem?_set] at hjob
      split at hjob
      · cases hjob
        rfl
      · next hne => exact hdone i (by omega) job hjob

theorem exists_done (g : Gateway β) (c : ConnectionId) :
    ∃ g', g.CanReach c g' ∧ (∀ job ∈ g'.dispatcher.jobs, job.task = .done) ∧
      g'.links = g.links ∧ g'.dispatcher.queue = g.dispatcher.queue := by
  obtain ⟨g', hreach, hlength, hdone, hlinks, hqueue⟩ :=
    exists_done_below (g := g) (c := c) (Nat.le_refl _)
  refine ⟨g', hreach, fun job hjob => ?_, hlinks, hqueue⟩
  obtain ⟨i, hi⟩ := List.mem_iff_getElem?.1 hjob
  obtain ⟨hlt, -⟩ := List.getElem?_eq_some_iff.1 hi
  exact hdone i (hlength ▸ hlt) job hi

/-! ## Rest -/

/-- Everything that was read from an open connection has been dealt with. -/
structure IsAtRest (g : Gateway β) (c : ConnectionId) : Prop where
  reading : ∃ link, g.links.get? c = some link ∧ link.isOpen = true ∧ link.reader = .reading
  queue : packetsFrom g.dispatcher.queue.waiting c = []
  jobs : ∀ job ∈ g.dispatcher.jobs, job.connection = c → job.task = .done

/-- As long as it is not told to stop, a gateway can bring each connection to rest whose reader
    goes on. -/
theorem exists_isAtRest (horderly : g.IsOrderly) (hgoing : g.isStopping = false) {link : Link}
    (hlink : g.links.get? c = some link) (hopen : link.isOpen = true)
    (hlooping : link.reader.isLooping = true) : ∃ g', g.CanReach c g' ∧ g'.IsAtRest c := by
  -- the queue is emptied to make room for what the reader holds, and then once more
  obtain ⟨g₁, hreach₁, hempty₁, hlinks₁, hgoing₁⟩ := exists_emptied (c := c) horderly hgoing
  obtain ⟨g₂, hreach₂, hlink₂, hgoing₂⟩ :=
    exists_published (hreach₁.isOrderly horderly) hgoing₁ hempty₁ (hlinks₁ ▸ hlink) hlooping
  have hreach := hreach₁.trans hreach₂
  obtain ⟨g₃, hreach₃, hempty₃, hlinks₃, -⟩ :=
    exists_emptied (c := c) (hreach.isOrderly horderly) hgoing₂
  obtain ⟨g₄, hreach₄, hdone, hlinks₄, hqueue₄⟩ := exists_done g₃ c
  refine ⟨g₄, (hreach.trans hreach₃).trans hreach₄, ?_, ?_, fun job hjob _ => hdone job hjob⟩
  · exact ⟨{ link with reader := .reading }, by rw [hlinks₄, hlinks₃, hlink₂], hopen, rfl⟩
  · rw [hqueue₄, hempty₃]
    rfl

end Gateway

end KnxGateway
