import KnxGateway.Proofs.Dispatch.Reception
import KnxGateway.Proofs.Gateway.Settling

set_option autoImplicit false

/-! # Requests in one piece

A client may send several request frames without waiting for responses, and its reader may find
any number of them in one piece of the stream. Each piece is one packet, and the dispatcher reads
one request from it: the first frame of the piece is dispatched and answered, exactly once, and
what the piece holds behind that frame is ignored. All frames are answered exactly if each comes in
a piece of its own. -/

namespace KnxGateway

/-! ## Last responses -/

/-- Whether a frame is a response that is marked as the last. -/
def isLastResponse (frame : List UInt8) : Bool :=
  match Reply.ofFrame frame with
  | .ok reply => reply.body.last
  | .error _ => false

theorem isLastResponse_frameOf (action : Action) {r : Response}
    (h : r.payload.length ≤ maxPayloadLength) :
    isLastResponse (frameOf action r.encode) = r.last := by
  rw [isLastResponse, Reply.ofFrame_frameOf action h]

/-- A request has one last response, whatever it is answered. -/
theorem Request.countP_framesFor (request : Request) (answers : TaskAnswers) :
    (request.framesFor answers).countP isLastResponse = 1 := by
  -- counting frames is counting responses, of which only the closing one is the last
  have hlast : ∀ r ∈ request.responses answers.bus answers.value,
      isLastResponse (frameOf request.responseAction r.encode) = r.last :=
    fun r hr => isLastResponse_frameOf _ (length_payload_of_mem_responses hr)
  rw [framesFor, List.countP_map, List.countP_congr (q := Response.last) fun r hr => by
    rw [Function.comp_apply, hlast r hr]]
  rw [responses, closing]
  split <;> simp [Response.ofStatus]

/-! ## What was written to a connection -/

/-- The frame that an effect handed over, if it was written. -/
def Effect.sentFrame? : Effect → Option (List UInt8)
  | handedOver frame .sent => some frame
  | handedOver _ .skipped | handedOver _ .failed => none
  | counted _ | read _ _ | wrote _ _ _ | lookedUp _ _ => none

/-- The frames that were written to a connection, in order. -/
def writtenTo (jobs : List Job) (events : List DispatchEvent) (c : ConnectionId) :
    List (List UInt8) :=
  (DispatchEvent.allWorked events).filterMap fun worked =>
    if (jobs[worked.1]?).any fun job => job.connection = c then worked.2.sentFrame? else none

/-- If every job of a connection wrote one last response, the client got one for each job. -/
theorem countP_writtenTo {jobs : List Job} {events : List DispatchEvent} {c : ConnectionId}
    (hisJob : ∀ i e, .worked i e ∈ events → i < jobs.length)
    (hone : ∀ i job, jobs[i]? = some job → job.connection = c →
      ((DispatchEvent.effectsOf events i).filterMap Effect.sentFrame?).countP isLastResponse = 1) :
    (writtenTo jobs events c).countP isLastResponse =
      (jobs.filter fun job => job.connection = c).length := by
  have hperm := (DispatchEvent.perm_allWorked hisJob).filterMap fun worked =>
    if (jobs[worked.1]?).any fun job => job.connection = c then worked.2.sentFrame? else none
  rw [writtenTo, hperm.countP_eq]
  -- job by job
  have hfirst : ∀ n ≤ jobs.length,
      ((((List.range n).map fun i =>
          (DispatchEvent.effectsOf events i).map fun e => (i, e)).flatten.filterMap fun worked =>
        if (jobs[worked.1]?).any fun job => job.connection = c then worked.2.sentFrame?
        else none).countP isLastResponse) =
      ((jobs.take n).filter fun job => job.connection = c).length := by
    intro n hn
    induction n with
    | zero => rfl
    | succ n ih =>
      have hjob := List.getElem?_eq_getElem hn
      rw [List.range_succ, List.map_append, List.flatten_append, List.filterMap_append,
        List.countP_append, ih (Nat.le_of_succ_le hn), List.take_add_one, hjob, List.filter_append,
        List.length_append]
      congr 1
      simp only [List.map_cons, List.map_nil, List.flatten_cons, List.flatten_nil,
        List.append_nil, List.filterMap_map, Function.comp_def, hjob, Option.any_some,
        Option.toList_some]
      by_cases heq : jobs[n].connection = c
      · simpa [heq] using hone n _ hjob heq
      · simp [heq]
  have hall := hfirst _ (Nat.le_refl _)
  rw [List.take_length] at hall
  exact hall

/-! ## Pieces of several frames -/

namespace Gateway

variable {β : Type} {g : Gateway β} {registry : Registry} {c : ConnectionId}
  {past : List GatewayEvent} {groups : List (List (List UInt8))}

/-- The requests of a connection that were dispatched, in order. -/
def requestsOf (g : Gateway β) (c : ConnectionId) : List Request :=
  (g.dispatcher.jobs.filter fun job => job.connection = c).map Job.request

/-- The last responses that were written to a connection, in order. -/
def lastResponses (g : Gateway β) (past : List GatewayEvent) (c : ConnectionId) :
    List (List UInt8) :=
  (writtenTo g.dispatcher.jobs (GatewayEvent.dispatches past) c).filter isLastResponse

/-- What becomes of the frames that a client sent, given in the groups in which they were read:
    the first frame of each group is dispatched once, and answered with one last response. -/
structure Answers (g : Gateway β) (registry : Registry) (c : ConnectionId)
    (groups : List (List (List UInt8))) (past : List GatewayEvent) : Prop where
  dispatched : List.Forall₂
    (fun group request => ∃ first rest, group = first :: rest ∧
      receive registry true first = .ok (.accepted request)) groups (g.requestsOf c)
  answered : (g.lastResponses past c).length = groups.length
  complete : (g.lastResponses past c).length = groups.flatten.length ↔
    ∀ group ∈ groups, group.length = 1

theorem length_le_length_flatten {α : Type} {lists : List (List α)} (h : ∀ l ∈ lists, l ≠ []) :
    lists.length ≤ lists.flatten.length := by
  induction lists with
  | nil => exact Nat.le_refl _
  | cons l lists ih =>
    have hl := List.length_pos_iff.2 (h l List.mem_cons_self)
    have hrest := ih fun l hmem => h l (List.mem_cons_of_mem _ hmem)
    rw [List.length_cons, List.flatten_cons, List.length_append]
    omega

/-- Nonempty lists have as many elements as there are lists only if each has one. -/
theorem length_eq_length_flatten_iff {α : Type} {lists : List (List α)}
    (h : ∀ l ∈ lists, l ≠ []) :
    lists.length = lists.flatten.length ↔ ∀ l ∈ lists, l.length = 1 := by
  induction lists with
  | nil => simp
  | cons l lists ih =>
    have hlists : ∀ l ∈ lists, l ≠ [] := fun l hmem => h l (List.mem_cons_of_mem _ hmem)
    have hl := List.length_pos_iff.2 (h l List.mem_cons_self)
    have hrest := length_le_length_flatten hlists
    have hiff := ih hlists
    rw [List.forall_mem_cons, List.length_cons, List.flatten_cons, List.length_append]
    constructor
    · intro heq
      exact ⟨by omega, hiff.1 (by omega)⟩
    · rintro ⟨hone, hall⟩
      have := hiff.2 hall
      omega

/-- At rest, all that was read from a connection has been taken. -/
theorem Serves.taken (h : Serves registry c past g) (hrest : g.IsAtRest c) :
    packetsFrom (DispatchEvent.taken (GatewayEvent.dispatches past)) c =
      (GatewayEvent.receivedFrom past c).map (Packet.mk c) := by
  obtain ⟨link, hlink, -, hreading⟩ := hrest.reading
  have hconserved := h.conserved link hlink (by rw [hreading]; rfl)
  rw [hrest.queue, hreading] at hconserved
  simpa [ReaderPhase.pending] using! hconserved.symm

/-- At rest, the first frame of each group has been dispatched. -/
theorem Serves.dispatched (h : Serves registry c past g) (hrest : g.IsAtRest c)
    (hgroups : ∀ group ∈ groups, group ≠ [] ∧ ∀ frame ∈ group, IsRequestFrame frame)
    (hreceived : GatewayEvent.receivedFrom past c = groups.map List.flatten) :
    List.Forall₂ (fun group request => ∃ first rest, group = first :: rest ∧
      receive registry true first = .ok (.accepted request)) groups (g.requestsOf c) := by
  have htaken := h.taken hrest
  rw [hreceived, List.map_map] at htaken
  -- the first frame of a group alone decides what the group asks for
  have hfirst : ∀ group ∈ groups, ∃ first rest request, group = first :: rest ∧
      receive registry true first = .ok (.accepted request) ∧
      receive registry true group.flatten = .ok (.accepted request) := by
    intro group hgroup
    obtain ⟨hne, hframes⟩ := hgroups group hgroup
    obtain ⟨first, rest, rfl⟩ := List.exists_cons_of_ne_nil hne
    obtain ⟨request, hreceive⟩ := exists_receive_append registry (hframes first List.mem_cons_self)
    have halone := hreceive []
    rw [List.append_nil] at halone
    exact ⟨first, rest, request, rfl, halone, hreceive rest.flatten⟩
  have hstays : ¬g.MayLeaveOut c c := by
    intro hclosed
    obtain ⟨link, hlink, hopen, -⟩ := hrest.reading
    obtain ⟨other, hother, hfalse⟩ := hclosed rfl
    rw [hlink] at hother
    cases hother
    rw [hopen] at hfalse
    cases hfalse
  have hadmitted := h.admits.forall₂_of_requests hstays (by
    rw [htaken]
    intro p hp
    obtain ⟨group, hgroup, rfl⟩ := List.mem_map.1 hp
    obtain ⟨-, -, request, -, -, hreceive⟩ := hfirst group hgroup
    exact ⟨request, hreceive⟩)
  have horigins : (g.dispatcher.jobs.map Job.origin).filter (fun origin => origin.1 = c) =
      (g.dispatcher.jobs.filter fun job => job.connection = c).map Job.origin :=
    List.filter_map
  rw [htaken, horigins, List.forall₂_map_left_iff, List.forall₂_map_right_iff] at hadmitted
  rw [requestsOf, List.forall₂_map_right_iff]
  refine ((List.forall₂_and_left _ _).2 ⟨hfirst, hadmitted⟩).imp ?_
  rintro group job ⟨⟨first, rest, request, hgroup, hreceive, hflatten⟩, hjob⟩
  refine ⟨first, rest, hgroup, ?_⟩
  rw [hreceive, ← hflatten]
  exact hjob

/-- At rest, a connection has been sent one last response for each of its requests. -/
theorem Serves.length_lastResponses (h : Serves registry c past g) (hrest : g.IsAtRest c) :
    (g.lastResponses past c).length = (g.requestsOf c).length := by
  obtain ⟨link, hlink, hopen, -⟩ := hrest.reading
  rw [lastResponses, ← List.countP_eq_length_filter, requestsOf, List.length_map]
  refine countP_writtenTo h.records.isJob fun i job hjob heq => ?_
  -- a job that is done has written all its frames
  have hsent : ∀ e ∈ DispatchEvent.effectsOf (GatewayEvent.dispatches past) i,
      e.sentFrame? = e.frame? := by
    intro e he
    cases e with
    | handedOver frame outcome =>
      rw [h.sent link hlink hopen i job frame outcome hjob heq
        (DispatchEvent.mem_effectsOf_iff.1 he)]
      rfl
    | _ => rfl
  have hdone := hrest.jobs job (List.mem_of_getElem? hjob) heq
  obtain ⟨answers, htranscript⟩ := RequestTask.exists_transcript_of_performs
    (h.records.performs_of_done hjob hdone)
  have hframes : Effect.frames (job.request.transcript answers) =
      job.request.framesFor answers := Request.frames_transcript
  rw [Effect.frames] at hframes
  rw [List.filterMap_congr hsent, htranscript, hframes, Request.countP_framesFor]

/-- At rest, all groups of a connection have been dealt with. -/
theorem Serves.answers (h : Serves registry c past g) (hrest : g.IsAtRest c)
    (hgroups : ∀ group ∈ groups, group ≠ [] ∧ ∀ frame ∈ group, IsRequestFrame frame)
    (hreceived : GatewayEvent.receivedFrom past c = groups.map List.flatten) :
    g.Answers registry c groups past := by
  have hdispatched := h.dispatched hrest hgroups hreceived
  have hanswered : (g.lastResponses past c).length = groups.length :=
    (h.length_lastResponses hrest).trans hdispatched.length_eq.symm
  refine ⟨hdispatched, hanswered, ?_⟩
  rw [hanswered]
  exact length_eq_length_flatten_iff fun group hgroup => (hgroups group hgroup).1

/-- The moves by which a connection is brought to rest read nothing. -/
theorem receivedFrom_run [Bus β] {schedule : List GatewayMove}
    (h : ∀ move ∈ schedule, move = .publish c ∨ move.isDispatch = true) :
    GatewayEvent.receivedFrom (g.run schedule).1 c = [] := by
  induction schedule generalizing g with
  | nil => rfl
  | cons move schedule ih =>
    have hlater := ih (g := (g.step move).2) fun later hmem => h later (List.mem_cons_of_mem _ hmem)
    have hnow : GatewayEvent.receivedFrom (g.step move).1 c = [] := by
      rcases h move List.mem_cons_self with rfl | hdispatch
      · simp only [step, publish]
        split
        · split
          · split <;> rfl
          · rfl
        · rfl
      · cases move with
        | poll | work i => exact GatewayEvent.receivedFrom_map _
        | _ => cases hdispatch
    simp only [run]
    rw [GatewayEvent.receivedFrom_append, hnow]
    exact hlater

/-- Whatever a gateway does and whatever is asked of it, the first frame of each piece that it
    reads from a connection is dispatched once and answered with one last response, as soon as the
    connection is at rest; and the gateway can bring the connection to rest unless it is told to
    stop. So all frames are answered exactly if each piece is a single frame. -/
theorem answers_run [Bus β] {host : Host} {config : GatewayConfig} {bus : β} {metrics : Metrics}
    {started events : List GatewayEvent} {g₀ g : Gateway β} {schedule : List GatewayMove}
    {link : Link} (hstart : start host config registry bus metrics = .ok (started, g₀))
    (hrun : g₀.run schedule = (events, g)) (hlink : g.links.get? c = some link)
    (hopen : link.isOpen = true) (hlooping : link.reader.isLooping = true)
    (hwritable : ∀ move ∈ schedule, move ≠ .setWritable c false)
    (hgroups : ∀ group ∈ groups, group ≠ [] ∧ ∀ frame ∈ group, IsRequestFrame frame)
    (hreceived : GatewayEvent.receivedFrom events c = groups.map List.flatten) :
    (g.IsAtRest c → g.Answers registry c groups events) ∧
      (g.isStopping = false → ∃ later,
        (∀ move ∈ later, move = .publish c ∨ move.isDispatch = true) ∧
        (g.run later).2.IsAtRest c ∧
        (g.run later).2.Answers registry c groups (events ++ (g.run later).1)) := by
  obtain ⟨horderly, hserves⟩ := serves_start hstart c
  have hserves' := hserves.run hwritable
  have horderly' := horderly.run schedule
  rw [hrun] at hserves' horderly'
  refine ⟨fun hrest => hserves'.answers hrest hgroups hreceived, fun hgoing => ?_⟩
  obtain ⟨_, ⟨later, hmoves, rfl⟩, hrest⟩ := exists_isAtRest horderly' hgoing hlink hopen hlooping
  refine ⟨later, hmoves, hrest, ?_⟩
  have hlater := hserves'.run fun move hmove => by
    rintro rfl
    rcases hmoves _ hmove with hpublish | hdispatch
    · cases hpublish
    · cases hdispatch
  refine hlater.answers hrest hgroups ?_
  rw [List.nil_append, GatewayEvent.receivedFrom_append, receivedFrom_run hmoves, List.append_nil]
  exact hreceived

/-- Three frames that are read in two pieces: two of them are answered. -/
theorem answers_run_three_frames :
    ∃ (events : List GatewayEvent) (g : Gateway MemoryBus)
      (groups : List (List (List UInt8))),
      groups.map List.length = [1, 2] ∧
        GatewayEvent.receivedFrom events 0 = groups.map List.flatten ∧
        g.Answers .reference 0 groups events ∧ (g.lastResponses events 0).length = 2 ∧
        ∃ later, (g.run later).2.IsAtRest 0 := by
  let g₀ : Gateway MemoryBus := fresh .default .reference ⟨1024, [], false⟩ .initial .zero
  let frame := encodeRead ⟨2563⟩ ⟨7, 600⟩
  let groups := [[frame], [frame, frame]]
  let schedule : List GatewayMove :=
    [.connect (some ⟨.v4 ⟨127, 0, 0, 1⟩, 40000⟩), .read 0 frame, .publish 0,
      .read 0 (frame ++ frame), .publish 0, .poll, .work 0, .work 0, .poll, .work 1, .work 0,
      .work 0, .work 1, .work 0, .work 1, .work 1, .work 1]
  have hgroups : ∀ group ∈ groups, group ≠ [] ∧ ∀ frame ∈ group, IsRequestFrame frame := by
    intro group hgroup
    simp only [groups, List.mem_cons, List.not_mem_nil, or_false] at hgroup
    rcases hgroup with rfl | rfl <;> refine ⟨by simp, fun x hx => ?_⟩ <;>
      simp only [List.mem_cons, List.not_mem_nil, or_false, or_self] at hx <;> rw [hx] <;>
      exact isRequestFrame_encodeRead _ _
  have hwritable : ∀ move ∈ schedule, move ≠ .setWritable 0 false := by
    simp [schedule]
  obtain ⟨hreceived, hlink, hidle, hqueue, hgoing⟩ :
      GatewayEvent.receivedFrom (g₀.run schedule).1 0 = groups.map List.flatten ∧
        (g₀.run schedule).2.links.get? 0 =
          some ⟨0, ⟨.v4 ⟨127, 0, 0, 1⟩, 40000⟩, true, true, .reading⟩ ∧
        (g₀.run schedule).2.dispatcher.isIdle = true ∧
        packetsFrom (g₀.run schedule).2.dispatcher.queue.waiting 0 = [] ∧
        (g₀.run schedule).2.isStopping = false := by
    decide +kernel
  have hrest : (g₀.run schedule).2.IsAtRest 0 :=
    ⟨⟨_, hlink, rfl, rfl⟩, hqueue, fun job hjob _ => Dispatcher.isIdle_iff.1 hidle job hjob⟩
  obtain ⟨hanswers, hlater⟩ :=
    answers_run start_default rfl hlink rfl rfl hwritable hgroups hreceived
  obtain ⟨later, -, hrest', -⟩ := hlater hgoing
  exact ⟨_, _, groups, rfl, hreceived, hanswers hrest, (hanswers hrest).answered, later, hrest'⟩

/-- Two frames that a client sends at once and that are read in one piece: the second is neither
    dispatched nor answered. -/
theorem second_frame_ignored :
    ∃ (started events : List GatewayEvent) (g₀ g : Gateway MemoryBus)
      (schedule : List GatewayMove) (frames : List (List UInt8)),
      start .standalone .default .reference .initial .zero = .ok (started, g₀) ∧
        g₀.run schedule = (events, g) ∧ frames.length = 2 ∧
        (∀ frame ∈ frames, IsRequestFrame frame) ∧
        GatewayEvent.receivedFrom events 0 = [frames.flatten] ∧
        frames.flatten.length ≤ g.config.readBufferSize ∧ g.isStopping = false ∧ g.IsAtRest 0 ∧
        (g.requestsOf 0).length = 1 ∧ (g.lastResponses events 0).length = 1 := by
  let g₀ : Gateway MemoryBus := fresh .default .reference ⟨1024, [], false⟩ .initial .zero
  let frames := [encodeRead ⟨2563⟩ ⟨7, 600⟩, encodeRead ⟨2564⟩ ⟨7, 600⟩]
  let schedule : List GatewayMove :=
    [.connect (some ⟨.v4 ⟨127, 0, 0, 1⟩, 40000⟩), .read 0 frames.flatten, .publish 0, .poll,
      .work 0, .work 0, .work 0, .work 0, .work 0]
  have hframes : ∀ frame ∈ frames, IsRequestFrame frame := by
    intro frame hframe
    simp only [frames, List.mem_cons, List.not_mem_nil, or_false] at hframe
    rcases hframe with rfl | rfl <;> exact isRequestFrame_encodeRead _ _
  obtain ⟨hreceived, hfits, hgoing, hlink, hidle, hqueue, hrequests, hresponses⟩ :
      GatewayEvent.receivedFrom (g₀.run schedule).1 0 = [frames.flatten] ∧
        frames.flatten.length ≤ (g₀.run schedule).2.config.readBufferSize ∧
        (g₀.run schedule).2.isStopping = false ∧
        (g₀.run schedule).2.links.get? 0 =
          some ⟨0, ⟨.v4 ⟨127, 0, 0, 1⟩, 40000⟩, true, true, .reading⟩ ∧
        (g₀.run schedule).2.dispatcher.isIdle = true ∧
        packetsFrom (g₀.run schedule).2.dispatcher.queue.waiting 0 = [] ∧
        ((g₀.run schedule).2.requestsOf 0).length = 1 ∧
        ((g₀.run schedule).2.lastResponses (g₀.run schedule).1 0).length = 1 := by
    decide +kernel
  have hrest : (g₀.run schedule).2.IsAtRest 0 :=
    ⟨⟨_, hlink, rfl, rfl⟩, hqueue, fun job hjob _ => Dispatcher.isIdle_iff.1 hidle job hjob⟩
  exact ⟨_, (g₀.run schedule).1, g₀, (g₀.run schedule).2, schedule, frames, start_default, rfl,
    rfl, hframes, hreceived, hfits, hgoing, hrest, hrequests, hresponses⟩

end Gateway

end KnxGateway
