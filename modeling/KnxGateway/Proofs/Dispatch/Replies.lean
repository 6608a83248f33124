import KnxGateway.Bus.Memory
import KnxGateway.Proofs.Dispatch.Reception
import KnxGateway.Proofs.Dispatch.Transcript

set_option autoImplicit false

/-! # What a client hears of a request

A client waits for the response that is marked as the last. Every accepted request is answered by
exactly one such response, which comes at the end; a read that the bus acknowledges is announced
by one response in front of it. All responses have frames, however long the texts in their
messages are, and the status of the last one follows from what the bus said and from the last
value. -/

namespace KnxGateway

/-! ## Accepted packets -/

namespace World

variable {β γ : Type} [Outlets γ] {w w' : World β γ} {registry : Registry} {p : Packet}
  {job : Job}

/-- A packet starts a job exactly when its connection is open and it is read as a request. -/
theorem accept_eq_some_iff :
    w.accept registry p = .ok (some job, w') ↔
      w' = w ∧ Outlets.isOpen w.outlets p.connection = true ∧
        ∃ request, receive registry true p.bytes = .ok (.accepted request) ∧
          job = .start p.connection request := by
  unfold accept
  cases hopen : Outlets.isOpen w.outlets p.connection with
  | false =>
    cases hempty : p.bytes.isEmpty <;> simp [receive, hempty]
  | true =>
    cases hreceive : receive registry true p.bytes with
    | error e => simp
    | ok reception =>
      cases reception with
      | skipped => simp
      | accepted request =>
        simp only [Except.ok.injEq, Prod.mk.injEq, Option.some.injEq, Reception.accepted.injEq,
          exists_eq_left', true_and]
        constructor
        · rintro ⟨rfl, rfl⟩
          exact ⟨rfl, rfl⟩
        · rintro ⟨rfl, rfl⟩
          exact ⟨rfl, rfl⟩

/-- A packet that is accepted is handled by carrying its request out to its end. -/
theorem handle_of_receive [Bus β] {c : ConnectionId} {bytes : List UInt8} {request : Request}
    (hopen : Outlets.isOpen w.outlets c = true)
    (hreceive : receive registry true bytes = .ok (.accepted request)) :
    w.handle registry ⟨c, bytes⟩ = .ok (request.task.run c w) := by
  have haccept : w.accept registry ⟨c, bytes⟩ = .ok (some (.start c request), w) :=
    accept_eq_some_iff.2 ⟨rfl, hopen, request, hreceive, rfl⟩
  rw [handle, haccept]
  rfl

end World

/-! ## Effects of a transcript -/

namespace Effect

/-- The counter of an effect, if the effect is that an event was counted. -/
def counter? : Effect → Option Counter
  | counted counter => some counter
  | read _ _ | wrote _ _ _ | lookedUp _ _ | handedOver _ _ => none

/-- What became of a frame, if the effect is that a frame was handed over. -/
def outcome? : Effect → Option SendOutcome
  | handedOver _ outcome => some outcome
  | counted _ | read _ _ | wrote _ _ _ | lookedUp _ _ => none

/-- A request of the bus is nothing else besides. -/
theorem eq_none_of_isBusRequest {e : Effect} (h : e.isBusRequest = true) :
    e.frame? = none ∧ e.counter? = none ∧ e.outcome? = none := by
  cases e with
  | read a answer | wrote a v answer => exact ⟨rfl, rfl, rfl⟩
  | counted _ | lookedUp _ _ | handedOver _ _ => cases h

/-- Whether an effect is one of those that a counter counts. -/
def isCountedBy (c : Counter) : Effect → Bool
  | read _ answer | wrote _ _ answer =>
    c = .busRequests || (c = .busFailures && !answer.isAcknowledged)
  | handedOver _ outcome => c = outcome.counter
  | counted _ | lookedUp _ _ => false

/-- Among the effects, each counter was bumped as often as there was something for it to count. -/
def Balanced (effects : List Effect) : Prop :=
  ∀ c, (effects.filterMap counter?).count c = effects.countP (isCountedBy c)

theorem Balanced.append {effects later : List Effect} (h : Balanced effects)
    (hlater : Balanced later) : Balanced (effects ++ later) := by
  intro c
  rw [List.filterMap_append, List.count_append, List.countP_append, h c, hlater c]

/-- A frame is counted by the counter of its outcome. -/
theorem countP_isCountedBy_counter (effects : List Effect) (outcome : SendOutcome) :
    effects.countP (isCountedBy outcome.counter) =
      (effects.filterMap outcome?).count outcome := by
  induction effects with
  | nil => rfl
  | cons e effects ih =>
    rw [List.countP_cons, ih]
    cases e with
    | handedOver frame result =>
      rw [List.filterMap_cons_some (show (handedOver frame result).outcome? = some result from rfl),
        List.count_cons]
      cases outcome <;> cases result <;> rfl
    | _ => cases outcome <;> rfl

end Effect

namespace Request

variable {request : Request} {answers : TaskAnswers}

/-- Asking the bus hands no frame over. -/
theorem frames_opening (answer : BusAnswer) : Effect.frames (request.opening answer) = [] := by
  unfold opening
  split
  · rfl
  · next call hcall =>
    obtain ⟨hframe, -, -⟩ := Effect.eq_none_of_isBusRequest (isBusRequest_of_busCall? hcall)
    rw [Effect.frames, List.filterMap_cons_none rfl, List.filterMap_cons_none hframe]
    cases answer.isAcknowledged <;> rfl

/-- The frames of a request that got the given answers. -/
def framesFor (request : Request) (answers : TaskAnswers) : List (List UInt8) :=
  (request.responses answers.bus answers.value).map fun r =>
    frameOf request.responseAction r.encode

theorem frames_transcript :
    Effect.frames (request.transcript answers) = request.framesFor answers := by
  have hopening : Effect.frames (request.opening answers.bus) = [] := frames_opening answers.bus
  simp only [Effect.frames] at hopening
  simp only [transcript, framesFor, responses, Effect.frames, List.filterMap_append,
    List.map_append, hopening, List.nil_append]
  congr 1
  unfold announcement
  split <;> rfl

theorem eq_of_mem_responses {answer : BusAnswer} {value : Option (List UInt8)} {r : Response}
    (h : r ∈ request.responses answer value) :
    r = .ofStatus false .success ∨ r = request.closing answer value := by
  rcases List.mem_append.1 h with hfront | hlast
  · split at hfront
    · exact Or.inl (List.mem_singleton.1 hfront)
    · cases hfront
  · exact Or.inr (List.mem_singleton.1 hlast)

/-- All responses to a request have payloads that are not too long. -/
theorem length_payload_of_mem_responses {answer : BusAnswer} {value : Option (List UInt8)}
    {r : Response} (h : r ∈ request.responses answer value) :
    r.payload.length ≤ maxPayloadLength := by
  rcases eq_of_mem_responses h with rfl | rfl
  · exact Response.length_payload_ofStatus _ _
  · exact Response.length_payload_closing _ _

/-- The frame of each response to a request stands for that response. -/
theorem map_ofFrame_responses (request : Request) (answer : BusAnswer)
    (value : Option (List UInt8)) :
    ((request.responses answer value).map fun r =>
        frameOf request.responseAction r.encode).map Reply.ofFrame =
      (request.responses answer value).map fun r => .ok ⟨request.responseAction, r⟩ := by
  rw [List.map_map]
  exact List.map_congr_left fun r hr =>
    Reply.ofFrame_frameOf _ (length_payload_of_mem_responses hr)

/-- One response closes a request, and at most an announcement goes in front of it. -/
theorem exists_responses_eq (request : Request) (answer : BusAnswer)
    (value : Option (List UInt8)) :
    ∃ front final, request.responses answer value = front ++ [final] ∧ final.last = true ∧
      (front = [] ∨ front = [⟨false, .success, []⟩]) := by
  refine ⟨_, _, rfl, Response.last_closing .., ?_⟩
  split
  · exact Or.inr rfl
  · exact Or.inl rfl

theorem balanced_handOver (r : Response) (action : Action) (outcome : SendOutcome) :
    Effect.Balanced (r.handOver action outcome) := by
  intro c
  cases c <;> cases outcome <;> rfl

theorem balanced_opening (answer : BusAnswer) : Effect.Balanced (request.opening answer) := by
  intro c
  unfold opening
  split
  · rfl
  · next call hcall =>
    obtain ⟨-, hcounter, -⟩ := Effect.eq_none_of_isBusRequest (isBusRequest_of_busCall? hcall)
    have hcounted : call.isCountedBy c =
        (c = .busRequests || (c = .busFailures && !answer.isAcknowledged)) := by
      obtain ⟨-, hrequest⟩ := busCall?_eq_some_iff.1 hcall
      cases request with
      | read r =>
        rw [hrequest]
        rfl
      | write r =>
        obtain ⟨v, -, rfl⟩ := hrequest
        rfl
    have hrequests : (Effect.counted .busRequests).counter? = some .busRequests := rfl
    rw [List.filterMap_cons_some hrequests, List.filterMap_cons_none hcounter, List.countP_cons,
      List.countP_cons, hcounted]
    cases answer.isAcknowledged <;> cases c <;> rfl

theorem balanced_announcement (answers : TaskAnswers) :
    Effect.Balanced (request.announcement answers) := by
  unfold announcement
  split
  · exact (balanced_handOver _ _ _).append fun c => rfl
  · exact fun c => rfl

/-- All that happens for a request is counted once, and nothing else is. -/
theorem balanced_transcript (request : Request) (answers : TaskAnswers) :
    Effect.Balanced (request.transcript answers) :=
  ((balanced_opening _).append (balanced_announcement _)).append (balanced_handOver _ _ _)

/-- A failed response is counted exactly when handing a frame over failed: no response is lost
    for want of a frame. -/
theorem count_responseFailures_transcript :
    ((request.transcript answers).filterMap Effect.counter?).count .responseFailures =
      ((request.transcript answers).filterMap Effect.outcome?).count .failed :=
  (balanced_transcript request answers .responseFailures).trans
    (Effect.countP_isCountedBy_counter _ .failed)

end Request

/-! ## The status of the last response -/

/-- Which status ends a read of an address that requests may name. -/
structure ReadRequest.EndsWith (r : ReadRequest) (effects : List Effect) (status : Status) :
    Prop where
  errorRequest : status = .errorRequest ↔
    ∃ answer, .read r.address answer ∈ effects ∧ answer ≠ .ok true
  errorTimeout : status = .errorTimeout ↔
    .read r.address (.ok true) ∈ effects ∧ .lookedUp r.address none ∈ effects
  incompatible : status = .errorIncompatibleDatapointType ↔
    ∃ bytes e, .read r.address (.ok true) ∈ effects ∧
      .lookedUp r.address (some bytes) ∈ effects ∧ r.datapoint.render bytes = .error e
  success : status = .success ↔
    ∃ bytes shown, .read r.address (.ok true) ∈ effects ∧
      .lookedUp r.address (some bytes) ∈ effects ∧ r.datapoint.render bytes = .ok shown

/-- Which status ends a write of an address that requests may name. -/
structure WriteRequest.EndsWith (r : WriteRequest) (effects : List Effect) (status : Status) :
    Prop where
  incompatible : status = .errorIncompatibleDatapointType ↔
    ∃ e, r.datapoint.parse r.arguments = .error e
  success : status = .success ↔
    ∃ v, r.datapoint.parse r.arguments = .ok v ∧ .wrote r.address v (.ok true) ∈ effects
  errorRequest : status = .errorRequest ↔
    ∃ v answer, r.datapoint.parse r.arguments = .ok v ∧
      .wrote r.address v answer ∈ effects ∧ answer ≠ .ok true

namespace Request

theorem endsWith_of_read {r : ReadRequest} (hvalid : r.address.isValid = true)
    (answers : TaskAnswers) :
    r.EndsWith ((read r).transcript answers)
      ((read r).conclusion answers.bus answers.value).1 := by
  have haddress : (read r).address = r.address := rfl
  have hread : ∀ answer, .read r.address answer ∈ (read r).transcript answers ↔
      answer = answers.bus := by
    intro answer
    rw [mem_transcript_iff_of_isBusRequest rfl, busCall?_eq_some_iff]
    simp [haddress, hvalid]
  have hlookedUp : ∀ value, .lookedUp r.address value ∈ (read r).transcript answers ↔
      answers.bus.isAcknowledged = true ∧ value = answers.value := by
    intro value
    rw [lookedUp_mem_transcript_iff]
    simp [isAnnounced, haddress, hvalid]
  simp only [conclusion, haddress, hvalid, if_true]
  rcases hbus : answers.bus with e | _ | _
  · constructor <;> simp [hread, hlookedUp, hbus, BusAnswer.isAcknowledged]
  · constructor <;> simp [hread, hlookedUp, hbus, BusAnswer.isAcknowledged]
  · cases hvalue : answers.value with
    | none => constructor <;> simp [hread, hlookedUp, hbus, hvalue, BusAnswer.isAcknowledged]
    | some bytes =>
      cases hrender : r.datapoint.render bytes <;> constructor <;>
        simp [hread, hlookedUp, hbus, hvalue, hrender, BusAnswer.isAcknowledged]

theorem endsWith_of_write {r : WriteRequest} (hvalid : r.address.isValid = true)
    (answers : TaskAnswers) :
    r.EndsWith ((write r).transcript answers)
      ((write r).conclusion answers.bus answers.value).1 := by
  have haddress : (write r).address = r.address := rfl
  have hwrote : ∀ v answer, .wrote r.address v answer ∈ (write r).transcript answers ↔
      r.datapoint.parse r.arguments = .ok v ∧ answer = answers.bus := by
    intro v answer
    rw [mem_transcript_iff_of_isBusRequest rfl, busCall?_eq_some_iff]
    constructor
    · rintro ⟨-, w, hparse, heq⟩
      cases heq
      exact ⟨hparse, rfl⟩
    · rintro ⟨hparse, rfl⟩
      exact ⟨hvalid, v, hparse, rfl⟩
  simp only [conclusion, haddress, hvalid, if_true]
  cases hparse : r.datapoint.parse r.arguments with
  | error e => constructor <;> simp [hwrote, hparse]
  | ok v =>
    rcases hbus : answers.bus with e | _ | _ <;> constructor <;> simp [hwrote, hparse, hbus]

theorem conclusion_eq_errorGroupAddress_iff {request : Request} {answer : BusAnswer}
    {value : Option (List UInt8)} :
    (request.conclusion answer value).1 = .errorGroupAddress ↔ request.address.isValid = false := by
  unfold conclusion
  cases hvalid : request.address.isValid with
  | false => simp
  | true =>
    rw [if_pos rfl]
    cases request with
    | read r =>
      match answer, value with
      | .ok false, _ | .error e, _ | .ok true, none => simp
      | .ok true, some bytes => cases hrender : r.datapoint.render bytes <;> simp [hrender]
    | write r =>
      cases hparse : r.datapoint.parse r.arguments with
      | error e => simp [hparse]
      | ok v => match answer with | .ok false | .ok true | .error e => simp [hparse]

/-- A request is announced exactly when it is a read that the bus was asked for and
    acknowledged. -/
theorem isAnnounced_iff {request : Request} {answers : TaskAnswers} :
    request.isAnnounced answers.bus = true ↔
      ∃ r, request = .read r ∧ r.address.raw ≠ 0 ∧
        .read r.address (.ok true) ∈ request.transcript answers := by
  constructor
  · intro h
    cases request with
    | read r =>
      obtain ⟨hvalid, hack⟩ := Bool.and_eq_true_iff.1 h
      refine ⟨r, rfl, by simpa [GroupAddress.isValid] using hvalid, ?_⟩
      rw [mem_transcript_iff_of_isBusRequest rfl, busCall?_eq_some_iff]
      match hbus : answers.bus, hack with
      | .ok true, _ => exact ⟨hvalid, rfl⟩
    | write r => cases h
  · rintro ⟨r, rfl, -, hmem⟩
    rw [mem_transcript_iff_of_isBusRequest rfl, busCall?_eq_some_iff] at hmem
    obtain ⟨hvalid, hcall⟩ := hmem
    have hbus : .ok true = answers.bus := by simpa using hcall
    exact Bool.and_eq_true_iff.2 ⟨hvalid, by rw [← hbus]; rfl⟩

end Request

/-! ## Reply discipline -/

/-- Whatever an accepted packet is answered by the bus, by the pool and by its connection, its
    frames are responses of the right kind and of bounded length, of which exactly the final one
    is marked as the last. An acknowledged read has one response in front of it. -/
theorem replies_of_accept {β γ : Type} [Outlets γ] {w w' : World β γ} {registry : Registry}
    {p : Packet} {job : Job} {effects : List Effect}
    (haccept : w.accept registry p = .ok (some job, w'))
    (hperforms : RequestTask.Performs job.task effects) :
    ∃ front final,
      (Effect.frames effects).map Reply.ofFrame =
        (front ++ [final]).map (fun r => .ok ⟨job.request.responseAction, r⟩) ∧
      (∀ frame ∈ Effect.frames effects, frame.length ≤ 258) ∧
      final.last = true ∧
      (front = [.ofStatus false .success] ∧
          (∃ r, job.request = .read r ∧ r.address.raw ≠ 0 ∧
            .read r.address (.ok true) ∈ effects) ∨
        front = [] ∧
          ¬∃ r, job.request = .read r ∧ r.address.raw ≠ 0 ∧
            .read r.address (.ok true) ∈ effects) ∧
      (final.status = .errorGroupAddress ↔ job.request.address.raw = 0) ∧
      (job.request.address.raw ≠ 0 →
        match job.request with
        | .read r => r.EndsWith effects final.status
        | .write r => r.EndsWith effects final.status) ∧
      (effects.filterMap Effect.counter?).count .responseFailures =
        (effects.filterMap Effect.outcome?).count .failed := by
  obtain ⟨-, -, request, -, rfl⟩ := World.accept_eq_some_iff.1 haccept
  obtain ⟨answers, rfl⟩ := RequestTask.exists_transcript_of_performs hperforms
  have hlength : ∀ r ∈ request.responses answers.bus answers.value,
      r.payload.length ≤ maxPayloadLength :=
    fun r hr => Request.length_payload_of_mem_responses hr
  refine ⟨if request.isAnnounced answers.bus then [.ofStatus false .success] else [],
    request.closing answers.bus answers.value, ?_, ?_, Response.last_closing _ _, ?_, ?_, ?_,
    Request.count_responseFailures_transcript⟩
  · rw [Request.frames_transcript]
    exact request.map_ofFrame_responses _ _
  · -- the header and the fixed fields take five bytes
    intro frame hframe
    rw [Request.frames_transcript, Request.framesFor] at hframe
    obtain ⟨r, hr, rfl⟩ := List.mem_map.1 hframe
    have := hlength r hr
    rw [length_frameOf_encode]
    simp only [maxPayloadLength] at this
    omega
  · -- only what the bus acknowledged is announced
    by_cases hannounced : request.isAnnounced answers.bus = true
    · exact Or.inl ⟨if_pos hannounced, Request.isAnnounced_iff.1 hannounced⟩
    · exact Or.inr ⟨if_neg hannounced, fun h => hannounced (Request.isAnnounced_iff.2 h)⟩
  · rw [Request.closing, Response.status_closing, Request.conclusion_eq_errorGroupAddress_iff]
    simp [GroupAddress.isValid, Job.start]
  · intro haddress
    rw [Request.closing, Response.status_closing]
    have hvalid : request.address.isValid = true := bne_iff_ne.2 haddress
    cases request with
    | read r => exact Request.endsWith_of_read hvalid answers
    | write r => exact Request.endsWith_of_write hvalid answers

/-- A read of an address without a value, on a connection that fails to write. -/
theorem replies_of_accept_noValue :
    ∃ w : World MemoryBus ScriptedConnection, ∃ job effects,
      w.accept .reference ⟨0, encodeRead ⟨2563⟩ ⟨7, 600⟩⟩ = .ok (some job, w) ∧
        RequestTask.Performs job.task effects ∧
          ∃ front final,
            (Effect.frames effects).map Reply.ofFrame =
              (front ++ [final]).map (fun r => .ok ⟨job.request.responseAction, r⟩) ∧
            final.last = true := by
  let w : World MemoryBus ScriptedConnection :=
    ⟨⟨.acknowledgeAll, .empty, 0⟩, ⟨true, [.failed]⟩, .zero⟩
  let job := Job.start 0 (.read ⟨⟨2563⟩, Registry.reference.resolve ⟨7, 600⟩⟩)
  have hreceive := receive_encodeRead_append .reference ⟨2563⟩ ⟨7, 600⟩ []
  rw [List.append_nil] at hreceive
  have haccept : w.accept .reference ⟨0, encodeRead ⟨2563⟩ ⟨7, 600⟩⟩ = .ok (some job, w) :=
    World.accept_eq_some_iff.2 ⟨rfl, rfl, _, hreceive, rfl⟩
  have hperforms := RequestTask.performs_run 0 job.task w
  obtain ⟨front, final, hframes, -, hlast, -⟩ := replies_of_accept haccept hperforms
  exact ⟨w, _, _, haccept, hperforms, front, final, hframes, hlast⟩

end KnxGateway
