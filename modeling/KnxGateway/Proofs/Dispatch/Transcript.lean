import KnxGateway.Dispatch.World
import KnxGateway.Proofs.Frame.Reply

set_option autoImplicit false

/-! # All that a request task can do

A request task asks a few questions and sends one or two frames. Its transcript is a function of
the answers: at most one request of the bus, the announcement of a read that the bus acknowledges
together with the lookup behind it, and the last response. Whatever a task performs is the
transcript of some answers, so that facts about tasks are facts about transcripts and nothing has
to look into the tree of a task again. -/

namespace KnxGateway

variable {effects : List Effect}

/-! ## One action at a time -/

namespace RequestTask

theorem performs_done_iff : Performs .done effects ↔ effects = [] :=
  ⟨fun h => by cases h; rfl, fun h => h ▸ .done⟩

theorem performs_count_iff {counter : Counter} {next : RequestTask} :
    Performs (.count counter next) effects ↔
      ∃ rest, effects = .counted counter :: rest ∧ Performs next rest := by
  constructor
  · intro h
    cases h with
    | count h => exact ⟨_, rfl, h⟩
  · rintro ⟨rest, rfl, h⟩
    exact .count h

theorem performs_readBus_iff {a : GroupAddress} {next : BusAnswer → RequestTask} :
    Performs (.readBus a next) effects ↔
      ∃ answer rest, effects = .read a answer :: rest ∧ Performs (next answer) rest := by
  constructor
  · intro h
    cases h with
    | readBus answer h => exact ⟨answer, _, rfl, h⟩
  · rintro ⟨answer, rest, rfl, h⟩
    exact .readBus answer h

theorem performs_writeBus_iff {a : GroupAddress} {v : DatapointValue}
    {next : BusAnswer → RequestTask} :
    Performs (.writeBus a v next) effects ↔
      ∃ answer rest, effects = .wrote a v answer :: rest ∧ Performs (next answer) rest := by
  constructor
  · intro h
    cases h with
    | writeBus answer h => exact ⟨answer, _, rfl, h⟩
  · rintro ⟨answer, rest, rfl, h⟩
    exact .writeBus answer h

theorem performs_lookUp_iff {a : GroupAddress} {next : Option (List UInt8) → RequestTask} :
    Performs (.lookUp a next) effects ↔
      ∃ value rest, effects = .lookedUp a value :: rest ∧ Performs (next value) rest := by
  constructor
  · intro h
    cases h with
    | lookUp value h => exact ⟨value, _, rfl, h⟩
  · rintro ⟨value, rest, rfl, h⟩
    exact .lookUp value h

theorem performs_send_iff {frame : List UInt8} {next : SendOutcome → RequestTask} :
    Performs (.send frame next) effects ↔
      ∃ outcome rest, effects = .handedOver frame outcome :: rest ∧
        Performs (next outcome) rest := by
  constructor
  · intro h
    cases h with
    | send outcome h => exact ⟨outcome, _, rfl, h⟩
  · rintro ⟨outcome, rest, rfl, h⟩
    exact .send outcome h

end RequestTask

/-! ## Responses -/

/-- Handing a response over: its frame goes to the connection, and what became of it is
    counted. -/
def Response.handOver (r : Response) (action : Action) (outcome : SendOutcome) : List Effect :=
  [.handedOver (frameOf action r.encode) outcome, .counted outcome.counter]

namespace RequestTask

theorem performs_respond_iff {action : Action} {r : Response} {next : RequestTask}
    (h : r.payload.length ≤ maxPayloadLength) :
    Performs (respond action r next) effects ↔
      ∃ outcome rest, effects = r.handOver action outcome ++ rest ∧ Performs next rest := by
  have hframe : r.frame action = .ok (frameOf action r.encode) := if_pos h
  simp only [respond, hframe, performs_send_iff, performs_count_iff]
  constructor
  · rintro ⟨outcome, _, rfl, rest, rfl, hnext⟩
    exact ⟨outcome, rest, rfl, hnext⟩
  · rintro ⟨outcome, rest, rfl, hnext⟩
    exact ⟨outcome, _, rfl, rest, rfl, hnext⟩

theorem performs_conclude_iff {action : Action} {status : Status} {message : String} :
    Performs (conclude action status message) effects ↔
      ∃ outcome, effects = (Response.closing status message).handOver action outcome := by
  have hlen := Response.length_payload_closing status message
  rw [conclude, ← Response.closing, performs_respond_iff hlen]
  simp only [performs_done_iff]
  constructor
  · rintro ⟨outcome, _, rfl, rfl⟩
    exact ⟨outcome, List.append_nil _⟩
  · rintro ⟨outcome, rfl⟩
    exact ⟨outcome, [], (List.append_nil _).symm, rfl⟩

end RequestTask

/-! ## Transcripts -/

/-- What a task is told. A task that does not ask a question does not hear its answer. -/
structure TaskAnswers where
  /-- What the bus says to the request. -/
  bus : BusAnswer
  /-- The last value of the address. -/
  value : Option (List UInt8)
  /-- What becomes of the announcement of a read. -/
  announced : SendOutcome
  /-- What becomes of the last response. -/
  closed : SendOutcome

namespace Request

/-- The request of the bus that a request leads to, with the answer of the bus. -/
def busCall? (request : Request) (answer : BusAnswer) : Option Effect :=
  if request.address.isValid then
    match request with
    | read r => some (.read r.address answer)
    | write r =>
      match r.datapoint.parse r.arguments with
      | .ok value => some (.wrote r.address value answer)
      | .error _ => none
  else none

/-- Whether a response goes in front of the last one: the request is a read that the bus
    acknowledges. -/
def isAnnounced (request : Request) (answer : BusAnswer) : Bool :=
  match request with
  | read r => r.address.isValid && answer.isAcknowledged
  | write _ => false

/-- The status and the message with which a request ends. -/
def conclusion (request : Request) (answer : BusAnswer) (value : Option (List UInt8)) :
    Status × String :=
  if request.address.isValid then
    match request with
    | read r =>
      match answer with
      | .ok true =>
        match value with
        | none => (.errorTimeout, noValueMessage r.address)
        | some bytes =>
          match r.datapoint.render bytes with
          | .ok shown => (.success, shown.display)
          | .error _ =>
            (.errorIncompatibleDatapointType, unrenderableMessage r.address r.datapoint bytes)
      | .ok false => (.errorRequest, notAcknowledgedMessage "read" r.address)
      | .error e => (.errorRequest, requestFailedMessage "read" r.address e)
    | write r =>
      match r.datapoint.parse r.arguments with
      | .ok _ =>
        match answer with
        | .ok true => (.success, "")
        | .ok false => (.errorRequest, notAcknowledgedMessage "write" r.address)
        | .error e => (.errorRequest, requestFailedMessage "write" r.address e)
      | .error _ =>
        (.errorIncompatibleDatapointType, unreadableMessage r.address r.datapoint r.arguments)
  else (.errorGroupAddress, invalidAddressMessage request.address)

/-- The last response to a request. -/
def closing (request : Request) (answer : BusAnswer) (value : Option (List UInt8)) : Response :=
  .closing (request.conclusion answer value).1 (request.conclusion answer value).2

/-- The responses to a request, in order. -/
def responses (request : Request) (answer : BusAnswer) (value : Option (List UInt8)) :
    List Response :=
  (if request.isAnnounced answer then [.ofStatus false .success] else []) ++
    [request.closing answer value]

/-- What is done for a request before anything is sent: the bus is asked, and a request that it
    does not acknowledge is counted. -/
def opening (request : Request) (answer : BusAnswer) : List Effect :=
  match request.busCall? answer with
  | none => []
  | some call =>
    .counted .busRequests :: call ::
      if answer.isAcknowledged then [] else [.counted .busFailures]

/-- The announcement of a read and the lookup behind it. -/
def announcement (request : Request) (answers : TaskAnswers) : List Effect :=
  if request.isAnnounced answers.bus then
    (Response.ofStatus false .success).handOver request.responseAction answers.announced ++
      [.lookedUp request.address answers.value]
  else []

/-- All that is done for a request, in order. -/
def transcript (request : Request) (answers : TaskAnswers) : List Effect :=
  request.opening answers.bus ++ request.announcement answers ++
    (request.closing answers.bus answers.value).handOver request.responseAction answers.closed

/-! ### The request of the bus -/

/-- A read with a valid address asks the bus to read it; a write with a valid address asks the bus
    to write the value that its arguments stand for. -/
theorem busCall?_eq_some_iff {request : Request} {answer : BusAnswer} {call : Effect} :
    request.busCall? answer = some call ↔
      request.address.isValid = true ∧
        match request with
        | read r => call = .read r.address answer
        | write r =>
          ∃ v, r.datapoint.parse r.arguments = .ok v ∧ call = .wrote r.address v answer := by
  unfold busCall?
  cases hvalid : request.address.isValid with
  | false => simp
  | true =>
    cases request with
    | read r => simp [eq_comm]
    | write r =>
      cases hparse : r.datapoint.parse r.arguments with
      | error e => simp [hparse]
      | ok v =>
        simp only [hparse, if_true, true_and, Option.some.injEq, Except.ok.injEq, exists_eq_left']
        exact eq_comm

theorem isBusRequest_of_busCall? {request : Request} {answer : BusAnswer} {call : Effect}
    (h : request.busCall? answer = some call) : call.isBusRequest = true := by
  obtain ⟨-, hcall⟩ := busCall?_eq_some_iff.1 h
  cases request with
  | read r =>
    rw [hcall]
    rfl
  | write r =>
    obtain ⟨v, -, rfl⟩ := hcall
    rfl

/-! ### The four shapes of a transcript -/

variable {request : Request} {answers : TaskAnswers} {call : Effect}

theorem isAnnounced_of_refused {answer : BusAnswer} (h : answer.isAcknowledged = false) :
    request.isAnnounced answer = false := by
  cases request with
  | read r => rw [isAnnounced, h, Bool.and_false]
  | write r => rfl

theorem isAnnounced_of_silent {answer : BusAnswer} (h : request.busCall? answer = none) :
    request.isAnnounced answer = false := by
  cases request with
  | read r =>
    cases hvalid : r.address.isValid with
    | false => rw [isAnnounced, hvalid, Bool.false_and]
    | true => simp [busCall?, address, hvalid] at h
  | write r => rfl

/-- The bus is not asked. -/
theorem transcript_of_silent (hcall : request.busCall? answers.bus = none) :
    request.transcript answers =
      (request.closing answers.bus answers.value).handOver request.responseAction
        answers.closed := by
  simp [transcript, opening, announcement, hcall, isAnnounced_of_silent hcall]

/-- The bus is asked and does not acknowledge. -/
theorem transcript_of_refused (hcall : request.busCall? answers.bus = some call)
    (hrefused : answers.bus.isAcknowledged = false) :
    request.transcript answers =
      .counted .busRequests :: call :: .counted .busFailures ::
        (request.closing answers.bus answers.value).handOver request.responseAction
          answers.closed := by
  simp [transcript, opening, announcement, hcall, hrefused, isAnnounced_of_refused hrefused]

/-- The bus acknowledges a request that is not announced. -/
theorem transcript_of_acknowledged (hcall : request.busCall? answers.bus = some call)
    (hack : answers.bus.isAcknowledged = true)
    (hannounced : request.isAnnounced answers.bus = false) :
    request.transcript answers =
      .counted .busRequests :: call ::
        (request.closing answers.bus answers.value).handOver request.responseAction
          answers.closed := by
  simp [transcript, opening, announcement, hcall, hack, hannounced]

/-- The bus acknowledges a request that is announced. -/
theorem transcript_of_announced (hcall : request.busCall? answers.bus = some call)
    (hack : answers.bus.isAcknowledged = true)
    (hannounced : request.isAnnounced answers.bus = true) :
    request.transcript answers =
      .counted .busRequests :: call ::
        ((Response.ofStatus false .success).handOver request.responseAction answers.announced ++
          .lookedUp request.address answers.value ::
            (request.closing answers.bus answers.value).handOver request.responseAction
              answers.closed) := by
  simp [transcript, opening, announcement, hcall, hack, hannounced]

/-! ### What a transcript holds -/

/-- The requests of the bus in a transcript are the one request, or none. -/
theorem filter_isBusRequest_transcript (request : Request) (answers : TaskAnswers) :
    (request.transcript answers).filter Effect.isBusRequest =
      (request.busCall? answers.bus).toList := by
  have hsent : ∀ (r : Response) (action : Action) (outcome : SendOutcome),
      (r.handOver action outcome).filter Effect.isBusRequest = [] := fun _ _ _ => rfl
  have hannouncement : (request.announcement answers).filter Effect.isBusRequest = [] := by
    unfold announcement
    split
    · rw [List.filter_append, hsent]
      rfl
    · rfl
  rw [transcript, List.filter_append, List.filter_append, hannouncement, hsent, List.append_nil,
    List.append_nil, opening]
  cases hcall : request.busCall? answers.bus with
  | none => rfl
  | some call =>
    rw [List.filter_cons_of_neg (by simp [Effect.isBusRequest]),
      List.filter_cons_of_pos (isBusRequest_of_busCall? hcall)]
    cases answers.bus.isAcknowledged <;> rfl

/-- The bus is asked for nothing but the request of the bus. -/
theorem mem_transcript_iff_of_isBusRequest {e : Effect} (he : e.isBusRequest = true) :
    e ∈ request.transcript answers ↔ request.busCall? answers.bus = some e := by
  have hfilter : e ∈ (request.transcript answers).filter Effect.isBusRequest ↔
      e ∈ request.transcript answers := by
    rw [List.mem_filter, he, eq_self_iff_true, and_true]
  rw [← hfilter, filter_isBusRequest_transcript, Option.mem_toList]

/-- A last value is looked up only behind an announcement. -/
theorem lookedUp_mem_transcript_iff {a : GroupAddress} {value : Option (List UInt8)} :
    .lookedUp a value ∈ request.transcript answers ↔
      request.isAnnounced answers.bus = true ∧ a = request.address ∧ value = answers.value := by
  have hnotSent : ∀ (r : Response) (action : Action) (outcome : SendOutcome),
      Effect.lookedUp a value ∉ r.handOver action outcome := by
    intro r action outcome
    simp [Response.handOver]
  have hnotOpening : Effect.lookedUp a value ∉ request.opening answers.bus := by
    unfold opening
    split
    · exact List.not_mem_nil
    · next call hcall =>
      have hcall' : Effect.lookedUp a value ≠ call := by
        rintro rfl
        obtain ⟨-, hcall⟩ := busCall?_eq_some_iff.1 hcall
        cases request <;> simp at hcall
      cases answers.bus.isAcknowledged <;> simp [hcall']
  cases hannounced : request.isAnnounced answers.bus <;>
    simp [transcript, announcement, hannounced, hnotSent, hnotOpening]

end Request

/-! ## Every run is a transcript -/

namespace RequestTask

variable {r : ReadRequest} {w : WriteRequest}

/-- After the lookup a read only ends. -/
theorem performs_showValue_iff (hvalid : r.address.isValid = true)
    {value : Option (List UInt8)} :
    Performs (showValue r value) effects ↔
      ∃ outcome, effects =
        ((Request.read r).closing (.ok true) value).handOver .readResponse outcome := by
  have haddress : (Request.read r).address = r.address := rfl
  simp only [Request.closing, Request.conclusion, haddress, hvalid, if_true]
  cases value with
  | none => exact performs_conclude_iff
  | some bytes =>
    simp only [showValue]
    cases r.datapoint.render bytes <;> exact performs_conclude_iff

/-- A request that does not ask the bus ends at once. -/
theorem exists_transcript_of_silent {request : Request}
    (hcall : request.busCall? (.ok false) = none) {status : Status} {message : String}
    (hconclusion : request.conclusion (.ok false) none = (status, message))
    (h : Performs (conclude request.responseAction status message) effects) :
    ∃ answers, effects = request.transcript answers := by
  obtain ⟨closed, rfl⟩ := performs_conclude_iff.1 h
  refine ⟨⟨.ok false, none, .sent, closed⟩, ?_⟩
  rw [Request.transcript_of_silent hcall, Request.closing, hconclusion]

/-- A request that the bus refuses is counted and ends. -/
theorem exists_transcript_of_refused {request : Request} {answer : BusAnswer} {call : Effect}
    (hcall : request.busCall? answer = some call) (hrefused : answer.isAcknowledged = false)
    {status : Status} {message : String}
    (hconclusion : request.conclusion answer none = (status, message))
    (h : Performs (.count .busFailures (conclude request.responseAction status message)) effects) :
    ∃ answers, .counted .busRequests :: call :: effects = request.transcript answers := by
  simp only [performs_count_iff, performs_conclude_iff] at h
  obtain ⟨_, rfl, closed, rfl⟩ := h
  refine ⟨⟨answer, none, .sent, closed⟩, ?_⟩
  rw [Request.transcript_of_refused hcall hrefused, Request.closing, hconclusion]

/-- Whatever the task of a read performs is a transcript of the request. -/
theorem exists_transcript_of_performs_ofRead (h : Performs (ofRead r) effects) :
    ∃ answers, effects = (Request.read r).transcript answers := by
  have haddress : (Request.read r).address = r.address := rfl
  unfold ofRead at h
  split at h
  · next hvalid =>
    simp only [performs_count_iff, performs_readBus_iff] at h
    obtain ⟨_, rfl, answer, _, rfl, hafter⟩ := h
    have hcall : (Request.read r).busCall? answer = some (.read r.address answer) := by
      simp [Request.busCall?, haddress, hvalid]
    match answer with
    | .ok true =>
      -- what is looked up decides how the read ends
      simp only [afterRead, performs_respond_iff (Response.length_payload_ofStatus _ _),
        performs_lookUp_iff, performs_showValue_iff hvalid] at hafter
      obtain ⟨announced, _, rfl, value, _, rfl, closed, rfl⟩ := hafter
      refine ⟨⟨.ok true, value, announced, closed⟩, ?_⟩
      rw [Request.transcript_of_announced hcall rfl (by rw [Request.isAnnounced, hvalid]; rfl)]
      rfl
    | .ok false | .error e =>
      exact exists_transcript_of_refused hcall rfl
        (by simp [Request.conclusion, haddress, hvalid]) hafter
  · next hinvalid =>
    have hcall : (Request.read r).busCall? (.ok false) = none := by
      simp [Request.busCall?, haddress, hinvalid]
    exact exists_transcript_of_silent hcall (by simp [Request.conclusion, haddress, hinvalid]) h

/-- Whatever the task of a write performs is a transcript of the request. -/
theorem exists_transcript_of_performs_ofWrite (h : Performs (ofWrite w) effects) :
    ∃ answers, effects = (Request.write w).transcript answers := by
  have haddress : (Request.write w).address = w.address := rfl
  unfold ofWrite at h
  split at h
  · next hvalid =>
    split at h
    · next v hparse =>
      simp only [performs_count_iff, performs_writeBus_iff] at h
      obtain ⟨_, rfl, answer, _, rfl, hafter⟩ := h
      have hcall : (Request.write w).busCall? answer = some (.wrote w.address v answer) := by
        simp [Request.busCall?, haddress, hvalid, hparse]
      match answer with
      | .ok true =>
        -- a success without a message is a last response with an empty one
        simp only [afterWrite, performs_respond_iff (Response.length_payload_ofStatus _ _),
          performs_done_iff] at hafter
        obtain ⟨closed, _, rfl, rfl⟩ := hafter
        refine ⟨⟨.ok true, none, .sent, closed⟩, ?_⟩
        rw [Request.transcript_of_acknowledged hcall rfl rfl]
        simp [Request.closing, Request.conclusion, haddress, hvalid, hparse,
          Request.responseAction, Response.closing_empty]
      | .ok false | .error e =>
        exact exists_transcript_of_refused hcall rfl
          (by simp [Request.conclusion, haddress, hvalid, hparse]) hafter
    · next e hparse =>
      have hcall : (Request.write w).busCall? (.ok false) = none := by
        simp [Request.busCall?, haddress, hvalid, hparse]
      exact exists_transcript_of_silent hcall
        (by simp [Request.conclusion, haddress, hvalid, hparse]) h
  · next hinvalid =>
    have hcall : (Request.write w).busCall? (.ok false) = none := by
      simp [Request.busCall?, haddress, hinvalid]
    exact exists_transcript_of_silent hcall (by simp [Request.conclusion, haddress, hinvalid]) h

/-- Whatever the task of a request performs is a transcript of the request. -/
theorem exists_transcript_of_performs {request : Request}
    (h : Performs request.task effects) :
    ∃ answers, effects = request.transcript answers := by
  cases request with
  | read r => exact exists_transcript_of_performs_ofRead h
  | write w => exact exists_transcript_of_performs_ofWrite h

end RequestTask

end KnxGateway
