import KnxGateway.Proofs.Bus.History
import KnxGateway.Proofs.Dispatch.Replies

set_option autoImplicit false

/-! # Requests that nobody disturbs

What a bus in memory says to a request depends on the requests before it only through the value of
the address that the request names. As long as nobody writes this address, a request is answered
as if it were alone, whatever else the bus is asked in between. -/

namespace KnxGateway

namespace Request

variable {request : Request} {answers : TaskAnswers}

/-! ## The responses of a bus in memory -/

/-- What a bus in memory says to a request. -/
def answerOf (b : MemoryBus) : Request → BusAnswer
  | read r => b.readAnswer r.address
  | write _ => b.writeAnswer

/-- The responses to a request that has a bus in memory for itself. -/
def responsesOn (request : Request) (b : MemoryBus) : List Response :=
  request.responses (request.answerOf b) (b.pool.lastValue request.address)

/-! ## Answers that do not matter -/

/-- A request that does not ask the bus is told the same whatever the bus would say. -/
theorem responses_of_silent {answer answer' : BusAnswer} {value value' : Option (List UInt8)}
    (h : request.busCall? answer = none) :
    request.responses answer value = request.responses answer' value' := by
  cases hvalid : request.address.isValid with
  | false =>
    cases request <;> simp only [address] at hvalid <;>
      simp [responses, isAnnounced, closing, conclusion, address, hvalid]
  | true =>
    cases request with
    | read r => simp [busCall?, hvalid] at h
    | write r =>
      cases hparse : r.datapoint.parse r.arguments with
      | ok v => simp [busCall?, hvalid, hparse] at h
      | error e => simp [responses, isAnnounced, closing, conclusion, hparse]

/-- The last value does not matter to a request that is not announced. -/
theorem responses_of_unannounced {answer : BusAnswer} {value value' : Option (List UInt8)}
    (h : request.isAnnounced answer = false) :
    request.responses answer value = request.responses answer value' := by
  cases request with
  | write r => rfl
  | read r =>
    match answer with
    | .ok false | .error e => rfl
    | .ok true =>
      have hvalid : r.address.isValid = false := by
        simpa [isAnnounced, BusAnswer.isAcknowledged] using h
      simp [responses, isAnnounced, closing, conclusion, address, hvalid]

/-! ## Requests within a history -/

variable {b b' : MemoryBus} {effects : List Effect}

/-- Within a history that does not write the address of a read, the responses to a request are
    those that the bus gives at its start. -/
theorem responses_of_undisturbed (hleads : b.Leads effects b')
    (hpart : ∀ e ∈ request.transcript answers, e ∈ effects)
    (hunwritten : ∀ r, request = .read r → ∀ v answer, .wrote r.address v answer ∉ effects) :
    request.responses answers.bus answers.value = request.responsesOn b := by
  cases hcall : request.busCall? answers.bus with
  | none => exact responses_of_silent hcall
  | some call =>
    have hmem : call ∈ effects :=
      hpart call ((mem_transcript_iff_of_isBusRequest (isBusRequest_of_busCall? hcall)).2 hcall)
    -- the bus says what it would have said at the start
    have hbus : answers.bus = request.answerOf b := by
      obtain ⟨-, hcall⟩ := busCall?_eq_some_iff.1 hcall
      cases request with
      | read r => exact MemoryBus.readAnswer_of_mem hleads (hunwritten r rfl) (hcall ▸ hmem)
      | write r =>
        obtain ⟨v, -, rfl⟩ := hcall
        exact MemoryBus.writeAnswer_of_mem hleads hmem
    rw [responsesOn, ← hbus]
    cases hannounced : request.isAnnounced answers.bus with
    | false => exact responses_of_unannounced hannounced
    | true =>
      -- so does the pool, if it is asked
      obtain ⟨r, rfl, -⟩ := isAnnounced_iff.1 hannounced
      have hlookedUp := hpart _ (lookedUp_mem_transcript_iff.2 ⟨hannounced, rfl, rfl⟩)
      have hvalue := MemoryBus.lastValue_of_mem hleads (hunwritten r rfl) hlookedUp
      rw [hvalue]
      rfl

/-- The frames of an undisturbed request. -/
theorem frames_of_undisturbed (hleads : b.Leads effects b') {part : List Effect}
    (hperforms : RequestTask.Performs request.task part) (hpart : ∀ e ∈ part, e ∈ effects)
    (hunwritten : ∀ r, request = .read r → ∀ v answer, .wrote r.address v answer ∉ effects) :
    Effect.frames part =
      (request.responsesOn b).map fun r => frameOf request.responseAction r.encode := by
  obtain ⟨answers, rfl⟩ := RequestTask.exists_transcript_of_performs hperforms
  rw [frames_transcript, framesFor, responses_of_undisturbed hleads hpart hunwritten]

/-! ## What a request writes -/

/-- The address and the value that a request asks the bus to write, if it does. -/
def written? : Request → Option (GroupAddress × DatapointValue)
  | read _ => none
  | write r =>
    if r.address.isValid then
      match r.datapoint.parse r.arguments with
      | .ok v => some (r.address, v)
      | .error _ => none
    else none

theorem written?_eq_some_iff {a : GroupAddress} {v : DatapointValue} :
    request.written? = some (a, v) ↔
      ∃ r, request = write r ∧ r.address.isValid = true ∧ r.address = a ∧
        r.datapoint.parse r.arguments = .ok v := by
  cases request with
  | read r => simp [written?]
  | write r =>
    cases hvalid : r.address.isValid with
    | false => simp [written?, hvalid]
    | true => cases hparse : r.datapoint.parse r.arguments <;> simp [written?, hvalid, hparse]

/-- Whatever the bus says, a request writes what it has to write and nothing else. -/
theorem exists_wrote_mem_iff {part : List Effect}
    (hperforms : RequestTask.Performs request.task part) {a : GroupAddress} {v : DatapointValue} :
    (∃ answer, .wrote a v answer ∈ part) ↔ request.written? = some (a, v) := by
  obtain ⟨answers, rfl⟩ := RequestTask.exists_transcript_of_performs hperforms
  simp only [mem_transcript_iff_of_isBusRequest (e := .wrote a v _) rfl, busCall?_eq_some_iff,
    written?_eq_some_iff]
  cases request with
  | read r => simp
  | write r =>
    constructor
    · rintro ⟨answer, hvalid, x, hparse, heq⟩
      cases heq
      exact ⟨r, rfl, hvalid, rfl, hparse⟩
    · rintro ⟨r, heq, hvalid, rfl, hparse⟩
      cases heq
      exact ⟨answers.bus, hvalid, v, hparse, rfl⟩

/-! ## Requests with a bus for themselves -/

theorem responsesOn_of_write {r : WriteRequest} {v : DatapointValue}
    (hvalid : r.address.isValid = true) (hparse : r.datapoint.parse r.arguments = .ok v)
    (hanswer : b.writeAnswer = .ok true) :
    (write r).responsesOn b = [.ofStatus true .success] := by
  simp [responsesOn, responses, isAnnounced, closing, conclusion, answerOf, address, hvalid,
    hparse, hanswer, Response.closing_empty]

theorem responsesOn_of_read {r : ReadRequest} {bytes : List UInt8} {shown : RenderedValue}
    (hvalid : r.address.isValid = true) (hanswer : b.readAnswer r.address = .ok true)
    (hvalue : b.pool.lastValue r.address = some bytes)
    (hrender : r.datapoint.render bytes = .ok shown) :
    (read r).responsesOn b =
      [.ofStatus false .success, .closing .success shown.display] := by
  simp [responsesOn, responses, isAnnounced, closing, conclusion, answerOf, address, hvalid,
    hanswer, hvalue, hrender, BusAnswer.isAcknowledged]

end Request

end KnxGateway
