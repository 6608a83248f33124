import KnxGateway.Proofs.Dispatch.Acceptance
import KnxGateway.Proofs.Dispatch.Independence
import KnxGateway.Proofs.Dispatch.JobRecord

set_option autoImplicit false

/-! # What a packet asks of the bus

A building must not be switched by accident. A packet asks the bus for at most one thing: to read
the address of a read, or to write the value that the arguments of a write stand for. What it asks
for can be read off its bytes alone, and a packet that does not start with the frame of such a
request, or that comes from a closed connection, asks for nothing.

A bus in memory so changes its values only for a write that it acknowledges, at the address of that
write and at no other. -/

namespace KnxGateway

/-! ## Packets as requests -/

theorem GroupAddress.bytes_ofBytes (high low : UInt8) : (ofBytes high low).bytes = [high, low] := by
  have := high.toNat_lt
  have := low.toNat_lt
  simp only [bytes, ofBytes, List.cons.injEq, and_true, ← UInt8.toNat_inj]
  simp
  omega

theorem DatapointId.bytes_ofBytes (majorHigh majorLow minorHigh minorLow : UInt8) :
    (ofBytes majorHigh majorLow minorHigh minorLow).bytes =
      [majorHigh, majorLow, minorHigh, minorLow] := by
  have := majorHigh.toNat_lt
  have := majorLow.toNat_lt
  have := minorHigh.toNat_lt
  have := minorLow.toNat_lt
  simp only [bytes, ofBytes, List.cons.injEq, and_true, ← UInt8.toNat_inj]
  simp
  omega

/-- A body with enough bytes holds the fields of a request. -/
theorem exists_requestFields_append {body : List UInt8} (h : requestFieldsLength ≤ body.length) :
    ∃ a id tail, body = requestFields a id ++ tail := by
  match body, h with
  | high :: low :: majorHigh :: majorLow :: minorHigh :: minorLow :: tail, _ =>
    refine ⟨.ofBytes high low, .ofBytes majorHigh majorLow minorHigh minorLow, tail, ?_⟩
    rw [requestFields, GroupAddress.bytes_ofBytes, DatapointId.bytes_ofBytes]
    rfl

/-- The bytes start with a frame of the given action, whose body holds the fields of a request and
    `tail` behind them. -/
def StartsWithRequest (bytes : List UInt8) (action : Action) (a : GroupAddress) (id : DatapointId)
    (tail : List UInt8) : Prop :=
  (requestFields a id ++ tail).length ≤ 255 ∧ frameOf action (requestFields a id ++ tail) <+: bytes

section Reception

variable {registry : Registry} {bytes tail : List UInt8} {a : GroupAddress} {id : DatapointId}
  {request : Request}

theorem receive_of_startsWith_read (h : StartsWithRequest bytes .readRequest a id tail) :
    receive registry true bytes = .ok (.accepted (.read ⟨a, registry.resolve id⟩)) := by
  obtain ⟨hlen, rest, rfl⟩ := h
  rw [receive_frameOf_append registry _ hlen]
  simp only [ReadRequest.decode, readRequestFields_append]
  rfl

theorem receive_of_startsWith_write (h : StartsWithRequest bytes .writeRequest a id tail) :
    receive registry true bytes =
      .ok (.accepted (.write ⟨a, registry.resolve id, Argument.tokenize tail⟩)) := by
  obtain ⟨hlen, rest, rfl⟩ := h
  rw [receive_frameOf_append registry _ hlen]
  simp only [WriteRequest.decode, readRequestFields_append]
  rfl

/-- A packet that is accepted starts with the frame of a request. -/
theorem exists_startsWith_of_receive (h : receive registry true bytes = .ok (.accepted request)) :
    ∃ a id tail, StartsWithRequest bytes .readRequest a id tail ∨
      StartsWithRequest bytes .writeRequest a id tail := by
  have hnonempty : bytes ≠ [] := by
    rintro rfl
    cases h
  have hfaultless : firstFault? bytes = none := by
    cases hfault : firstFault? bytes with
    | none => rfl
    | some e =>
      rw [receive_of_firstFault? registry hnonempty hfault] at h
      cases h
  obtain ⟨action, body, haction, hleast, hmost, htake⟩ := isRequestFrame_take hfaultless
  obtain ⟨a, id, tail, rfl⟩ := exists_requestFields_append hleast
  have hstart : StartsWithRequest bytes action a id tail :=
    ⟨hmost, htake ▸ List.take_prefix _ _⟩
  refine ⟨a, id, tail, ?_⟩
  cases action with
  | readRequest => exact Or.inl hstart
  | writeRequest => exact Or.inr hstart
  | readResponse | writeResponse | generalMessage => cases haction

end Reception

/-! ## Requests of the bus -/

/-- What the bus can be asked for. -/
inductive BusRequest where
  | read (a : GroupAddress)
  | write (a : GroupAddress) (v : DatapointValue)

namespace BusRequest

/-- The effect of the request when the bus gives an answer. -/
def answered (r : BusRequest) (answer : BusAnswer) : Effect :=
  match r with
  | read a => .read a answer
  | write a v => .wrote a v answer

/-- What the bus says to the request, and the bus afterwards. -/
def ask {β : Type} [Bus β] (r : BusRequest) (b : β) : BusAnswer × β :=
  match r with
  | read a => Bus.readRequest b a
  | write a v => Bus.writeRequest b a v

end BusRequest

/-- What a packet asks of the bus, by its bytes: a read of an address, or a write of the value
    that the type of the request reads from the arguments. No request may name the address 0. -/
inductive AsksFor (registry : Registry) (bytes : List UInt8) : BusRequest → Prop where
  | read {a : GroupAddress} {id : DatapointId} {tail : List UInt8} :
      StartsWithRequest bytes .readRequest a id tail → a.raw ≠ 0 →
      AsksFor registry bytes (.read a)
  | write {a : GroupAddress} {id : DatapointId} {tail : List UInt8} {v : DatapointValue} :
      StartsWithRequest bytes .writeRequest a id tail → a.raw ≠ 0 →
      (registry.resolve id).parse (Argument.tokenize tail) = .ok v →
      AsksFor registry bytes (.write a v)

/-- What a request asks of the bus, if anything. -/
def Request.busRequest? (request : Request) : Option BusRequest :=
  if request.address.isValid then
    match request with
    | read r => some (.read r.address)
    | write r =>
      match r.datapoint.parse r.arguments with
      | .ok v => some (.write r.address v)
      | .error _ => none
  else none

theorem Request.busCall?_eq_map (request : Request) (answer : BusAnswer) :
    request.busCall? answer = request.busRequest?.map fun r => r.answered answer := by
  unfold busCall? busRequest?
  cases request.address.isValid with
  | false => rfl
  | true =>
    cases request with
    | read r => rfl
    | write r => cases hparse : r.datapoint.parse r.arguments <;> simp [hparse, BusRequest.answered]

/-- An accepted packet asks for what its request asks for, and a packet that is not accepted asks
    for nothing. -/
theorem asksFor_iff {registry : Registry} {bytes : List UInt8} {r : BusRequest} :
    AsksFor registry bytes r ↔
      ∃ request, receive registry true bytes = .ok (.accepted request) ∧
        request.busRequest? = some r := by
  constructor
  · intro h
    cases h with
    | read hstart haddress =>
      exact ⟨_, receive_of_startsWith_read hstart, if_pos (bne_iff_ne.2 haddress)⟩
    | @write a id tail v hstart haddress hparse =>
      have hvalid : a.isValid = true := bne_iff_ne.2 haddress
      refine ⟨_, receive_of_startsWith_write hstart, ?_⟩
      simp [Request.busRequest?, Request.address, hvalid, hparse]
  · rintro ⟨request, hreceive, hasks⟩
    have hvalid : request.address.isValid = true := by
      by_contra hinvalid
      unfold Request.busRequest? at hasks
      rw [if_neg hinvalid] at hasks
      cases hasks
    obtain ⟨a, id, tail, hstart | hstart⟩ := exists_startsWith_of_receive hreceive
    · rw [receive_of_startsWith_read hstart] at hreceive
      cases hreceive
      rw [Request.busRequest?, if_pos hvalid] at hasks
      cases hasks
      exact .read hstart (bne_iff_ne.1 hvalid)
    · rw [receive_of_startsWith_write hstart] at hreceive
      cases hreceive
      rw [Request.busRequest?, if_pos hvalid] at hasks
      cases hparse : (registry.resolve id).parse (Argument.tokenize tail) with
      | error e =>
        simp only [hparse] at hasks
        cases hasks
      | ok v =>
        simp only [hparse] at hasks
        cases hasks
        exact .write hstart (bne_iff_ne.1 hvalid) hparse

/-! ## Runs on any bus -/

/-- The answers of the requests among some effects are those that the bus gives one after the other
    on its way from one state to another. -/
def Bus.Replays {β : Type} [Bus β] : β → List Effect → β → Prop
  | b, [], b' => b' = b
  | b, .read a answer :: later, b' =>
    answer = (Bus.readRequest b a).1 ∧ Replays (Bus.readRequest b a).2 later b'
  | b, .wrote a v answer :: later, b' =>
    answer = (Bus.writeRequest b a v).1 ∧ Replays (Bus.writeRequest b a v).2 later b'
  | b, .counted _ :: later, b' | b, .lookedUp _ _ :: later, b'
  | b, .handedOver _ _ :: later, b' => Replays b later b'

section Runs

variable {β γ : Type} [Bus β] [Outlets γ]

/-- Only the requests count. -/
theorem Bus.replays_filter {b b' : β} {effects : List Effect} (h : Bus.Replays b effects b') :
    Bus.Replays b (effects.filter Effect.isBusRequest) b' := by
  induction effects generalizing b with
  | nil => exact h
  | cons e effects ih =>
    cases e with
    | read a answer => exact ⟨h.1, ih h.2⟩
    | wrote a v answer => exact ⟨h.1, ih h.2⟩
    | counted counter => exact ih h
    | lookedUp a value => exact ih h
    | handedOver frame outcome => exact ih h

theorem RequestTask.replays_run (c : ConnectionId) (task : RequestTask) (w : World β γ) :
    Bus.Replays w.bus (task.run c w).1 (task.run c w).2.bus := by
  induction task generalizing w with
  | done => exact rfl
  | count counter next ih => exact ih (w.record counter)
  | readBus a next ih => exact ⟨rfl, ih (w.readBus a).1 (w.readBus a).2⟩
  | writeBus a v next ih => exact ⟨rfl, ih (w.writeBus a v).1 (w.writeBus a v).2⟩
  | lookUp a next ih => exact ih (Bus.lastValue w.bus a) w
  | send frame next ih => exact ih (w.send c frame).1 (w.send c frame).2

/-- A bus that answered one request gave its own answer. -/
theorem BusRequest.eq_ask_of_replays {b b' : β} {r : BusRequest} {answer : BusAnswer}
    (h : Bus.Replays b [r.answered answer] b') :
    answer = (r.ask b).1 ∧ b' = (r.ask b).2 := by
  cases r with
  | read a => exact h
  | write a v => exact h

/-- A request that is carried out asks the bus for what it asks for, once. -/
theorem Request.filter_isBusRequest_run (request : Request) (c : ConnectionId) (w : World β γ) :
    (request.task.run c w).1.filter Effect.isBusRequest =
        (request.busRequest?.map fun r => r.answered (r.ask w.bus).1).toList ∧
      (request.task.run c w).2.bus =
        (request.busRequest?.map fun r => (r.ask w.bus).2).getD w.bus := by
  have hreplays := Bus.replays_filter (RequestTask.replays_run c request.task w)
  obtain ⟨answers, htranscript⟩ := RequestTask.exists_transcript_of_performs
    (RequestTask.performs_run c request.task w)
  rw [htranscript, filter_isBusRequest_transcript, busCall?_eq_map] at hreplays
  rw [htranscript, filter_isBusRequest_transcript, busCall?_eq_map]
  cases hasks : request.busRequest? with
  | none =>
    rw [hasks] at hreplays
    exact ⟨rfl, hreplays⟩
  | some r =>
    rw [hasks] at hreplays
    obtain ⟨hanswer, hbus⟩ := BusRequest.eq_ask_of_replays hreplays
    exact ⟨by rw [Option.map_some, Option.map_some, hanswer], hbus⟩

end Runs

/-! ## Packets that are handled -/

namespace World

section AnyBus

variable {β γ : Type} [Bus β] [Outlets γ]

/-- What handling a packet does, and the world that it leaves behind. A packet with a fault does
    nothing. -/
def handled (w : World β γ) (registry : Registry) (p : Packet) : List Effect × World β γ :=
  match w.handle registry p with
  | .ok result => result
  | .error _ => ([], w)

/-- The requests of the bus among the effects of handling a packet. -/
def asked (w : World β γ) (registry : Registry) (p : Packet) : List Effect :=
  (w.handled registry p).1.filter Effect.isBusRequest

/-- A packet that is not accepted leaves the bus alone. -/
theorem handled_of_unaccepted {w : World β γ} {registry : Registry} {p : Packet}
    (h : ∀ request, receive registry (Outlets.isOpen w.outlets p.connection) p.bytes ≠
      .ok (.accepted request)) :
    w.asked registry p = [] ∧ (w.handled registry p).2.bus = w.bus := by
  simp only [asked, handled, handle, accept]
  cases hreceive : receive registry (Outlets.isOpen w.outlets p.connection) p.bytes with
  | error e => exact ⟨rfl, rfl⟩
  | ok reception =>
    cases reception with
    | skipped => exact ⟨rfl, rfl⟩
    | accepted request => exact absurd hreceive (h request)

/-- A packet asks the bus for what it asks for by its bytes, once, and only on an open
    connection. -/
theorem exists_asked (w : World β γ) (registry : Registry) (p : Packet) :
    ∃ r? : Option BusRequest,
      (∀ r, r? = some r ↔
        Outlets.isOpen w.outlets p.connection = true ∧ AsksFor registry p.bytes r) ∧
      w.asked registry p = (r?.map fun r => r.answered (r.ask w.bus).1).toList ∧
      (w.handled registry p).2.bus = (r?.map fun r => (r.ask w.bus).2).getD w.bus := by
  by_cases haccepted : ∃ request,
      receive registry (Outlets.isOpen w.outlets p.connection) p.bytes = .ok (.accepted request)
  · obtain ⟨request, hreceive⟩ := haccepted
    have hopen := isOpen_of_receive hreceive
    rw [hopen] at hreceive
    have hhandled : w.handled registry p = request.task.run p.connection w := by
      rw [handled, handle_of_receive hopen hreceive]
    refine ⟨request.busRequest?, fun r => ?_, ?_⟩
    · rw [asksFor_iff]
      constructor
      · exact fun hasks => ⟨hopen, request, hreceive, hasks⟩
      · rintro ⟨-, other, hother, hasks⟩
        rw [hreceive] at hother
        cases hother
        exact hasks
    · rw [asked, hhandled]
      exact request.filter_isBusRequest_run p.connection w
  · have hrefused := not_exists.1 haccepted
    refine ⟨none, fun r => ?_, handled_of_unaccepted hrefused⟩
    constructor
    · exact fun h => nomatch h
    · rintro ⟨hopen, hasks⟩
      obtain ⟨request, hreceive, -⟩ := asksFor_iff.1 hasks
      rw [hopen] at hrefused
      exact absurd hreceive (hrefused request)

end AnyBus

section InMemory

variable {γ : Type} [Outlets γ]

/-- Handling a packet writes a value into a bus in memory: the packet asks for it on an open
    connection, and the bus acknowledges writes. -/
def Writes (w : World MemoryBus γ) (registry : Registry) (p : Packet) (a : GroupAddress)
    (v : DatapointValue) : Prop :=
  Outlets.isOpen w.outlets p.connection = true ∧ AsksFor registry p.bytes (.write a v) ∧
    (w.bus.mode = .acknowledgeKnown ∨ w.bus.mode = .acknowledgeAll)

end InMemory

end World

/-! ## Requests of a bus in memory -/

namespace MemoryBus

theorem isAcknowledged_writeAnswer_iff {b : MemoryBus} :
    b.writeAnswer.isAcknowledged = true ↔
      b.mode = .acknowledgeKnown ∨ b.mode = .acknowledgeAll := by
  unfold writeAnswer
  cases b.mode <;> simp [BusAnswer.isAcknowledged]

/-- A request leaves the mode as it is and is counted. -/
theorem mode_ask (b : MemoryBus) (r : BusRequest) :
    (r.ask b).2.mode = b.mode ∧ (r.ask b).2.requestCount = b.requestCount + 1 := by
  cases r <;> exact ⟨rfl, rfl⟩

/-- A write that the bus acknowledges changes the value of its address only. -/
theorem lastValue_ask_write {b : MemoryBus} (h : b.writeAnswer.isAcknowledged = true)
    (a x : GroupAddress) (v : DatapointValue) :
    ((BusRequest.write a v).ask b).2.pool.lastValue x =
      if x = a then some v.bytes else b.pool.lastValue x := by
  have hpool : ((BusRequest.write a v).ask b).2.pool = b.pool.set a v.bytes := if_pos h
  rw [hpool, StatusPool.lastValue_set]

/-- The values change for no other request. -/
theorem pool_ask {b : MemoryBus} {r : BusRequest}
    (h : ∀ a v, r = .write a v → b.writeAnswer.isAcknowledged = false) :
    (r.ask b).2.pool = b.pool := by
  cases r with
  | read a => rfl
  | write a v => exact if_neg (by rw [h a v rfl]; exact Bool.false_ne_true)

end MemoryBus

/-! ## The bus before and after -/

namespace World

/-- Handling a packet asks the bus at most once, and exactly for what the packet asks for by its
    bytes, on an open connection: the address of a read, or the value of a write. The answer is the
    one that the bus gives, and the bus is left as the request leaves it. A bus in memory keeps its
    mode and counts the request; its values change only for a write that it acknowledges, at the
    address of the write alone. -/
theorem handled_bus_exact (registry : Registry) (p : Packet) :
    (∀ {β γ : Type} [Bus β] [Outlets γ] (w : World β γ), ∃ r? : Option BusRequest,
      (∀ r, r? = some r ↔
        Outlets.isOpen w.outlets p.connection = true ∧ AsksFor registry p.bytes r) ∧
      w.asked registry p = (r?.map fun r => r.answered (r.ask w.bus).1).toList ∧
      (w.handled registry p).2.bus = (r?.map fun r => (r.ask w.bus).2).getD w.bus) ∧
    ∀ {γ : Type} [Outlets γ] (w : World MemoryBus γ),
      let after := (w.handled registry p).2.bus
      after.mode = w.bus.mode ∧
      after.requestCount = w.bus.requestCount + (w.asked registry p).length ∧
      (∀ a v, w.Writes registry p a v → ∀ x,
        after.pool.lastValue x = if x = a then some v.bytes else w.bus.pool.lastValue x) ∧
      ((∀ a v, ¬w.Writes registry p a v) → after.pool = w.bus.pool) := by
  refine ⟨fun w => w.exists_asked registry p, fun w => ?_⟩
  obtain ⟨r?, hasks, hasked, hbus⟩ := w.exists_asked registry p
  simp only [hasked, hbus]
  cases r? with
  | none =>
    refine ⟨rfl, rfl, fun a v hwrites => ?_, fun _ => rfl⟩
    cases (hasks (.write a v)).2 ⟨hwrites.1, hwrites.2.1⟩
  | some r =>
    obtain ⟨hmode, hcount⟩ := w.bus.mode_ask r
    refine ⟨hmode, hcount, fun a v hwrites => ?_, fun hnever => ?_⟩
    · obtain ⟨hopen, hfor, hack⟩ := hwrites
      cases (hasks (.write a v)).2 ⟨hopen, hfor⟩
      intro x
      exact MemoryBus.lastValue_ask_write (MemoryBus.isAcknowledged_writeAnswer_iff.2 hack) a x v
    · refine MemoryBus.pool_ask ?_
      rintro a v rfl
      obtain ⟨hopen, hfor⟩ := (hasks _).1 rfl
      exact Bool.not_eq_true _ ▸ fun hack =>
        hnever a v ⟨hopen, hfor, MemoryBus.isAcknowledged_writeAnswer_iff.1 hack⟩

/-- A lamp is switched on with bytes behind the frame, on a bus that acknowledges and on one that
    does not. -/
theorem handled_bus_exact_switch :
    ∃ w refusing : World MemoryBus ScriptedConnection, ∃ p : Packet, ∃ v : DatapointValue,
      v.bytes = [1] ∧ w.Writes .reference p ⟨2564⟩ v ∧
      (w.handled .reference p).2.bus.pool.lastValue ⟨2564⟩ = some [1] ∧
      (w.handled .reference p).2.bus.pool.lastValue ⟨2563⟩ = none ∧
      (∀ a u, ¬refusing.Writes .reference p a u) ∧
      (refusing.handled .reference p).2.bus.pool = refusing.bus.pool := by
  let w : World MemoryBus ScriptedConnection := ⟨.initial, ⟨true, []⟩, .zero⟩
  let refusing : World MemoryBus ScriptedConnection := ⟨⟨.rejectAll, .empty, 0⟩, ⟨true, []⟩, .zero⟩
  let p : Packet := ⟨0, [1, 1, 8, 10, 4, 0, 1, 0, 1, 111, 110, 255]⟩
  have hstart : StartsWithRequest p.bytes .writeRequest ⟨2564⟩ ⟨1, 1⟩ [111, 110] :=
    ⟨by decide, [255], rfl⟩
  have hparse : (Registry.reference.resolve ⟨1, 1⟩).parse (Argument.tokenize [111, 110]) =
      .ok ⟨⟨1, 1⟩, [1], "on"⟩ := rfl
  have hwrites : w.Writes .reference p ⟨2564⟩ ⟨⟨1, 1⟩, [1], "on"⟩ :=
    ⟨rfl, .write hstart (by decide) hparse, Or.inl rfl⟩
  have hnever : ∀ a u, ¬refusing.Writes .reference p a u := by
    rintro a u ⟨-, -, hmode | hmode⟩ <;> cases hmode
  obtain ⟨-, -, hvalues, -⟩ := (handled_bus_exact .reference p).2 w
  obtain ⟨-, -, -, hkept⟩ := (handled_bus_exact .reference p).2 refusing
  exact ⟨w, refusing, p, _, rfl, hwrites, hvalues _ _ hwrites ⟨2564⟩, hvalues _ _ hwrites ⟨2563⟩,
    hnever, hkept hnever⟩

end World

end KnxGateway
