import KnxGateway.Dispatch.Dispatcher
import KnxGateway.Proofs.Argument.Quoting

set_option autoImplicit false

/-! # Packets that start with a request frame

A packet on an open connection is read as the frame it starts with. What follows that frame
changes nothing, so that a packet with several request frames asks for the first of them only. -/

namespace KnxGateway

variable (registry : Registry)

/-! ## Frames as clients write them -/

section Encoding

variable {a : GroupAddress} {id : DatapointId} {arguments : List String}

theorem encodeWrite_of_le (h : (Argument.quote arguments).length ≤ 249) :
    encodeWrite a id arguments =
      .ok (frameOf .writeRequest (requestFields a id ++ Argument.quote arguments)) :=
  if_pos (by simp only [requestFieldsLength]; omega)

theorem encodeWrite_of_lt (h : 249 < (Argument.quote arguments).length) :
    encodeWrite a id arguments = .error (.payloadTooLong (Argument.quote arguments).length) :=
  if_neg (by simp only [requestFieldsLength]; omega)

/-- A write has a frame when the length byte can count its quoted arguments behind the fields. -/
theorem encodeWrite_eq_ok_iff {frame : List UInt8} :
    encodeWrite a id arguments = .ok frame ↔
      (Argument.quote arguments).length ≤ 249 ∧
        frame = frameOf .writeRequest (requestFields a id ++ Argument.quote arguments) := by
  rcases Nat.lt_or_ge 249 (Argument.quote arguments).length with hlong | hfits
  · rw [encodeWrite_of_lt hlong]
    simp only [reduceCtorEq, false_iff, not_and]
    intro hfits
    omega
  · rw [encodeWrite_of_le hfits]
    simp only [Except.ok.injEq, hfits, true_and]
    exact eq_comm

/-- The quoted arguments follow the six bytes of the fields. -/
theorem length_requestFields_append (a : GroupAddress) (id : DatapointId)
    (arguments : List String) :
    (requestFields a id ++ Argument.quote arguments).length =
      6 + (Argument.quote arguments).length := by
  rw [List.length_append, length_requestFields, requestFieldsLength]

theorem ReadRequest.decode_requestFields (a : GroupAddress) (id : DatapointId) :
    decode registry (requestFields a id) = .ok ⟨a, registry.resolve id⟩ := by
  have hfields := readRequestFields_append .readRequestBody registry a id []
  rw [List.append_nil] at hfields
  rw [decode, hfields]
  rfl

theorem WriteRequest.decode_requestFields_append (a : GroupAddress) (id : DatapointId)
    (arguments : List String) :
    decode registry (requestFields a id ++ Argument.quote arguments) =
      .ok ⟨a, registry.resolve id, arguments.filter (· ≠ "")⟩ := by
  rw [decode, readRequestFields_append, ← Argument.tokenize_quote]
  rfl

end Encoding

/-- A packet that starts with the frame of a body is read by the action of the frame. -/
theorem receive_frameOf_append (action : Action) {body : List UInt8} (hlen : body.length ≤ 255)
    (rest : List UInt8) :
    receive registry true (frameOf action body ++ rest) =
      match action with
      | .readRequest => (ReadRequest.decode registry body).map fun r => .accepted (.read r)
      | .writeRequest => (WriteRequest.decode registry body).map fun r => .accepted (.write r)
      | action => .error (.unexpectedAction action) := by
  have hnonempty : (frameOf action body ++ rest).isEmpty = false := rfl
  have hheader := decode_frameOf_append action body rest
  have hbody := bodyOf_frameOf_append action body rest hlen
  simp only [receive, hnonempty, hheader, bind, Except.bind, hbody]
  cases action with
  | readRequest => cases ReadRequest.decode registry body <;> rfl
  | writeRequest => cases WriteRequest.decode registry body <;> rfl
  | readResponse | writeResponse | generalMessage => rfl

theorem receive_encodeRead_append (a : GroupAddress) (id : DatapointId) (rest : List UInt8) :
    receive registry true (encodeRead a id ++ rest) =
      .ok (.accepted (.read ⟨a, registry.resolve id⟩)) := by
  have hlen : (requestFields a id).length ≤ 255 := by
    rw [length_requestFields]
    decide
  rw [encodeRead, receive_frameOf_append registry _ hlen]
  simp only [ReadRequest.decode_requestFields]
  rfl

theorem receive_encodeRead (a : GroupAddress) (id : DatapointId) :
    receive registry true (encodeRead a id) =
      .ok (.accepted (.read ⟨a, registry.resolve id⟩)) := by
  rw [← List.append_nil (encodeRead a id), receive_encodeRead_append]

theorem receive_encodeWrite_append {a : GroupAddress} {id : DatapointId}
    {arguments : List String} {frame : List UInt8} (h : encodeWrite a id arguments = .ok frame)
    (rest : List UInt8) :
    receive registry true (frame ++ rest) =
      .ok (.accepted (.write ⟨a, registry.resolve id, arguments.filter (· ≠ "")⟩)) := by
  obtain ⟨hfits, rfl⟩ := encodeWrite_eq_ok_iff.1 h
  have hlen : (requestFields a id ++ Argument.quote arguments).length ≤ 255 := by
    rw [length_requestFields_append]
    omega
  rw [receive_frameOf_append registry _ hlen]
  simp only [WriteRequest.decode_requestFields_append]
  rfl

theorem receive_encodeWrite {a : GroupAddress} {id : DatapointId} {arguments : List String}
    {frame : List UInt8} (h : encodeWrite a id arguments = .ok frame) :
    receive registry true frame =
      .ok (.accepted (.write ⟨a, registry.resolve id, arguments.filter (· ≠ "")⟩)) := by
  rw [← List.append_nil frame, receive_encodeWrite_append registry h]

/-! ## Any request frame -/

/-- Bytes that are exactly one frame of a request: an action that clients may send, and a body
    with at least the fixed fields of a request. -/
def IsRequestFrame (frame : List UInt8) : Prop :=
  ∃ action body, action.isRequest = true ∧ requestFieldsLength ≤ body.length ∧
    body.length ≤ 255 ∧ frame = frameOf action body

theorem isRequestFrame_encodeRead (a : GroupAddress) (id : DatapointId) :
    IsRequestFrame (encodeRead a id) := by
  have hlen := length_requestFields a id
  exact ⟨.readRequest, requestFields a id, rfl, Nat.le_of_eq hlen.symm, by rw [hlen]; decide, rfl⟩

/-- The fields of a request can be read from every body that is long enough. -/
theorem exists_readRequestFields (part : FramePart) {body : List UInt8}
    (h : requestFieldsLength ≤ body.length) :
    ∃ fields, readRequestFields part registry body = .ok fields := by
  match body, h with
  | _ :: _ :: _ :: _ :: _ :: _ :: rest, _ => exact ⟨_, rfl⟩

/-- A packet that starts with a request frame asks for the request of that frame, whatever else
    the packet holds. -/
theorem exists_receive_append {frame : List UInt8} (h : IsRequestFrame frame) :
    ∃ request, ∀ rest, receive registry true (frame ++ rest) = .ok (.accepted request) := by
  obtain ⟨action, body, haction, hleast, hmost, rfl⟩ := h
  cases action with
  | readRequest =>
    obtain ⟨⟨a, dpt, tail⟩, hfields⟩ :=
      exists_readRequestFields registry .readRequestBody hleast
    refine ⟨.read ⟨a, dpt⟩, fun rest => ?_⟩
    rw [receive_frameOf_append registry _ hmost]
    simp only [ReadRequest.decode, hfields]
    rfl
  | writeRequest =>
    obtain ⟨⟨a, dpt, tail⟩, hfields⟩ :=
      exists_readRequestFields registry .writeRequestBody hleast
    refine ⟨.write ⟨a, dpt, Argument.tokenize tail⟩, fun rest => ?_⟩
    rw [receive_frameOf_append registry _ hmost]
    simp only [WriteRequest.decode, hfields]
    rfl
  -- no client sends the other actions
  | readResponse | writeResponse | generalMessage => simp [Action.isRequest] at haction

end KnxGateway
