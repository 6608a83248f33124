import KnxGateway.Client.Command
import KnxGateway.Proofs.Dispatch.Replies
import KnxGateway.Proofs.Frame.Decoding
import KnxGateway.Proofs.GroupAddress.Reading

set_option autoImplicit false

/-! # Requests of clients

A client and the gateway share nothing but the layout of a frame. What the client writes into it,
the address, the data point type and the arguments, is what the gateway reads from it, and a
request without a frame is one whose quoted arguments are too long for the length byte.

The requests that a client can be made to send by its command line go further: they name no
reserved address, since no text is read as one, and so no gateway finds fault with the address. -/

namespace KnxGateway

/-! ## Frames of commands -/

/-- What comes behind a step whose errors are renamed is reached with the value of the step. -/
theorem exists_of_mapError_bind {ε ε' α β : Type} {x : Except ε α} {rename : ε → ε'}
    {next : α → Except ε' β} {b : β} (h : x.mapError rename >>= next = .ok b) :
    ∃ a, x = .ok a ∧ next a = .ok b := by
  cases x with
  | error e => cases h
  | ok a => exact ⟨a, rfl, h⟩

/-- The frame of a command is the frame of a request that names a valid address. -/
theorem Command.exists_address_of_frame {command : Command} {frame : List UInt8}
    (h : command.frame = .ok frame) :
    ∃ a id, a.isValid = true ∧
      (frame = encodeRead a id ∨ ∃ values, encodeWrite a id values = .ok frame) := by
  -- the address is read first, then the data point type
  cases command with
  | read address datapoint =>
    simp only [Command.frame] at h
    obtain ⟨a, haddress, h⟩ := exists_of_mapError_bind h
    obtain ⟨id, -, h⟩ := exists_of_mapError_bind h
    cases h
    exact ⟨a, id, GroupAddress.isValid_of_parse haddress, Or.inl rfl⟩
  | write address datapoint values =>
    simp only [Command.frame] at h
    obtain ⟨a, haddress, h⟩ := exists_of_mapError_bind h
    obtain ⟨id, -, h⟩ := exists_of_mapError_bind h
    refine ⟨a, id, GroupAddress.isValid_of_parse haddress, Or.inr ⟨values, ?_⟩⟩
    cases hframe : encodeWrite a id values with
    | error e =>
      rw [hframe] at h
      cases h
    | ok written =>
      rw [hframe] at h
      cases h
      rfl

/-- The frame of a command is accepted as a request that names a valid address. -/
theorem Command.exists_receive {command : Command} {frame : List UInt8}
    (h : command.frame = .ok frame) (registry : Registry) :
    ∃ request, request.address.isValid = true ∧
      receive registry true frame = .ok (.accepted request) := by
  obtain ⟨a, id, hvalid, rfl | ⟨values, hframe⟩⟩ := exists_address_of_frame h
  · exact ⟨.read ⟨a, registry.resolve id⟩, hvalid, receive_encodeRead registry a id⟩
  · exact ⟨.write ⟨a, registry.resolve id, values.filter (· ≠ "")⟩, hvalid,
      receive_encodeWrite registry hframe⟩

/-- A request with a valid address is never answered by the status for wrong addresses. -/
theorem Request.status_ne_of_mem_frames {request : Request}
    (hvalid : request.address.isValid = true) {effects : List Effect}
    (hperforms : RequestTask.Performs request.task effects) {frame : List UInt8}
    (hframe : frame ∈ Effect.frames effects) :
    ∃ reply, Reply.ofFrame frame = .ok reply ∧ reply.body.status ≠ .errorGroupAddress := by
  obtain ⟨answers, rfl⟩ := RequestTask.exists_transcript_of_performs hperforms
  rw [frames_transcript, framesFor] at hframe
  obtain ⟨r, hr, rfl⟩ := List.mem_map.1 hframe
  refine ⟨_, Reply.ofFrame_frameOf _ (length_payload_of_mem_responses hr), ?_⟩
  show r.status ≠ .errorGroupAddress
  rcases eq_of_mem_responses hr with rfl | rfl
  · decide
  · rw [closing, Response.status_closing]
    intro hstatus
    rw [conclusion_eq_errorGroupAddress_iff.1 hstatus] at hvalid
    cases hvalid

/-! ## What the gateway reads -/

/-- The gateway reads from the frame of a request what the client wrote into it, whatever follows
    the frame, and a write has no frame exactly when its quoted arguments are too long. A request
    that comes from a command line is always accepted, and never answered by the status for wrong
    addresses, whatever the bus and the connection do. -/
theorem requests_read_back {β γ : Type} [Bus β] [Outlets γ] (registry : Registry) :
    (∀ (a : GroupAddress) (id : DatapointId) (arguments : List String),
      ((∃ frame, encodeWrite a id arguments = .ok frame) ↔
        (Argument.quote arguments).length ≤ 249) ∧
      (249 < (Argument.quote arguments).length →
        encodeWrite a id arguments =
          .error (.payloadTooLong (Argument.quote arguments).length)) ∧
      ∀ frame, encodeWrite a id arguments = .ok frame →
        (∀ rest, ReadsAs (frame ++ rest) .writeRequest (frame.drop 3)) ∧
        (frame.drop 3).length = 6 + (Argument.quote arguments).length ∧
        WriteRequest.decode registry (frame.drop 3) =
          .ok ⟨a, registry.resolve id, arguments.filter (· ≠ "")⟩) ∧
    (∀ (a : GroupAddress) (id : DatapointId),
      (∀ rest, ReadsAs (encodeRead a id ++ rest) .readRequest ((encodeRead a id).drop 3)) ∧
      ((encodeRead a id).drop 3).length = 6 ∧
      ReadRequest.decode registry ((encodeRead a id).drop 3) = .ok ⟨a, registry.resolve id⟩) ∧
    ∀ (w : World β γ) (c : ConnectionId) (command : Command) (frame : List UInt8),
      command.frame = .ok frame → Outlets.isOpen w.outlets c = true →
        ∃ request : Request, w.handle registry ⟨c, frame⟩ = .ok (request.task.run c w) ∧
          ∀ effects, RequestTask.Performs request.task effects →
            ∀ sent ∈ Effect.frames effects, ∃ reply, Reply.ofFrame sent = .ok reply ∧
              reply.body.status ≠ .errorGroupAddress := by
  refine ⟨fun a id arguments => ⟨?_, encodeWrite_of_lt, fun frame hframe => ?_⟩,
    fun a id => ?_, fun w c command frame hframe hopen => ?_⟩
  · simp only [encodeWrite_eq_ok_iff, exists_and_left, exists_eq, and_true]
  · obtain ⟨hfits, rfl⟩ := encodeWrite_eq_ok_iff.1 hframe
    have hlen := length_requestFields_append a id arguments
    rw [drop_frameOf]
    exact ⟨readsAs_frameOf_append .writeRequest (by omega), hlen,
      WriteRequest.decode_requestFields_append registry a id arguments⟩
  · have hlen : (requestFields a id).length = 6 := length_requestFields a id
    rw [encodeRead, drop_frameOf]
    exact ⟨readsAs_frameOf_append .readRequest (by omega), hlen,
      ReadRequest.decode_requestFields registry a id⟩
  · obtain ⟨request, hvalid, hreceive⟩ := command.exists_receive hframe registry
    refine ⟨request, World.handle_of_receive hopen hreceive, fun effects hperforms sent hsent => ?_⟩
    exact Request.status_ne_of_mem_frames hvalid hperforms hsent

/-- A command with an address in two parts and an empty value, on a bus that is offline. -/
theorem requests_read_back_offline :
    ∃ w : World MemoryBus ScriptedConnection, ∃ frame, ∃ request : Request,
      (Command.write "1/515" "7.600" ["2700", ""]).frame = .ok frame ∧
      w.bus.mode = .offline ∧
      w.handle .reference ⟨0, frame⟩ = .ok (request.task.run 0 w) ∧
      ∀ sent ∈ Effect.frames (request.task.run 0 w).1, ∃ reply, Reply.ofFrame sent = .ok reply ∧
        reply.body.status ≠ .errorGroupAddress := by
  let w : World MemoryBus ScriptedConnection := ⟨⟨.offline, .empty, 0⟩, ⟨true, []⟩, .zero⟩
  have hframe : (Command.write "1/515" "7.600" ["2700", ""]).frame =
      .ok [1, 1, 10, 10, 3, 0, 7, 2, 88, 50, 55, 48, 48] := by rfl
  obtain ⟨request, hhandle, hnever⟩ := (requests_read_back .reference).2.2 w 0 _ _ hframe rfl
  exact ⟨w, _, request, hframe, rfl, hhandle, hnever _ (RequestTask.performs_run 0 _ w)⟩

end KnxGateway
