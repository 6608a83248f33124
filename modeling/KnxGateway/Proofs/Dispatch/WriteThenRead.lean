import KnxGateway.Proofs.Datapoint.Rendering
import KnxGateway.Proofs.Dispatch.Reception
import KnxGateway.Proofs.Dispatch.Undisturbed

set_option autoImplicit false

/-! # Writing a value and reading it back

The arguments of a write travel quoted, are split again and are read by the type of their id. The
bytes of the value go into the pool, and a later read with the same id renders them to the text
that the write was given in the first place. Here all the layers between the two frames come
together. -/

namespace KnxGateway

open Text

variable {γ : Type} [Outlets γ] {registry : Registry}

/-! ## Requests carried out at once -/

/-- The replies to a request that is carried out at once. -/
theorem Request.replies_run (request : Request) (c : ConnectionId) (w : World MemoryBus γ) :
    (Effect.frames (request.task.run c w).1).map Reply.ofFrame =
      (request.responsesOn w.bus).map fun r => .ok ⟨request.responseAction, r⟩ := by
  rw [frames_of_undisturbed (RequestTask.leads_run c request.task w)
    (RequestTask.performs_run c request.task w) (fun _ he => he)]
  · exact request.map_ofFrame_responses _ _
  · rintro r rfl v answer hmem
    have hwritten := (exists_wrote_mem_iff (RequestTask.performs_run c _ w)).1 ⟨answer, hmem⟩
    cases hwritten

/-- The values after a write that is carried out at once. -/
theorem Request.lastValue_run_write {r : WriteRequest} {v : DatapointValue}
    (hvalid : r.address.isValid = true) (hparse : r.datapoint.parse r.arguments = .ok v)
    (c : ConnectionId) {w : World MemoryBus γ} (hanswer : w.bus.writeAnswer = .ok true)
    (x : GroupAddress) :
    ((write r).task.run c w).2.bus.pool.lastValue x =
      if x = r.address then some v.bytes else w.bus.pool.lastValue x := by
  have hleads := RequestTask.leads_run c (write r).task w
  have hperforms := RequestTask.performs_run c (write r).task w
  have hwritten : ∀ y u, (∃ answer, .wrote y u answer ∈ ((write r).task.run c w).1) ↔
      y = r.address ∧ u = v := by
    intro y u
    rw [exists_wrote_mem_iff hperforms]
    simp [written?, hvalid, hparse, eq_comm]
  -- the only write of the task is of this value at this address
  by_cases heq : x = r.address
  · rw [if_pos heq]
    refine MemoryBus.lastValue_of_written hleads (by rw [hanswer]; rfl) ?_
      (Or.inr ⟨v, (hwritten x v).2 ⟨heq, rfl⟩⟩)
    intro u answer hmem
    rw [((hwritten x u).1 ⟨answer, hmem⟩).2]
  · rw [if_neg heq]
    refine MemoryBus.lastValue_of_unwritten hleads fun u answer hmem => heq ?_
    exact ((hwritten x u).1 ⟨answer, hmem⟩).1

/-! ## The two requests together -/

namespace MemoryBus

/-- Whether the bus acknowledges writes, and reads of what it has a value for. -/
def IsCooperative (b : MemoryBus) : Prop :=
  b.mode = .acknowledgeKnown ∨ b.mode = .acknowledgeAll

variable {b : MemoryBus} {a : GroupAddress}

theorem IsCooperative.writeAnswer_eq (h : b.IsCooperative) : b.writeAnswer = .ok true :=
  b.writeAnswer_eq_iff.2 h

theorem IsCooperative.readAnswer_eq (h : b.IsCooperative) {bytes : List UInt8}
    (hvalue : b.pool.lastValue a = some bytes) : b.readAnswer a = .ok true :=
  (b.readAnswer_eq_iff a).2 (h.symm.imp_right fun hmode => ⟨hmode, bytes, hvalue⟩)

end MemoryBus

namespace World

variable {w : World MemoryBus γ} {a : GroupAddress} {id : DatapointId} {v : DatapointValue}

/-- A write of a value that its type reads is acknowledged and changes one value of the pool. -/
theorem handle_encodeWrite (ha : a.raw ≠ 0) {arguments : List String} {frame : List UInt8}
    (hframe : encodeWrite a id arguments = .ok frame)
    (hparse : (registry.resolve id).parse (arguments.filter (· ≠ "")) = .ok v)
    (hbus : w.bus.IsCooperative) {c : ConnectionId}
    (hopen : Outlets.isOpen w.outlets c = true) :
    ∃ effects w', w.handle registry ⟨c, frame⟩ = .ok (effects, w') ∧
      (Effect.frames effects).map Reply.ofFrame =
        [.ok ⟨.writeResponse, ⟨true, .success, []⟩⟩] ∧
      (∀ x, w'.bus.pool.lastValue x =
        if x = a then some v.bytes else w.bus.pool.lastValue x) ∧
      w'.bus.IsCooperative := by
  let r : WriteRequest := ⟨a, registry.resolve id, arguments.filter (· ≠ "")⟩
  have hvalid : r.address.isValid = true := bne_iff_ne.2 ha
  refine ⟨_, _, handle_of_receive hopen (receive_encodeWrite registry hframe), ?_,
    Request.lastValue_run_write (r := r) hvalid hparse c hbus.writeAnswer_eq, ?_⟩
  · rw [Request.replies_run,
      Request.responsesOn_of_write (r := r) hvalid hparse hbus.writeAnswer_eq]
    rfl
  · rw [MemoryBus.IsCooperative,
      MemoryBus.mode_of_leads (RequestTask.leads_run c (Request.write r).task w)]
    exact hbus

/-- A read of an address with a value that its type renders shows that value. -/
theorem handle_encodeRead (ha : a.raw ≠ 0) {bytes : List UInt8}
    (hvalue : w.bus.pool.lastValue a = some bytes) {shown : RenderedValue}
    (hrender : (registry.resolve id).render bytes = .ok shown)
    (hbus : w.bus.IsCooperative) {c : ConnectionId}
    (hopen : Outlets.isOpen w.outlets c = true) :
    ∃ effects w', w.handle registry ⟨c, encodeRead a id⟩ = .ok (effects, w') ∧
      (Effect.frames effects).map Reply.ofFrame =
        [.ok ⟨.readResponse, ⟨false, .success, []⟩⟩,
          .ok ⟨.readResponse, .closing .success shown.display⟩] := by
  let r : ReadRequest := ⟨a, registry.resolve id⟩
  have hvalid : r.address.isValid = true := bne_iff_ne.2 ha
  refine ⟨_, _, handle_of_receive hopen (receive_encodeRead registry a id), ?_⟩
  rw [Request.replies_run,
    Request.responsesOn_of_read (r := r) hvalid (hbus.readAnswer_eq hvalue) hvalue hrender]
  rfl

/-- A value that a registered type reads from the arguments of a write is acknowledged with one
    empty response and becomes the last value of its address, and of no other. Any later read of
    the address with the same id gets two responses: an empty one, and a last one with the text of
    the value and the unit of its type, cut to what fits into a payload. -/
theorem read_after_write {dpts : List DatapointType}
    (hnative : ∀ dpt ∈ dpts, dpt.isNative = true)
    (hregistry : registry = Registry.empty.registerAll dpts)
    (ha : a.raw ≠ 0) {arguments : List String} {frame : List UInt8}
    (hframe : encodeWrite a id arguments = .ok frame)
    (hparse : (registry.resolve id).parse (arguments.filter (· ≠ "")) = .ok v)
    (hbus : w.bus.IsCooperative) {c : ConnectionId}
    (hopen : Outlets.isOpen w.outlets c = true) :
    ∃ effects w', w.handle registry ⟨c, frame⟩ = .ok (effects, w') ∧
      (Effect.frames effects).map Reply.ofFrame =
        [.ok ⟨.writeResponse, ⟨true, .success, []⟩⟩] ∧
      (∀ x, w'.bus.pool.lastValue x =
        if x = a then some v.bytes else w.bus.pool.lastValue x) ∧
      ∀ c', Outlets.isOpen w'.outlets c' = true →
        ∃ effects' w'' final,
          w'.handle registry ⟨c', encodeRead a id⟩ = .ok (effects', w'') ∧
          (Effect.frames effects').map Reply.ofFrame =
            [.ok ⟨.readResponse, ⟨false, .success, []⟩⟩, .ok ⟨.readResponse, final⟩] ∧
          final.Concludes .success
            (if (registry.resolve id).unit = "" then v.text
              else v.text ++ " " ++ (registry.resolve id).unit) := by
  -- the same type reads the arguments and renders the bytes
  have hrender : (registry.resolve id).render v.bytes =
      .ok ⟨v.text, (registry.resolve id).unit⟩ := by
    rw [hregistry] at hparse ⊢
    exact DatapointType.render_of_parse (Registry.isNative_resolve hnative id) hparse
  obtain ⟨effects, w', hwrite, hreplies, hvalues, hbus'⟩ :=
    handle_encodeWrite ha hframe hparse hbus hopen
  refine ⟨effects, w', hwrite, hreplies, hvalues, fun c' hopen' => ?_⟩
  have hvalue : w'.bus.pool.lastValue a = some v.bytes := by rw [hvalues, if_pos rfl]
  obtain ⟨effects', w'', hread, hreplies'⟩ :=
    handle_encodeRead ha hvalue hrender hbus' hopen'
  refine ⟨effects', w'', _, hread, hreplies', ?_⟩
  rw [RenderedValue.display_eq]
  exact Response.concludes_closing ..

/-- A colour temperature that one client writes, with an empty argument behind it, and another
    client reads as "2700 K". -/
theorem read_after_write_temperature :
    ∃ w w' : World MemoryBus ScriptedConnection, ∃ effects effects' w'',
      w.handle .reference ⟨0, [1, 1, 10, 10, 3, 0, 7, 2, 88, 50, 55, 48, 48]⟩ =
        .ok (effects, w') ∧
      (Effect.frames effects).map Reply.ofFrame =
        [.ok ⟨.writeResponse, ⟨true, .success, []⟩⟩] ∧
      w'.bus.pool.lastValue ⟨2563⟩ = some [10, 140] ∧
      w'.handle .reference ⟨1, encodeRead ⟨2563⟩ ⟨7, 600⟩⟩ = .ok (effects', w'') ∧
      (Effect.frames effects').map Reply.ofFrame =
        [.ok ⟨.readResponse, ⟨false, .success, []⟩⟩,
          .ok ⟨.readResponse, ⟨true, .success, [50, 55, 48, 48, 32, 75]⟩⟩] := by
  let w : World MemoryBus ScriptedConnection := ⟨.initial, ⟨true, []⟩, .zero⟩
  have hnative : ∀ dpt ∈ Registry.referenceTypes, dpt.isNative = true := by decide
  have hframe : encodeWrite ⟨2563⟩ ⟨7, 600⟩ ["2700", ""] =
      .ok [1, 1, 10, 10, 3, 0, 7, 2, 88, 50, 55, 48, 48] := rfl
  have hparse : (Registry.reference.resolve ⟨7, 600⟩).parse (["2700", ""].filter (· ≠ "")) =
      .ok ⟨⟨7, 600⟩, [10, 140], "2700"⟩ := rfl
  have hbus : w.bus.IsCooperative := Or.inl rfl
  obtain ⟨effects, w', hwrite, hreplies, hvalues, hread⟩ :=
    read_after_write (w := w) (c := 0) hnative rfl (by decide) hframe hparse hbus rfl
  have hopen : Outlets.isOpen w'.outlets 1 = true := by
    cases hwrite
    rfl
  obtain ⟨effects', w'', final, hhandle, hreplies', hfinal⟩ := hread 1 hopen
  have hshown : final = ⟨true, .success, [50, 55, 48, 48, 32, 75]⟩ :=
    (Response.concludes_iff.1 hfinal).trans (by decide)
  rw [hshown] at hreplies'
  exact ⟨w, w', effects, effects', w'', hwrite, hreplies, hvalues ⟨2563⟩, hhandle, hreplies'⟩

end World

end KnxGateway
