import KnxGateway.Client.Reply
import KnxGateway.Dispatch.RequestTask

set_option autoImplicit false

/-! # Frames of responses

A response whose payload is not too long has one frame, and the frame stands for that response
again. A message is cut to the longest prefix of whole characters that fits into a payload, so
that a response with a cut message always has a frame. -/

namespace KnxGateway

open Text

/-! ## The longest prefix that fits -/

/-- `p` is the longest prefix of a text whose characters take at most `limit` bytes together. -/
def Text.Utf8.IsLongestFit (limit : Nat) (s p : List Char) : Prop :=
  p <+: s ∧ Utf8.size p ≤ limit ∧ ∀ q, q <+: s → Utf8.size q ≤ limit → q <+: p

theorem Text.Utf8.isLongestFit_takeBytes (limit : Nat) (s : List Char) :
    Utf8.IsLongestFit limit s (Utf8.takeBytes limit s) := by
  refine ⟨Utf8.takeBytes_isInitial limit s, Utf8.size_takeBytes_le limit s, ?_⟩
  induction s generalizing limit with
  | nil => exact fun q hq _ => by simpa [Utf8.takeBytes] using hq
  | cons c rest ih =>
    intro q hq hsize
    cases q with
    | nil => exact List.nil_prefix
    | cons d q =>
      obtain ⟨rfl, hrest⟩ := List.cons_prefix_cons.1 hq
      rw [Utf8.size_cons] at hsize
      have hfits : Utf8.charSize d ≤ limit := by omega
      rw [Utf8.takeBytes, if_pos hfits]
      exact List.cons_prefix_cons.2 ⟨rfl, ih _ _ hrest (by omega)⟩

/-- There is only one longest prefix that fits. -/
theorem Text.Utf8.IsLongestFit.eq {limit : Nat} {s p q : List Char}
    (hp : Utf8.IsLongestFit limit s p) (hq : Utf8.IsLongestFit limit s q) : p = q := by
  obtain ⟨hstarts, hsize, hlongest⟩ := hp
  obtain ⟨hstarts', hsize', hlongest'⟩ := hq
  have hpq : p <+: q := hlongest' p hstarts hsize
  have hqp : q <+: p := hlongest q hstarts' hsize'
  exact hpq.eq_of_length_le hqp.length_le

/-! ## Frames -/

/-- The reply that a frame stands for: the action of its header and the body behind it. -/
def Reply.ofFrame (frame : List UInt8) : Except FormatError Reply := do
  let header ← Header.decode frame
  let body ← header.bodyOf frame
  return ⟨header.action, ← Response.decode body⟩

/-- The frame of a response stands for it again, whatever follows it. -/
theorem Reply.ofFrame_frameOf_append (action : Action) {r : Response}
    (h : r.payload.length ≤ maxPayloadLength) (rest : List UInt8) :
    Reply.ofFrame (frameOf action r.encode ++ rest) = .ok ⟨action, r⟩ := by
  have hlen : r.encode.length ≤ 255 := by
    rw [Response.length_encode]
    simp only [responseFieldsLength, maxPayloadLength] at h ⊢
    omega
  have hheader := decode_frameOf_append action r.encode rest
  have hbody := bodyOf_frameOf_append action r.encode rest hlen
  simp only [Reply.ofFrame, hheader, hbody, Response.decode_encode, bind, Except.bind, pure,
    Except.pure]
  rfl

theorem Reply.ofFrame_frameOf (action : Action) {r : Response}
    (h : r.payload.length ≤ maxPayloadLength) :
    Reply.ofFrame (frameOf action r.encode) = .ok ⟨action, r⟩ := by
  simpa using Reply.ofFrame_frameOf_append action h []

theorem length_frameOf_encode (action : Action) (r : Response) :
    (frameOf action r.encode).length = 5 + r.payload.length := by
  rw [length_frameOf, Response.length_encode]
  simp only [headerLength, responseFieldsLength]
  omega

/-! ## Responses with a cut message -/

namespace Response

/-- The last response of a task, with as much of a message as fits. -/
def closing (status : Status) (message : String) : Response :=
  .ofMessage true status (truncateMessage message)

theorem length_payload_closing (status : Status) (message : String) :
    (closing status message).payload.length ≤ maxPayloadLength :=
  length_payload_ofMessage_truncate true status message

@[simp] theorem last_ofMessage (last : Bool) (status : Status) (message : String) :
    (ofMessage last status message).last = last := by
  unfold ofMessage
  split <;> rfl

@[simp] theorem status_ofMessage (last : Bool) (status : Status) (message : String) :
    (ofMessage last status message).status = status := by
  unfold ofMessage
  split <;> rfl

@[simp] theorem last_closing (status : Status) (message : String) :
    (closing status message).last = true :=
  last_ofMessage true status _

@[simp] theorem status_closing (status : Status) (message : String) :
    (closing status message).status = status :=
  status_ofMessage true status _

theorem length_payload_ofStatus (last : Bool) (status : Status) :
    (ofStatus last status).payload.length ≤ maxPayloadLength :=
  Nat.zero_le maxPayloadLength

/-- A last response that tells of a message: its payload holds the longest prefix of whole
    characters that fits, in UTF-8, or nothing when this prefix is blank. -/
structure Concludes (r : Response) (status : Status) (message : String) : Prop where
  isLast : r.last = true
  status_eq : r.status = status
  payload_eq : ∃ p, Utf8.IsLongestFit 253 message.toList p ∧
    r.payload = if isAllBlank p then [] else p.flatMap String.utf8EncodeChar

theorem closing_eq (status : Status) (message : String) :
    closing status message =
      ⟨true, status,
        if isAllBlank (Utf8.takeBytes 253 message.toList) then []
        else (Utf8.takeBytes 253 message.toList).flatMap String.utf8EncodeChar⟩ := by
  simp only [closing, ofMessage, toList_truncateMessage, maxPayloadLength, Utf8.encode_eq_flatMap]
  split <;> rfl

/-- A status and a message allow for one such response only. -/
theorem concludes_iff {r : Response} {status : Status} {message : String} :
    r.Concludes status message ↔ r = closing status message := by
  have hfit := Utf8.isLongestFit_takeBytes 253 message.toList
  rw [closing_eq]
  constructor
  · intro h
    obtain ⟨last, _, payload⟩ := r
    obtain ⟨rfl, rfl, p, hp, rfl⟩ := h
    rw [hp.eq hfit]
  · rintro rfl
    exact ⟨rfl, rfl, _, hfit, rfl⟩

theorem concludes_closing (status : Status) (message : String) :
    (closing status message).Concludes status message :=
  concludes_iff.2 rfl

/-- The response without a payload is the one with an empty message. -/
theorem closing_empty (status : Status) : closing status "" = .ofStatus true status := by
  have hcut : truncateMessage "" = "" := by decide
  simp [closing, hcut, ofMessage, isAllBlank]

end Response

end KnxGateway
