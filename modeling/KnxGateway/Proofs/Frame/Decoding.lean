import KnxGateway.Frame.Response

set_option autoImplicit false

/-! # Frames are read as they were written

A frame counts its body in one byte, and a reader takes as many bytes as the header declares. So
a frame is read as the action and the body that it was written for, whatever follows it in the
packet. This holds for frames of requests and of responses alike.

The body of a response is read back whole. The other way round, bytes that were read as the body
of a response are written again as they were, except that the reserved byte and the three bits of
the flags that mean nothing become zero. -/

namespace KnxGateway

/-! ## Packets that start with a frame -/

/-- A packet is read as a frame of the given action and body: the header is of version 1, its
    length byte is the number of bytes of the body, with nothing cut off, and the body is what the
    header declares. -/
def ReadsAs (packet : List UInt8) (action : Action) (body : List UInt8) : Prop :=
  ∃ header, Header.decode packet = .ok header ∧ header.version = 1 ∧ header.action = action ∧
    header.bodyLength.toNat = body.length ∧ header.bodyOf packet = .ok body

theorem readsAs_frameOf_append (action : Action) {body : List UInt8} (hlen : body.length ≤ 255)
    (rest : List UInt8) : ReadsAs (frameOf action body ++ rest) action body := by
  have hcount : (Header.ofBody action body).bodyLength.toNat = body.length := by
    simp [Header.ofBody]
    omega
  exact ⟨Header.ofBody action body, decode_frameOf_append action body rest, rfl, rfl, hcount,
    bodyOf_frameOf_append action body rest hlen⟩

theorem drop_frameOf (action : Action) (body : List UInt8) : (frameOf action body).drop 3 = body :=
  rfl

/-! ## The bits of the flags -/

/-- The four lowest bits of a byte are its remainder by 16. -/
theorem and_0F (b : UInt8) : b &&& 0x0F = UInt8.ofNat (b.toNat % 16) := by
  have hbits : b.toNat &&& 15 = b.toNat % 16 := Nat.and_two_pow_sub_one_eq_mod b.toNat 4
  apply UInt8.toNat_inj.1
  rw [UInt8.toNat_and]
  simp [hbits]
  omega

/-- Without the bits from 6 to 4, a byte keeps its highest bit and its four lowest. -/
theorem toNat_and_8F (b : UInt8) :
    (b &&& 0x8F).toNat = (if 128 ≤ b.toNat then 128 else 0) + b.toNat % 16 := by
  have hbits : ∀ n < 256, n &&& 0x8F = (if 128 ≤ n then 128 else 0) + n % 16 := by decide +kernel
  rw [UInt8.toNat_and]
  exact hbits b.toNat b.toNat_lt

theorem Status.code_of_ofCode? {code : UInt8} {status : Status} (h : ofCode? code = some status) :
    status.code = code := by
  simpa using List.find?_some h

namespace Response

/-- Writing flags that were read clears the bits that mean nothing. -/
theorem flags_of_code {b : UInt8} {status : Status} (h : status.code = b &&& 0x0F) :
    flags (128 ≤ b.toNat) status = b &&& 0x8F := by
  have hcode : status.code.toNat = b.toNat % 16 := by
    rw [h, and_0F]
    simp
    omega
  apply UInt8.toNat_inj.1
  rw [toNat_and_8F, flags, hcode]
  by_cases hlast : 128 ≤ b.toNat <;> simp [hlast] <;> omega

/-! ## Bodies of responses -/

theorem decode_of_length_lt {body : List UInt8} (h : body.length < 2) :
    decode body = .error (.tooShort .responseBody 2 body.length) := by
  match body, h with
  | [], _ | [_], _ => rfl

variable {b reserved : UInt8} {payload : List UInt8}

/-- The four lowest bits of the flags decide whether a body is read. -/
theorem decode_of_le (h : b &&& 0x0F ≤ 6) :
    ∃ status, status.code = b &&& 0x0F ∧
      decode (b :: reserved :: payload) = .ok ⟨128 ≤ b.toNat, status, payload⟩ := by
  have hknown : Status.ofCode? (b &&& 0x0F) ≠ none := by
    intro hnone
    exact absurd ((Status.ofCode?_eq_none_iff _).1 hnone) (Nat.not_lt.2 h)
  obtain ⟨status, hstatus⟩ := Option.ne_none_iff_exists'.1 hknown
  refine ⟨status, Status.code_of_ofCode? hstatus, ?_⟩
  rw [and_0F] at hstatus
  simp only [decode, hstatus]

theorem decode_of_lt (h : 6 < b &&& 0x0F) :
    decode (b :: reserved :: payload) = .error (.unknownStatus (b &&& 0x0F)) := by
  have hunknown : Status.ofCode? (b &&& 0x0F) = none := (Status.ofCode?_eq_none_iff _).2 h
  rw [and_0F] at hunknown ⊢
  simp only [decode, hunknown]

theorem decode_of_unknown {body : List UInt8} (hlen : 2 ≤ body.length)
    (h : 6 < body.headD 0 &&& 0x0F) :
    decode body = .error (.unknownStatus (body.headD 0 &&& 0x0F)) := by
  match body, hlen with
  | b :: reserved :: payload, _ => exact decode_of_lt h

/-- A body is read exactly when it has the two fields and its status is known. -/
theorem exists_decode_iff {body : List UInt8} :
    (∃ r, decode body = .ok r) ↔ 2 ≤ body.length ∧ body.headD 0 &&& 0x0F ≤ 6 := by
  match body with
  | [] | [_] => simp [decode]
  | b :: reserved :: payload =>
    constructor
    · rintro ⟨r, hr⟩
      refine ⟨by simp, UInt8.not_lt.1 fun (hunknown : 6 < b &&& 0x0F) => ?_⟩
      rw [decode_of_lt hunknown] at hr
      cases hr
    · rintro ⟨-, hknown⟩
      obtain ⟨status, -, hdecode⟩ := decode_of_le hknown
      exact ⟨_, hdecode⟩

/-- A body that was read is written as before, up to the bits and the byte that mean nothing. -/
theorem encode_of_decode {body : List UInt8} {r : Response} (h : decode body = .ok r) :
    r.encode = (body.headD 0 &&& 0x8F) :: 0 :: body.drop 2 := by
  obtain ⟨hlen, hknown⟩ := exists_decode_iff.1 ⟨r, h⟩
  match body, hlen with
  | b :: reserved :: payload, _ =>
    obtain ⟨status, hcode, hdecode⟩ :
        ∃ status, status.code = b &&& 0x0F ∧
          decode (b :: reserved :: payload) = .ok ⟨128 ≤ b.toNat, status, payload⟩ :=
      decode_of_le hknown
    rw [hdecode] at h
    cases h
    rw [encode, flags_of_code hcode]
    rfl

/-! ## Frames of responses -/

theorem frame_of_le (action : Action) {r : Response} (h : r.payload.length ≤ 253) :
    r.frame action = .ok (frameOf action r.encode) :=
  if_pos h

theorem frame_of_lt (action : Action) {r : Response} (h : 253 < r.payload.length) :
    r.frame action = .error (.payloadTooLong r.payload.length) :=
  if_neg (Nat.not_le.2 h)

/-- A response has a frame exactly when its payload is not too long, and then every packet that
    starts with the frame is read as that response. Any bytes that are read as the body of a
    response are those that the response is written as, but for the bits and the byte that mean
    nothing. -/
theorem frame_decode_inverse :
    (∀ (action : Action) (r : Response),
      (r.frame action = .error (.payloadTooLong r.payload.length) ↔ 253 < r.payload.length) ∧
      (r.payload.length ≤ 253 → ∃ frame, r.frame action = .ok frame ∧
        frame.length = 5 + r.payload.length ∧
        ∀ rest, ∃ body, ReadsAs (frame ++ rest) action body ∧
          body.length = r.payload.length + 2 ∧ decode body = .ok r)) ∧
    ∀ body : List UInt8,
      ((∃ r, decode body = .ok r) ↔ 2 ≤ body.length ∧ body.headD 0 &&& 0x0F ≤ 6) ∧
      (body.length < 2 → decode body = .error (.tooShort .responseBody 2 body.length)) ∧
      (2 ≤ body.length → 6 < body.headD 0 &&& 0x0F →
        decode body = .error (.unknownStatus (body.headD 0 &&& 0x0F))) ∧
      ∀ r, decode body = .ok r →
        r.encode = (body.headD 0 &&& 0x8F) :: 0 :: body.drop 2 := by
  constructor
  · intro action r
    have hbody : r.encode.length = r.payload.length + 2 := by
      rw [length_encode, Nat.add_comm]
      rfl
    constructor
    · constructor
      · intro herror
        refine Nat.not_le.1 fun hfits => ?_
        rw [frame_of_le action hfits] at herror
        cases herror
      · exact frame_of_lt action
    · intro hfits
      refine ⟨_, frame_of_le action hfits, ?_, fun rest => ⟨r.encode, ?_, hbody, decode_encode r⟩⟩
      · rw [length_frameOf, hbody, headerLength]
        omega
      · exact readsAs_frameOf_append action (by omega) rest
  · intro body
    exact ⟨exists_decode_iff, decode_of_length_lt, decode_of_unknown, fun r => encode_of_decode⟩

/-- A payload of the greatest length with a byte behind its frame, and a body whose meaningless
    bits are all set. -/
theorem frame_decode_inverse_longest :
    (∃ frame, (mk true .error (List.replicate 253 120)).frame .generalMessage = .ok frame ∧
      frame.length = 258 ∧
      ∃ body, ReadsAs (frame ++ [1]) .generalMessage body ∧
        decode body = .ok (mk true .error (List.replicate 253 120))) ∧
    ∃ r, decode [0xF6, 0x55, 0x41] = .ok r ∧ r.encode = [0x86, 0, 0x41] := by
  obtain ⟨hframes, hbodies⟩ := frame_decode_inverse
  have hpayload : (List.replicate 253 (120 : UInt8)).length = 253 := List.length_replicate
  obtain ⟨frame, hframe, hlength, hreads⟩ :=
    (hframes .generalMessage (mk true .error (List.replicate 253 120))).2 (Nat.le_of_eq hpayload)
  simp only [List.length_replicate] at hlength
  obtain ⟨body, hbody, -, hdecode⟩ := hreads [1]
  obtain ⟨haccepted, -, -, hencode⟩ := hbodies [0xF6, 0x55, 0x41]
  obtain ⟨r, hr⟩ := haccepted.2 (by decide)
  exact ⟨⟨frame, hframe, hlength, body, hbody, hdecode⟩, r, hr, hencode r hr⟩

end Response

end KnxGateway
