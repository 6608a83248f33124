import KnxGateway.Frame.Error

set_option autoImplicit false

/-! # Frame headers

A frame is a header of three bytes and a body. The header holds the version, the code of the
action and the length of the body. Bytes behind the declared body belong to no frame and are
ignored, so a packet is read as its first frame. -/

namespace KnxGateway

/-- The version of the frames that this library reads and writes. -/
def frameVersion : UInt8 := 1

def headerLength : Nat := 3

/-- The header of a frame. -/
structure Header where
  version : UInt8
  action : Action
  bodyLength : UInt8
deriving DecidableEq

namespace Header

/-- The header in front of a body of the current version. -/
def ofBody (action : Action) (body : List UInt8) : Header :=
  ⟨frameVersion, action, UInt8.ofNat body.length⟩

def encode (h : Header) : List UInt8 :=
  [h.version, h.action.code, h.bodyLength]

/-- Reads the header in front of a packet. The version is checked before the action. -/
def decode (bytes : List UInt8) : Except FormatError Header :=
  match bytes with
  | version :: action :: bodyLength :: _ =>
    if version = frameVersion then
      match Action.ofCode? action with
      | some action => .ok ⟨version, action, bodyLength⟩
      | none => .error (.unknownAction action)
    else
      .error (.unsupportedVersion version)
  | _ => .error (.tooShort .header headerLength bytes.length)

/-- The body that the header declares, out of the whole packet. -/
def bodyOf (h : Header) (bytes : List UInt8) : Except FormatError (List UInt8) :=
  let available := bytes.drop headerLength
  let declared := h.bodyLength.toNat
  if declared ≤ available.length then .ok (available.take declared)
  else .error (.truncated declared available.length)

/-! ## Reading what was written -/

theorem decode_encode_append (h : Header) (rest : List UInt8) (hv : h.version = frameVersion) :
    decode (h.encode ++ rest) = .ok h := by
  obtain ⟨version, action, bodyLength⟩ := h
  obtain rfl : version = frameVersion := hv
  simp [encode, decode, Action.ofCode?_code]

/-- The declared body reads back, whatever follows it. -/
theorem bodyOf_encode_append (h : Header) (body rest : List UInt8)
    (hlen : body.length = h.bodyLength.toNat) :
    h.bodyOf (h.encode ++ body ++ rest) = .ok body := by
  simp [bodyOf, encode, headerLength, ← hlen]

end Header

/-- A whole frame: a header and the body it declares. -/
def frameOf (action : Action) (body : List UInt8) : List UInt8 :=
  (Header.ofBody action body).encode ++ body

theorem length_frameOf (action : Action) (body : List UInt8) :
    (frameOf action body).length = headerLength + body.length := by
  simp [frameOf, Header.encode, headerLength]
  omega

/-- The header of a frame reads back when its length byte can count the body. -/
theorem decode_frameOf_append (action : Action) (body rest : List UInt8) :
    Header.decode (frameOf action body ++ rest) = .ok (Header.ofBody action body) := by
  rw [frameOf, List.append_assoc]
  exact Header.decode_encode_append _ _ rfl

/-- The body of a frame reads back when its length byte can count it. -/
theorem bodyOf_frameOf_append (action : Action) (body rest : List UInt8)
    (hlen : body.length ≤ 255) :
    (Header.ofBody action body).bodyOf (frameOf action body ++ rest) = .ok body := by
  apply Header.bodyOf_encode_append
  simp [Header.ofBody]
  omega

end KnxGateway
