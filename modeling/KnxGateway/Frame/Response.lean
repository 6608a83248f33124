import KnxGateway.Frame.Header
import KnxGateway.Text.Blank
import KnxGateway.Text.Utf8

set_option autoImplicit false

/-! # Responses

The body of a response starts with a byte of flags and a reserved byte; a payload follows them.
The highest bit of the flags marks the last response to a request, and the four lowest hold the
status. The other bits and the reserved byte are written as zero and ignored by the reader.

A payload is usually a message, and a blank message is sent as no payload at all. -/

namespace KnxGateway

open Text

/-- The number of bytes in front of the payload. -/
def responseFieldsLength : Nat := 2

/-- The greatest number of bytes of a payload. -/
def maxPayloadLength : Nat := 253

/-- The body of a response. -/
structure Response where
  /-- Whether no further response to the same request follows. -/
  last : Bool
  /-- How the request stands. -/
  status : Status
  /-- The bytes behind the fields. -/
  payload : List UInt8
deriving DecidableEq

namespace Response

/-- The response without a payload. -/
def ofStatus (last : Bool) (status : Status) : Response :=
  ⟨last, status, []⟩

/-- The response with a message, or without a payload when the message is blank. -/
def ofMessage (last : Bool) (status : Status) (message : String) : Response :=
  if isAllBlank message.toList then ofStatus last status
  else ⟨last, status, Utf8.encode message.toList⟩

def message (r : Response) : String :=
  String.ofList (Utf8.decode r.payload)

/-! ## Bodies -/

/-- The byte of flags. -/
def flags (last : Bool) (status : Status) : UInt8 :=
  UInt8.ofNat ((if last then 128 else 0) + status.code.toNat)

def encode (r : Response) : List UInt8 :=
  flags r.last r.status :: 0 :: r.payload

def decode (body : List UInt8) : Except FormatError Response :=
  match body with
  | flags :: _ :: payload =>
    let code := UInt8.ofNat (flags.toNat % 16)
    match Status.ofCode? code with
    | some status => .ok ⟨128 ≤ flags.toNat, status, payload⟩
    | none => .error (.unknownStatus code)
  | _ => .error (.tooShort .responseBody responseFieldsLength body.length)

/-! ## Frames -/

/-- The frame of a response, unless its payload is too long for one. -/
def frame (action : Action) (r : Response) : Except FormatError (List UInt8) :=
  if r.payload.length ≤ maxPayloadLength then .ok (frameOf action r.encode)
  else .error (.payloadTooLong r.payload.length)

/-! ## Reading what was written -/

theorem length_encode (r : Response) :
    r.encode.length = responseFieldsLength + r.payload.length := by
  simp [encode, responseFieldsLength]
  omega

theorem code_of_flags (last : Bool) (status : Status) :
    UInt8.ofNat ((flags last status).toNat % 16) = status.code := by
  cases last <;> cases status <;> decide

theorem last_of_flags (last : Bool) (status : Status) :
    decide (128 ≤ (flags last status).toNat) = last := by
  cases last <;> cases status <;> decide

/-- The body of a response reads back. -/
theorem decode_encode (r : Response) : decode r.encode = .ok r := by
  obtain ⟨last, status, payload⟩ := r
  simp only [encode, decode, code_of_flags, Status.ofCode?_code, last_of_flags]

end Response

end KnxGateway
