import KnxGateway.Argument
import KnxGateway.Datapoint.Registry
import KnxGateway.Frame.Header
import KnxGateway.GroupAddress

set_option autoImplicit false

/-! # Requests

The body of a request starts with six bytes: the group address and the two numbers of the data
point id, each high byte first. A read request ends there, and anything more is ignored. A write
request carries its quoted arguments behind them. The gateway resolves the id when it reads the
body, so that a request always has a type. -/

namespace KnxGateway

/-- The number of bytes in front of the arguments. -/
def requestFieldsLength : Nat := 6

/-- A request to read an address. -/
structure ReadRequest where
  address : GroupAddress
  datapoint : DatapointType

/-- A request to write an address. -/
structure WriteRequest where
  address : GroupAddress
  datapoint : DatapointType
  /-- The arguments as the client gave them. -/
  arguments : List String

/-! ## Bodies -/

/-- The fields in front of the arguments. -/
def requestFields (address : GroupAddress) (id : DatapointId) : List UInt8 :=
  address.bytes ++ id.bytes

theorem length_requestFields (address : GroupAddress) (id : DatapointId) :
    (requestFields address id).length = requestFieldsLength :=
  rfl

/-- Reads the fields in front of the arguments, and returns the bytes behind them too. -/
def readRequestFields (part : FramePart) (registry : Registry) (body : List UInt8) :
    Except FormatError (GroupAddress × DatapointType × List UInt8) :=
  match body with
  | high :: low :: majorHigh :: majorLow :: minorHigh :: minorLow :: rest =>
    .ok (.ofBytes high low,
      registry.resolve (.ofBytes majorHigh majorLow minorHigh minorLow), rest)
  | _ => .error (.tooShort part requestFieldsLength body.length)

def ReadRequest.decode (registry : Registry) (body : List UInt8) :
    Except FormatError ReadRequest := do
  let (address, datapoint, _) ← readRequestFields .readRequestBody registry body
  return ⟨address, datapoint⟩

def WriteRequest.decode (registry : Registry) (body : List UInt8) :
    Except FormatError WriteRequest := do
  let (address, datapoint, rest) ← readRequestFields .writeRequestBody registry body
  return ⟨address, datapoint, Argument.tokenize rest⟩

/-! ## Frames -/

/-- The frame of a read request. -/
def encodeRead (address : GroupAddress) (id : DatapointId) : List UInt8 :=
  frameOf .readRequest (requestFields address id)

/-- The frame of a write request, unless its quoted arguments are too long for one. -/
def encodeWrite (address : GroupAddress) (id : DatapointId) (arguments : List String) :
    Except FormatError (List UInt8) :=
  let quoted := Argument.quote arguments
  if requestFieldsLength + quoted.length ≤ 255 then
    .ok (frameOf .writeRequest (requestFields address id ++ quoted))
  else
    .error (.payloadTooLong quoted.length)

/-! ## Reading what was written -/

private theorem ofNat_high_low (n : UInt16) :
    UInt16.ofNat ((UInt8.ofNat (n.toNat / 256)).toNat * 256 + (UInt8.ofNat (n.toNat % 256)).toNat) =
      n := by
  have := n.toNat_lt
  apply UInt16.toNat_inj.1
  simp
  omega

theorem GroupAddress.ofBytes_bytes (a : GroupAddress) :
    GroupAddress.ofBytes (UInt8.ofNat (a.raw.toNat / 256)) (UInt8.ofNat (a.raw.toNat % 256)) = a := by
  simp only [GroupAddress.ofBytes, ofNat_high_low]

theorem DatapointId.ofBytes_bytes (id : DatapointId) :
    DatapointId.ofBytes (UInt8.ofNat (id.major.toNat / 256)) (UInt8.ofNat (id.major.toNat % 256))
      (UInt8.ofNat (id.minor.toNat / 256)) (UInt8.ofNat (id.minor.toNat % 256)) = id := by
  simp only [DatapointId.ofBytes, ofNat_high_low]

/-- The fields of a request read back, and leave what follows them. -/
theorem readRequestFields_append (part : FramePart) (registry : Registry)
    (address : GroupAddress) (id : DatapointId) (rest : List UInt8) :
    readRequestFields part registry (requestFields address id ++ rest) =
      .ok (address, registry.resolve id, rest) := by
  simp only [requestFields, GroupAddress.bytes, DatapointId.bytes, List.cons_append,
    List.nil_append, readRequestFields, GroupAddress.ofBytes_bytes, DatapointId.ofBytes_bytes]

end KnxGateway
