import KnxGateway.Frame.Code
import KnxGateway.Text.Hex
import KnxGateway.Text.Numeral

set_option autoImplicit false

/-! # Errors of frames

Every way in which bytes fail to be a frame, and the one way in which a frame cannot be written:
a payload that its length byte cannot count. -/

namespace KnxGateway

open Text

/-- The parts of a frame that have a least length. -/
inductive FramePart where
  | header
  | readRequestBody
  | writeRequestBody
  | responseBody
deriving DecidableEq

def FramePart.text : FramePart → String
  | header => "header"
  | readRequestBody => "read request body"
  | writeRequestBody => "write request body"
  | responseBody => "response body"

/-- Why bytes are no frame, or values have none. -/
inductive FormatError where
  | empty
  /-- A part has fewer bytes than its fixed fields. -/
  | tooShort (part : FramePart) (expected actual : Nat)
  | unknownAction (code : UInt8)
  | unknownStatus (code : UInt8)
  /-- The version is not the one this library speaks. -/
  | unsupportedVersion (version : UInt8)
  /-- A client sent an action that only the gateway sends. -/
  | unexpectedAction (action : Action)
  /-- The body has fewer bytes than the header declares. -/
  | truncated (declared actual : Nat)
  /-- The payload has more bytes than a header can declare. -/
  | payloadTooLong (length : Nat)
deriving DecidableEq

namespace FormatError

def kind : FormatError → String
  | empty => "Empty"
  | tooShort _ _ _ => "TooShort"
  | unknownAction _ => "UnknownAction"
  | unknownStatus _ => "UnknownStatus"
  | unsupportedVersion _ => "UnsupportedVersion"
  | unexpectedAction _ => "UnexpectedAction"
  | truncated _ _ => "Truncated"
  | payloadTooLong _ => "PayloadTooLong"

def message : FormatError → String
  | empty => "empty packet"
  | tooShort part expected actual =>
    part.text ++ " too short: expected at least " ++ decimalText expected ++ " bytes but got " ++
      decimalText actual
  | unknownAction code => "unknown action code: " ++ hexCode code
  | unknownStatus code => "unknown status code: " ++ hexCode code
  | unsupportedVersion version => "unsupported protocol version: " ++ hexCode version
  | unexpectedAction action => "unexpected action for inbound packet: " ++ action.name
  | truncated declared actual =>
    "body truncated: declared " ++ decimalText declared ++ " bytes but only " ++
      decimalText actual ++ " available"
  | payloadTooLong length => "payload too long: " ++ decimalText length ++ " bytes"

end FormatError

end KnxGateway
