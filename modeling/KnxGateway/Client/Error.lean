import KnxGateway.Datapoint.Id
import KnxGateway.Frame.Error
import KnxGateway.GroupAddress
import KnxGateway.Text.Duration
import KnxGateway.Text.Quoted

set_option autoImplicit false

/-! # Errors of a client

Everything that can keep a client from getting its replies: the request cannot be written, the
gateway cannot be reached, it falls silent or goes away, or what it sends is no reply. Each error
has a message for people, and a diagnostic that names the causes with all their details. -/

namespace KnxGateway

open Text

/-- Why a client did not get its replies. -/
inductive ClientError where
  /-- The gateway cannot be reached, for a reason that the machine gives. -/
  | connect (server reason : String)
  /-- The connection ended in the middle of a reply, or before the last one. -/
  | earlyEnd
  /-- Nothing came for a number of milliseconds. -/
  | timeout (milliseconds : Nat)
  /-- A request cannot be written as a frame, or a frame is no reply. -/
  | format (cause : FormatError)
  /-- The address of the request is none. -/
  | address (cause : AddressError)
  /-- The data point type of the request is none. -/
  | datapoint (cause : DatapointIdError)
deriving DecidableEq

def ClientError.message : ClientError → String
  | connect server reason => "could not connect to " ++ server ++ ": " ++ reason
  | earlyEnd => "io error: early eof"
  | timeout milliseconds => "no reply within " ++ durationText milliseconds
  | format cause => "malformed reply: " ++ cause.message
  | address cause => cause.message
  | datapoint cause => cause.message

/-! ## Diagnostics -/

/-- A name with one detail in parentheses. -/
def withDetail (name detail : String) : String :=
  name ++ "(" ++ detail ++ ")"

/-- A name with named details in braces. -/
def withDetails (name : String) (details : List (String × String)) : String :=
  let shown := details.map fun (label, detail) => label ++ ": " ++ detail
  name ++ " \x7b " ++ ", ".intercalate shown ++ " \x7d"

/-- The diagnostic of an address error. -/
def AddressError.diagnostic (e : AddressError) : String :=
  match e with
  | empty => e.kind
  | invalid text => withDetail e.kind (quotedText text)
  | mainOverflow n | middleOverflow n | subOverflow n => withDetail e.kind (decimalText n)

/-- The diagnostic of an error in a data point id. -/
def DatapointIdError.diagnostic (e : DatapointIdError) : String :=
  withDetail "DatapointIdError" (quotedText e.given)

/-- The diagnostic of a format error. -/
def FormatError.diagnostic (e : FormatError) : String :=
  match e with
  | empty => e.kind
  | tooShort part expected actual =>
    withDetails e.kind [("what", quotedText part.text), ("expected", decimalText expected),
      ("actual", decimalText actual)]
  | unknownAction code | unknownStatus code | unsupportedVersion code =>
    withDetail e.kind (decimalText code.toNat)
  | unexpectedAction action => withDetail e.kind action.name
  | truncated declared actual =>
    withDetails e.kind [("declared", decimalText declared), ("actual", decimalText actual)]
  | payloadTooLong length => withDetail e.kind (decimalText length)

/-- The diagnostic of an error of a client. -/
def ClientError.diagnostic : ClientError → String
  | connect server reason =>
    withDetails "Connect" [("addr", quotedText server), ("source", reason)]
  | earlyEnd =>
    withDetail "Io" (withDetails "Custom" [("kind", "UnexpectedEof"), ("error", "\"early eof\"")])
  | timeout milliseconds => withDetail "Timeout" (durationText milliseconds)
  | format cause => withDetail "Format" cause.diagnostic
  | address cause => withDetail "Address" cause.diagnostic
  | datapoint cause => withDetail "Datapoint" cause.diagnostic

end KnxGateway
