import KnxGateway.Bus.Basic
import KnxGateway.Connection.Outcome
import KnxGateway.Frame.Request
import KnxGateway.Frame.Response
import KnxGateway.Text.Quoted

set_option autoImplicit false

/-! # Request tasks

Each accepted request is carried out by a task of its own. A task is a tree: every node names one
atomic action, and its branches say how the task goes on for each answer. Many tasks can so run in
any interleaving over one bus, and everything that a task may do can be read off its tree.

A read asks the bus, sends a first response when the bus acknowledges, looks up the last value,
and sends its rendering as the last response. A write reads its arguments, asks the bus, and sends
one response. Whatever goes wrong is told to the client in the last response. -/

namespace KnxGateway

open Text

/-- What is left to do for a request. -/
inductive RequestTask where
  | done
  | count (counter : Counter) (next : RequestTask)
  | readBus (address : GroupAddress) (next : BusAnswer → RequestTask)
  | writeBus (address : GroupAddress) (value : DatapointValue) (next : BusAnswer → RequestTask)
  | lookUp (address : GroupAddress) (next : Option (List UInt8) → RequestTask)
  | send (frame : List UInt8) (next : SendOutcome → RequestTask)

/-- A request of either kind. -/
inductive Request where
  | read (request : ReadRequest)
  | write (request : WriteRequest)

namespace Request

/-- The address that a request names. -/
def address : Request → GroupAddress
  | read request => request.address
  | write request => request.address

/-- The action of the responses to a request. -/
def responseAction : Request → Action
  | read _ => .readResponse
  | write _ => .writeResponse

end Request

/-! ## Messages -/

/-- The longest prefix of a message that fits into a payload. -/
def truncateMessage (message : String) : String :=
  String.ofList (Utf8.takeBytes maxPayloadLength message.toList)

/-- The message for an address that no request may name. -/
def invalidAddressMessage (a : GroupAddress) : String :=
  "group address is not valid for bus requests: " ++ a.text

/-- The message for a request that the bus did not acknowledge. -/
def notAcknowledgedMessage (verb : String) (a : GroupAddress) : String :=
  verb ++ " request not acknowledged for group address: " ++ a.text

/-- The message for a request that failed. -/
def requestFailedMessage (verb : String) (a : GroupAddress) (e : BusError) : String :=
  verb ++ " request failed for group address '" ++ a.text ++ "': " ++ e.message

/-- The message for an address without a last value. -/
def noValueMessage (a : GroupAddress) : String :=
  "could not get read data for group address: " ++ a.text

/-- The message for bytes that the type of the request does not explain. -/
def unrenderableMessage (a : GroupAddress) (dpt : DatapointType) (bytes : List UInt8) : String :=
  "could not parse the read data for group address '" ++ a.text ++ "' and data point type '" ++
    dpt.name ++ "': " ++ formatHex bytes

/-- The message for arguments that the type of the request does not read. -/
def unreadableMessage (a : GroupAddress) (dpt : DatapointType) (arguments : List String) :
    String :=
  "could not understand value for group address '" ++ a.text ++ "' and data point type '" ++
    dpt.name ++ "': " ++ quotedList arguments

namespace RequestTask

/-! ## Responses -/

/-- Sends a response and counts what became of it. A response that has no frame counts as a
    failure. -/
def respond (action : Action) (response : Response) (next : RequestTask) : RequestTask :=
  match response.frame action with
  | .ok frame => .send frame fun outcome => .count outcome.counter next
  | .error _ => .count .responseFailures next

/-- Sends the last response with as much of a message as fits. -/
def conclude (action : Action) (status : Status) (message : String) : RequestTask :=
  respond action (.ofMessage true status (truncateMessage message)) .done

/-! ## Reads -/

/-- What is left to do when the last value was looked up. -/
def showValue (r : ReadRequest) : Option (List UInt8) → RequestTask
  | none => conclude .readResponse .errorTimeout (noValueMessage r.address)
  | some bytes =>
    match r.datapoint.render bytes with
    | .ok value => conclude .readResponse .success value.display
    | .error _ =>
      conclude .readResponse .errorIncompatibleDatapointType
        (unrenderableMessage r.address r.datapoint bytes)

/-- What is left to do when the bus answered a read. -/
def afterRead (r : ReadRequest) : BusAnswer → RequestTask
  | .ok true =>
    respond .readResponse (.ofStatus false .success) (.lookUp r.address (showValue r))
  | .ok false =>
    .count .busFailures
      (conclude .readResponse .errorRequest (notAcknowledgedMessage "read" r.address))
  | .error e =>
    .count .busFailures
      (conclude .readResponse .errorRequest (requestFailedMessage "read" r.address e))

/-- The task of a read request. -/
def ofRead (r : ReadRequest) : RequestTask :=
  if r.address.isValid then
    .count .busRequests (.readBus r.address (afterRead r))
  else
    conclude .readResponse .errorGroupAddress (invalidAddressMessage r.address)

/-! ## Writes -/

/-- What is left to do when the bus answered a write. -/
def afterWrite (r : WriteRequest) : BusAnswer → RequestTask
  | .ok true => respond .writeResponse (.ofStatus true .success) .done
  | .ok false =>
    .count .busFailures
      (conclude .writeResponse .errorRequest (notAcknowledgedMessage "write" r.address))
  | .error e =>
    .count .busFailures
      (conclude .writeResponse .errorRequest (requestFailedMessage "write" r.address e))

/-- The task of a write request. -/
def ofWrite (r : WriteRequest) : RequestTask :=
  if r.address.isValid then
    match r.datapoint.parse r.arguments with
    | .ok value => .count .busRequests (.writeBus r.address value (afterWrite r))
    | .error _ =>
      conclude .writeResponse .errorIncompatibleDatapointType
        (unreadableMessage r.address r.datapoint r.arguments)
  else
    conclude .writeResponse .errorGroupAddress (invalidAddressMessage r.address)

end RequestTask

/-- The task of a request. -/
def Request.task : Request → RequestTask
  | .read request => .ofRead request
  | .write request => .ofWrite request

/-! ## Messages and frames -/

theorem toList_truncateMessage (message : String) :
    (truncateMessage message).toList = Utf8.takeBytes maxPayloadLength message.toList := by
  simp [truncateMessage]

/-- A truncated message always has a frame. -/
theorem length_payload_ofMessage_truncate (last : Bool) (status : Status) (message : String) :
    (Response.ofMessage last status (truncateMessage message)).payload.length ≤
      maxPayloadLength := by
  unfold Response.ofMessage
  split
  · simp [Response.ofStatus]
  · rw [toList_truncateMessage]
    exact Utf8.size_takeBytes_le ..

end KnxGateway
