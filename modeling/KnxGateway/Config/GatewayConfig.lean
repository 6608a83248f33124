import KnxGateway.Json.Reader
import KnxGateway.Text.Numeral

set_option autoImplicit false

/-! # The configuration of a gateway

A gateway needs to know where to listen, who may connect, whether to tell those who may not, how
many packets may wait, and how many bytes to read at once. The configuration can be read from a
JSON text: an object with a member for each field that differs from its default, or an array with
the fields in order, of which those at the end may be missing. Members of other names are skipped,
but no field may be given twice. -/

namespace KnxGateway

open Text

/-- The least number of bytes that a gateway reads at once. -/
def minReadBufferSize : Nat := 16

/-- The configuration of a gateway. -/
structure GatewayConfig where
  /-- Host and port to listen on; with port 0 any free port is taken. -/
  listenAddr : String
  /-- The texts of the addresses that may connect. -/
  allowedAddresses : List String
  notifyRejected : Bool
  /-- How many packets may wait. -/
  queueCapacity : Nat
  /-- How many bytes are read at once. -/
  readBufferSize : Nat
deriving DecidableEq

/-- Why a configuration cannot be used. -/
inductive ConfigProblem where
  /-- No packet may wait. -/
  | noCapacity
  /-- A read cannot hold the fields of a request. -/
  | smallBuffer (size : Nat)
deriving DecidableEq

def ConfigProblem.message : ConfigProblem → String
  | noCapacity => "config error: queue_capacity must be greater than 0"
  | smallBuffer size =>
    "config error: read_buffer_size must be at least " ++ decimalText minReadBufferSize ++
      " but was " ++ decimalText size

/-- Why a text yields no configuration. -/
inductive ConfigTextError where
  /-- The text is not JSON, or not JSON of the right shape. -/
  | malformed
  /-- The configuration cannot be used. -/
  | unusable (problem : ConfigProblem)
deriving DecidableEq

namespace GatewayConfig

def default : GatewayConfig :=
  ⟨"0.0.0.0:3672", [], true, 1024, 512⟩

/-- The first problem of a configuration. -/
def problem? (c : GatewayConfig) : Option ConfigProblem :=
  if c.queueCapacity = 0 then some .noCapacity
  else if c.readBufferSize < minReadBufferSize then some (.smallBuffer c.readBufferSize)
  else none

/-! ## Writing -/

def fieldNames : List String :=
  ["listen_addr", "allowed_addresses", "notify_rejected", "queue_capacity", "read_buffer_size"]

def fieldValues (c : GatewayConfig) : List JsonValue :=
  [.string (JsonUnit.ofText c.listenAddr.toList),
    .array (c.allowedAddresses.map fun entry => .string (JsonUnit.ofText entry.toList)),
    .bool c.notifyRejected,
    .number (decimal c.queueCapacity),
    .number (decimal c.readBufferSize)]

def toJson (c : GatewayConfig) : JsonValue :=
  .object ((fieldNames.map fun name => JsonUnit.ofText name.toList).zip c.fieldValues)

def jsonText (c : GatewayConfig) : String :=
  String.ofList c.toJson.render

/-! ## Reading -/

/-- What a field is read as: its default when it is not given. -/
def readField {α : Type} (read : JsonValue → Option α) (default : α) : Option JsonValue → Option α
  | none => some default
  | some value => read value

/-- The configuration of the given fields. -/
def ofFields? (listenAddr allowedAddresses notifyRejected queueCapacity readBufferSize :
    Option JsonValue) : Option GatewayConfig := do
  return {
    listenAddr := ← readField JsonValue.string? default.listenAddr listenAddr
    allowedAddresses := ← readField JsonValue.strings? default.allowedAddresses allowedAddresses
    notifyRejected := ← readField JsonValue.bool? default.notifyRejected notifyRejected
    queueCapacity :=
      ← readField (JsonValue.unsigned? maxUInt64) default.queueCapacity queueCapacity
    readBufferSize :=
      ← readField (JsonValue.unsigned? maxUInt64) default.readBufferSize readBufferSize }

/-- The members with their keys as texts, unless a key is none. -/
def readKeys? (members : List (List JsonUnit × JsonValue)) :
    Option (List (List Char × JsonValue)) :=
  members.mapM fun (key, value) => (JsonUnit.text? key).map fun key => (key, value)

/-- The value of the member with a given name, if there is one. There is no answer when there are
    several. -/
def memberOf? (members : List (List Char × JsonValue)) (name : String) :
    Option (Option JsonValue) :=
  match members.filter fun entry => entry.1 = name.toList with
  | [] => some none
  | [(_, value)] => some (some value)
  | _ => none

/-- The configuration that a JSON value describes. -/
def ofJson? : JsonValue → Option GatewayConfig
  | .object members => do
    let members ← readKeys? members
    let listenAddr ← memberOf? members "listen_addr"
    let allowedAddresses ← memberOf? members "allowed_addresses"
    let notifyRejected ← memberOf? members "notify_rejected"
    let queueCapacity ← memberOf? members "queue_capacity"
    let readBufferSize ← memberOf? members "read_buffer_size"
    ofFields? listenAddr allowedAddresses notifyRejected queueCapacity readBufferSize
  | .array elements =>
    if elements.length ≤ fieldNames.length then
      ofFields? elements[0]? elements[1]? elements[2]? elements[3]? elements[4]?
    else
      none
  | _ => none

/-- Reads a usable configuration from a JSON text. -/
def ofJsonText (s : String) : Except ConfigTextError GatewayConfig :=
  match (JsonValue.parse? s.toList).bind ofJson? with
  | none => .error .malformed
  | some c =>
    match c.problem? with
    | some problem => .error (.unusable problem)
    | none => .ok c

end GatewayConfig

end KnxGateway
