import KnxGateway.Config.GatewayConfig
import KnxGateway.Peer.AllowList
import KnxGateway.Peer.IpText
import KnxGateway.Text.Ascii

set_option autoImplicit false

/-! # Settings from the environment

A gateway program is set up by ten environment variables. Blanks around a value do not count, and
a blank value counts as none; a variable without a value takes its default. Truth values are never
wrong: what is not a word for true is false. A number, a mode or an address that cannot be read is
an error, and of several errors the first in the order of the fields is told. -/

namespace KnxGateway

open Text

/-! ## Variables -/

/-- The variables that set up a gateway. -/
inductive SettingKey where
  | serverAddr
  | serverPort
  | allowedAddresses
  | notifyRejected
  | queueCapacity
  | readBufferSize
  | knxMode
  | knxNat
  | knxAddress
  | knxPort
deriving DecidableEq

namespace SettingKey

def name : SettingKey → String
  | serverAddr => "KNX_LINK_SERVER_ADDR"
  | serverPort => "KNX_LINK_SERVER_PORT"
  | allowedAddresses => AllowList.key
  | notifyRejected => "KNX_LINK_NOTIFY_REJECTED"
  | queueCapacity => "KNX_LINK_QUEUE_CAPACITY"
  | readBufferSize => "KNX_LINK_READ_BUFFER_SIZE"
  | knxMode => "KNX_LINK_KNX_MODE"
  | knxNat => "KNX_LINK_KNX_NAT"
  | knxAddress => "KNX_LINK_KNX_ADDRESS"
  | knxPort => "KNX_LINK_KNX_PORT"

end SettingKey

/-- The values of variables by their names. -/
abbrev Environment := String → Option String

namespace Environment

/-- The value of a variable without blanks around it, if it has one that is not blank. -/
def value? (env : Environment) (key : SettingKey) : Option String :=
  match env key.name with
  | none => none
  | some value => if (trimmed value).isEmpty then none else some (trimmed value)

end Environment

/-! ## Modes -/

/-- How the gateway would speak to a bus on the network. -/
inductive KnxMode where
  | tunneling
  | routing
deriving DecidableEq

/-- A text that names no mode. -/
structure KnxModeError where
  given : String
deriving DecidableEq

def KnxModeError.message (e : KnxModeError) : String :=
  "mode is not supported: " ++ e.given

namespace KnxMode

def text : KnxMode → String
  | tunneling => "tunneling"
  | routing => "routing"

/-- Reads a mode, in any letter case and with blanks around it. -/
def parse (s : String) : Except KnxModeError KnxMode :=
  let given := String.ofList (lower (trim s.toList))
  if given = tunneling.text then .ok tunneling
  else if given = routing.text then .ok routing
  else .error ⟨s⟩

end KnxMode

/-! ## Settings -/

/-- How to reach a bus on the network. -/
structure KnxSettings where
  mode : KnxMode
  /-- Whether addresses are translated on the way. -/
  nat : Bool
  /-- The address of the bus interface, if it is not to be discovered. -/
  address : Option Ip
  /-- The port of the bus interface. -/
  port : Nat
deriving DecidableEq

/-- Whether the bus interface is to be discovered. -/
def KnxSettings.usesDiscovery (s : KnxSettings) : Bool :=
  s.address.isNone

/-- The settings of a gateway program. -/
structure Settings where
  serverAddr : String
  serverPort : Nat
  allowedAddresses : List String
  notifyRejected : Bool
  queueCapacity : Nat
  readBufferSize : Nat
  /-- How to reach a bus on the network. -/
  knx : KnxSettings
deriving DecidableEq

/-- A variable with a value that cannot be used. -/
structure SettingsError where
  key : SettingKey
  value : String
deriving DecidableEq

def SettingsError.message (e : SettingsError) : String :=
  "invalid value for " ++ e.key.name ++ ": " ++ e.value

namespace Environment

/-! ## Reading variables -/

/-- What a variable is read as: its default when it has no value. -/
def read {α : Type} (env : Environment) (key : SettingKey) (parse? : String → Option α)
    (default : α) : Except SettingsError α :=
  match env.value? key with
  | none => .ok default
  | some value =>
    match parse? value with
    | some x => .ok x
    | none => .error ⟨key, value⟩

/-- A number that is at most `bound`. -/
def readNat (env : Environment) (key : SettingKey) (bound default : Nat) :
    Except SettingsError Nat :=
  env.read key (fun value => readUnsigned? bound value.toList) default

/-- A number from `least` up. A smaller one is shown as the number it is. -/
def readSize (env : Environment) (key : SettingKey) (least default : Nat) :
    Except SettingsError Nat :=
  match env.readNat key maxUInt64 default with
  | .error e => .error e
  | .ok n => if n < least then .error ⟨key, decimalText n⟩ else .ok n

/-- A truth value. -/
def readBool (env : Environment) (key : SettingKey) (default : Bool) : Bool :=
  match env.value? key with
  | none => default
  | some value => ["1", "true", "on"].contains (lowered value)

/-- The entries between commas, without blanks around them and without blank ones. -/
def splitList (value : String) : List String :=
  (((value.toList.splitOn ',').map trim).filter fun entry => !entry.isEmpty).map String.ofList

/-- A list of entries. -/
def readList (env : Environment) (key : SettingKey) : List String :=
  match env.value? key with
  | none => []
  | some value => splitList value

end Environment

namespace Settings

/-- The settings in an environment. -/
def ofEnvironment (env : Environment) : Except SettingsError Settings := do
  let serverPort ← env.readNat .serverPort maxUInt16 3672
  let queueCapacity ← env.readSize .queueCapacity 1 1024
  let readBufferSize ← env.readSize .readBufferSize minReadBufferSize 512
  let mode ← env.read .knxMode (fun value => (KnxMode.parse value).toOption) .tunneling
  let address ← env.read .knxAddress (fun value => (Ip.ofText? value).map some) none
  let port ← env.readNat .knxPort maxUInt16 3671
  return {
    serverAddr := (env.value? .serverAddr).getD "0.0.0.0"
    serverPort
    allowedAddresses := env.readList .allowedAddresses
    notifyRejected := env.readBool .notifyRejected true
    queueCapacity
    readBufferSize
    knx := { mode, nat := env.readBool .knxNat false, address, port } }

/-- Host and port to listen on. -/
def listenAddr (s : Settings) : String :=
  s.serverAddr ++ ":" ++ decimalText s.serverPort

/-- The part of the settings that a gateway needs. -/
def toGatewayConfig (s : Settings) : GatewayConfig :=
  ⟨s.listenAddr, s.allowedAddresses, s.notifyRejected, s.queueCapacity, s.readBufferSize⟩

end Settings

end KnxGateway
