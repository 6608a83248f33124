import KnxGateway.Client.Exchange
import KnxGateway.Client.OptionTable
import KnxGateway.Frame.Request

set_option autoImplicit false

/-! # The commands of a client

A client carries out one command: it reads or writes a group address through the gateway whose
host and port it is given. The group address and the data point type are taken as texts, and are
read only when the request is written as a frame, the address first. All replies are shown
together, once the last one is there. -/

namespace KnxGateway

open Text

/-- What a client is asked to do. -/
inductive Command where
  | read (address datapoint : String)
  | write (address datapoint : String) (values : List String)
deriving DecidableEq

/-- A command together with the gateway that carries it out. -/
structure Invocation where
  host : String
  port : Nat
  command : Command
deriving DecidableEq

/-! ## Arguments -/

namespace Command

/-- The options of a command that may take values. -/
def options (takesAnyValue : Bool) : OptionTable :=
  ⟨[('g', "group-address"), ('d', "dpt")], [('h', "help")], takesAnyValue⟩

/-- The address, the data point type and the values in the arguments of a command. Both options are
    required. -/
def splitArguments (takesAnyValue : Bool) (arguments : List String) :
    Except Halt (String × String × List String) := do
  let split ← (options takesAnyValue).split .none arguments
  let given ← split.options.check
  match given.value? 'g', given.value? 'd' with
  | some address, some datapoint => return (address, datapoint, split.values)
  | _, _ => .error .misuse

/-- The names of the commands, and the one that explains them. -/
def names : List String :=
  ["read", "write", "help"]

/-- Reads a command from its name and its arguments. -/
def ofArguments (name : String) (arguments : List String) : Except Halt Command :=
  match name with
  | "read" => do
    let (address, datapoint, values) ← splitArguments false arguments
    if values.isEmpty then return .read address datapoint else .error .misuse
  | "write" => do
    let (address, datapoint, values) ← splitArguments true arguments
    return .write address datapoint values
  | "help" =>
    match arguments with
    | [] => .error .information
    | [topic] => if topic ∈ names then .error .information else .error .misuse
    | _ => .error .misuse
  | _ => .error .misuse

end Command

namespace Invocation

/-- The host of the gateway unless another is given. -/
def defaultHost : String :=
  "127.0.0.1"

/-- The port of the gateway unless another is given. -/
def defaultPort : Nat :=
  3672

/-- The options in front of the command. -/
def options : OptionTable :=
  ⟨[('H', "host"), ('p', "port")], [('h', "help"), ('V', "version")], false⟩

/-- Reads all arguments of a client. The command is read before the last option in front of it is
    checked. -/
def ofArguments (arguments : List String) : Except Halt Invocation := do
  let split ← options.split .none arguments
  match split.isSeparated, split.values with
  | false, name :: rest =>
    let command ← Command.ofArguments name rest
    let given ← split.options.check
    let host := (given.value? 'H').getD defaultHost
    match given.value? 'p' with
    | none => return ⟨host, defaultPort, command⟩
    | some port =>
      match readUnsigned? maxUInt16 port.toList with
      | some port => return ⟨host, port, command⟩
      | none => .error .misuse
  | _, _ => .error .misuse

/-- The host and port of the gateway as they are shown. -/
def server (i : Invocation) : String :=
  i.host ++ ":" ++ decimalText i.port

end Invocation

/-! ## Requests -/

/-- The frame of the request that a command stands for. -/
def Command.frame (command : Command) : Except ClientError (List UInt8) := do
  let (address, datapoint) := match command with
    | read address datapoint | write address datapoint _ => (address, datapoint)
  let address ← (GroupAddress.parse address).mapError .address
  let id ← (DatapointId.parse datapoint).mapError .datapoint
  match command with
  | read _ _ => return encodeRead address id
  | write _ _ values => (encodeWrite address id values).mapError .format

/-! ## Outcomes -/

/-- What a client leaves behind. -/
structure Outcome where
  exitCode : UInt8
  output : String
  /-- What it prints for errors. -/
  errors : String
deriving DecidableEq

namespace Outcome

/-- The outcome of replies, each on a line. An error status of any of them makes the client
    fail. -/
def ofReplies (replies : List Reply) : Outcome :=
  ⟨if replies.all fun reply => reply.body.status.isSuccess then 0 else 1,
    String.join (replies.map fun reply => reply.render ++ "\n"), ""⟩

/-- The outcome of an error. -/
def ofError (e : ClientError) : Outcome :=
  ⟨1, "", "Error: " ++ e.diagnostic ++ "\n"⟩

/-- The outcome of arguments that name no command to carry out. Wrong use has its own exit code. -/
def ofHalt : Halt → Outcome
  | .information => ⟨0, "", ""⟩
  | .misuse => ⟨2, "", ""⟩

end Outcome

/-- How many milliseconds a client waits for each part of a reply. -/
def replyWait : Nat :=
  5000

/-- The invocation that the arguments of a client stand for and the frame of its request, or the
    outcome when there is none. -/
def prepare (arguments : List String) : Except Outcome (Invocation × List UInt8) :=
  match Invocation.ofArguments arguments with
  | .error halt => .error (.ofHalt halt)
  | .ok invocation =>
    match invocation.command.frame with
    | .error e => .error (.ofError e)
    | .ok frame => .ok (invocation, frame)

/-- The outcome of an invocation when the server in place of the gateway is known. -/
def Invocation.conclude (i : Invocation) (server : Server) : Outcome :=
  match exchange i.server replyWait server with
  | .error e => .ofError e
  | .ok replies => .ofReplies replies

/-- Carries out what the arguments of a client ask for, with a server in place of the gateway.
    Returns the bytes that the server gets to see too. -/
def perform (arguments : List String) (server : Server) : List UInt8 × Outcome :=
  match prepare arguments with
  | .error outcome => ([], outcome)
  | .ok (invocation, frame) => (server.sees frame, invocation.conclude server)

end KnxGateway
