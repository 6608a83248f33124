import KnxGateway.Metrics

set_option autoImplicit false

/-! # Handing frames to connections

A frame is handed to a connection whole. The connection writes it, or leaves it out because it is
closed, or fails to write it; the sender learns which, and nobody waits for more. -/

namespace KnxGateway

/-- The number that tells connections apart. -/
abbrev ConnectionId := Nat

/-- What became of a frame. -/
inductive SendOutcome where
  | sent
  /-- The connection is closed, and nothing was written. -/
  | skipped
  | failed
deriving DecidableEq

namespace SendOutcome

def all : List SendOutcome :=
  [sent, skipped, failed]

def name : SendOutcome → String
  | sent => "Sent"
  | skipped => "Skipped"
  | failed => "Failed"

def ofName? (name : String) : Option SendOutcome :=
  all.find? fun outcome => outcome.name = name

/-- The counter of an outcome. -/
def counter : SendOutcome → Counter
  | sent => .responsesSent
  | skipped => .responsesSkipped
  | failed => .responseFailures

end SendOutcome

/-- Connections with states in `γ`, as those see them who hand frames over. -/
class Outlets (γ : Type) where
  isOpen : γ → ConnectionId → Bool
  trySend : γ → ConnectionId → List UInt8 → SendOutcome × γ

/-! ## Scripted connections -/

/-- A connection that answers as a script says, and writes everything when the script ends. -/
structure ScriptedConnection where
  isOpen : Bool
  /-- The outcomes still to come. -/
  outcomes : List SendOutcome

namespace ScriptedConnection

def trySend (c : ScriptedConnection) : SendOutcome × ScriptedConnection :=
  match c.outcomes with
  | [] => (.sent, c)
  | outcome :: rest => (outcome, ⟨c.isOpen, rest⟩)

instance : Outlets ScriptedConnection where
  isOpen c _ := c.isOpen
  trySend c _ _ := c.trySend

end ScriptedConnection

end KnxGateway
