set_option autoImplicit false

/-! # Counters

The gateway counts what happens to connections, packets, bus requests and responses. A counter
only ever grows, by one at a time. On the machine a counter has 64 bits and starts again from zero
behind the greatest of them; here it is the number of events itself, of which the machine shows
the remainder. -/

namespace KnxGateway

/-- What is counted. -/
inductive Counter where
  | connectionsAccepted
  | connectionsRejected
  | packetsReceived
  | formatErrors
  | responsesSent
  | responsesSkipped
  | responseFailures
  | busRequests
  | busFailures
deriving DecidableEq

namespace Counter

def all : List Counter :=
  [connectionsAccepted, connectionsRejected, packetsReceived, formatErrors, responsesSent,
    responsesSkipped, responseFailures, busRequests, busFailures]

def name : Counter → String
  | connectionsAccepted => "connections_accepted"
  | connectionsRejected => "connections_rejected"
  | packetsReceived => "packets_received"
  | formatErrors => "format_errors"
  | responsesSent => "responses_sent"
  | responsesSkipped => "responses_skipped"
  | responseFailures => "response_failures"
  | busRequests => "bus_requests"
  | busFailures => "bus_failures"

end Counter

/-- The state of all counters, as numbers without a bound. -/
structure Metrics where
  connectionsAccepted : Nat
  connectionsRejected : Nat
  packetsReceived : Nat
  formatErrors : Nat
  responsesSent : Nat
  responsesSkipped : Nat
  responseFailures : Nat
  busRequests : Nat
  busFailures : Nat
deriving DecidableEq

namespace Metrics

def zero : Metrics :=
  ⟨0, 0, 0, 0, 0, 0, 0, 0, 0⟩

def get (m : Metrics) : Counter → Nat
  | .connectionsAccepted => m.connectionsAccepted
  | .connectionsRejected => m.connectionsRejected
  | .packetsReceived => m.packetsReceived
  | .formatErrors => m.formatErrors
  | .responsesSent => m.responsesSent
  | .responsesSkipped => m.responsesSkipped
  | .responseFailures => m.responseFailures
  | .busRequests => m.busRequests
  | .busFailures => m.busFailures

def record (m : Metrics) : Counter → Metrics
  | .connectionsAccepted => { m with connectionsAccepted := m.connectionsAccepted + 1 }
  | .connectionsRejected => { m with connectionsRejected := m.connectionsRejected + 1 }
  | .packetsReceived => { m with packetsReceived := m.packetsReceived + 1 }
  | .formatErrors => { m with formatErrors := m.formatErrors + 1 }
  | .responsesSent => { m with responsesSent := m.responsesSent + 1 }
  | .responsesSkipped => { m with responsesSkipped := m.responsesSkipped + 1 }
  | .responseFailures => { m with responseFailures := m.responseFailures + 1 }
  | .busRequests => { m with busRequests := m.busRequests + 1 }
  | .busFailures => { m with busFailures := m.busFailures + 1 }

/-- Counts several events in order. -/
def recordAll (m : Metrics) (events : List Counter) : Metrics :=
  events.foldl record m

/-- The counters that have grown since an earlier state, and by how much. -/
def since (m earlier : Metrics) : List (Counter × Nat) :=
  (Counter.all.map fun c => (c, m.get c - earlier.get c)).filter fun change => change.2 ≠ 0

/-- An event changes its own counter only. -/
theorem get_record (m : Metrics) (c x : Counter) :
    (m.record c).get x = m.get x + if x = c then 1 else 0 := by
  cases c <;> cases x <;> rfl

end Metrics

end KnxGateway
