import KnxGateway.Dispatch.RequestTask

set_option autoImplicit false

/-! # Carrying out request tasks

A world is what request tasks act on: a bus, the connections, and the counters. One step of a task
carries out one atomic action in the world and goes on with the branch for its answer. The effects
of a run are the actions with their answers, in order. -/

namespace KnxGateway

/-- An atomic action together with its answer. -/
inductive Effect where
  | counted (counter : Counter)
  | read (address : GroupAddress) (answer : BusAnswer)
  | wrote (address : GroupAddress) (value : DatapointValue) (answer : BusAnswer)
  | lookedUp (address : GroupAddress) (value : Option (List UInt8))
  | handedOver (frame : List UInt8) (outcome : SendOutcome)

namespace Effect

/-- The frame that an effect handed over, if it is of that kind. -/
def frame? : Effect → Option (List UInt8)
  | handedOver frame _ => some frame
  | counted _ | read _ _ | wrote _ _ _ | lookedUp _ _ => none

/-- Whether an effect is a request to the bus. -/
def isBusRequest : Effect → Bool
  | read _ _ | wrote _ _ _ => true
  | counted _ | lookedUp _ _ | handedOver _ _ => false

/-- The frames that were handed over, in order. -/
def frames (effects : List Effect) : List (List UInt8) :=
  effects.filterMap frame?

end Effect

/-- What request tasks act on. -/
structure World (β γ : Type) where
  bus : β
  outlets : γ
  metrics : Metrics

namespace World

variable {β γ : Type}

def record (w : World β γ) (counter : Counter) : World β γ :=
  { w with metrics := w.metrics.record counter }

variable [Bus β] [Outlets γ]

/-- Asks the bus to read an address. -/
def readBus (w : World β γ) (a : GroupAddress) : BusAnswer × World β γ :=
  ((Bus.readRequest w.bus a).1, { w with bus := (Bus.readRequest w.bus a).2 })

/-- Asks the bus to write a value. -/
def writeBus (w : World β γ) (a : GroupAddress) (v : DatapointValue) : BusAnswer × World β γ :=
  ((Bus.writeRequest w.bus a v).1, { w with bus := (Bus.writeRequest w.bus a v).2 })

/-- Hands a frame to a connection. -/
def send (w : World β γ) (c : ConnectionId) (frame : List UInt8) : SendOutcome × World β γ :=
  ((Outlets.trySend w.outlets c frame).1,
    { w with outlets := (Outlets.trySend w.outlets c frame).2 })

end World

namespace RequestTask

variable {β γ : Type} [Bus β] [Outlets γ]

/-! ## Runs -/

/-- One atomic action of a task whose request came from connection `c`, unless the task is
    done. -/
def step (c : ConnectionId) (task : RequestTask) (w : World β γ) :
    Option (Effect × RequestTask × World β γ) :=
  match task with
  | .done => none
  | .count counter next => some (.counted counter, next, w.record counter)
  | .readBus a next => some (.read a (w.readBus a).1, next (w.readBus a).1, (w.readBus a).2)
  | .writeBus a v next =>
    some (.wrote a v (w.writeBus a v).1, next (w.writeBus a v).1, (w.writeBus a v).2)
  | .lookUp a next => some (.lookedUp a (Bus.lastValue w.bus a), next (Bus.lastValue w.bus a), w)
  | .send frame next =>
    some (.handedOver frame (w.send c frame).1, next (w.send c frame).1, (w.send c frame).2)

/-- All actions of a task, one after the other without interruption. -/
def run (c : ConnectionId) : RequestTask → World β γ → List Effect × World β γ
  | .done, w => ([], w)
  | .count counter next, w =>
    let (effects, w') := run c next (w.record counter)
    (.counted counter :: effects, w')
  | .readBus a next, w =>
    let (effects, w') := run c (next (w.readBus a).1) (w.readBus a).2
    (.read a (w.readBus a).1 :: effects, w')
  | .writeBus a v next, w =>
    let (effects, w') := run c (next (w.writeBus a v).1) (w.writeBus a v).2
    (.wrote a v (w.writeBus a v).1 :: effects, w')
  | .lookUp a next, w =>
    let (effects, w') := run c (next (Bus.lastValue w.bus a)) w
    (.lookedUp a (Bus.lastValue w.bus a) :: effects, w')
  | .send frame next, w =>
    let (effects, w') := run c (next (w.send c frame).1) (w.send c frame).2
    (.handedOver frame (w.send c frame).1 :: effects, w')

/-- The effects that a task can have, whatever it is answered. -/
inductive Performs : RequestTask → List Effect → Prop where
  | done : Performs .done []
  | count {counter : Counter} {next : RequestTask} {effects : List Effect} :
      Performs next effects → Performs (.count counter next) (.counted counter :: effects)
  | readBus {a : GroupAddress} {next : BusAnswer → RequestTask} {effects : List Effect}
      (answer : BusAnswer) :
      Performs (next answer) effects → Performs (.readBus a next) (.read a answer :: effects)
  | writeBus {a : GroupAddress} {v : DatapointValue} {next : BusAnswer → RequestTask}
      {effects : List Effect} (answer : BusAnswer) :
      Performs (next answer) effects → Performs (.writeBus a v next) (.wrote a v answer :: effects)
  | lookUp {a : GroupAddress} {next : Option (List UInt8) → RequestTask} {effects : List Effect}
      (value : Option (List UInt8)) :
      Performs (next value) effects → Performs (.lookUp a next) (.lookedUp a value :: effects)
  | send {frame : List UInt8} {next : SendOutcome → RequestTask} {effects : List Effect}
      (outcome : SendOutcome) :
      Performs (next outcome) effects →
        Performs (.send frame next) (.handedOver frame outcome :: effects)

/-- A run in any world has effects that the task can have. -/
theorem performs_run (c : ConnectionId) (task : RequestTask) (w : World β γ) :
    Performs task (task.run c w).1 := by
  induction task generalizing w with
  | done => exact .done
  | count counter next ih => exact .count (ih _)
  | readBus a next ih => exact .readBus _ (ih _ _)
  | writeBus a v next ih => exact .writeBus _ (ih _ _)
  | lookUp a next ih => exact .lookUp _ (ih _ _)
  | send frame next ih => exact .send _ (ih _ _)

end RequestTask

end KnxGateway
