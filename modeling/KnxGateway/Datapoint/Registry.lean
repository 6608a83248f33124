import KnxGateway.Datapoint.Type
import KnxGateway.Table

set_option autoImplicit false

/-! # The registry of data point types

A registry knows types by their ids; registering a type replaces the one with the same id. An id
that is not registered falls back to its base type, and a base type that is not registered to raw
bytes, so that every id resolves to some type. -/

namespace KnxGateway

/-- The data point types a gateway knows, by their ids. -/
structure Registry where
  types : Table DatapointId DatapointType

namespace Registry

/-- The registry without types. -/
def empty : Registry :=
  ⟨.empty⟩

/-- The registry with a type added, in place of a type with the same id. -/
def register (r : Registry) (dpt : DatapointType) : Registry :=
  ⟨r.types.insert dpt.id dpt⟩

/-- The registry with several types added in order. -/
def registerAll (r : Registry) (dpts : List DatapointType) : Registry :=
  dpts.foldl register r

/-- The number of registered types. -/
def size (r : Registry) : Nat :=
  r.types.size

/-- Whether no type is registered. -/
def isEmpty (r : Registry) : Bool :=
  r.types.isEmpty

/-- The type registered under exactly this id. -/
def lookup (r : Registry) (id : DatapointId) : Option DatapointType :=
  r.types.get? id

/-- The type that explains values of an id: the registered one, else its base type, else raw
    bytes. -/
def resolve (r : Registry) (id : DatapointId) : DatapointType :=
  ((r.lookup id).or (r.lookup id.base)).getD .raw

/-! ## Lookup after registration -/

@[simp] theorem lookup_empty (id : DatapointId) : empty.lookup id = none :=
  rfl

/-- A registration changes the lookup of its own id only. -/
theorem lookup_register (r : Registry) (dpt : DatapointType) (id : DatapointId) :
    (r.register dpt).lookup id = if id = dpt.id then some dpt else r.lookup id :=
  Table.get?_insert ..

/-! ## The reference types -/

/-- The types a gateway knows from the start: switches, bytes and percentages, counters and colour
    temperatures. -/
def referenceTypes : List DatapointType :=
  [.boolean ⟨1, 0⟩ "false" "true",
    .boolean ⟨1, 1⟩ "off" "on",
    .boolean ⟨1, 2⟩ "false" "true",
    .boolean ⟨1, 3⟩ "disable" "enable",
    .unsigned ⟨5, 0⟩ (.byte ""),
    .unsigned ⟨5, 1⟩ .percent,
    .unsigned ⟨5, 10⟩ (.byte "pulses"),
    .unsigned ⟨7, 0⟩ (.word "pulses"),
    .unsigned ⟨7, 1⟩ (.word "pulses"),
    .unsigned ⟨7, 600⟩ (.word "K")]

/-- The registry of the reference types. -/
def reference : Registry :=
  empty.registerAll referenceTypes

end Registry

end KnxGateway
