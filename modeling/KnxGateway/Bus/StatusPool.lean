import KnxGateway.GroupAddress
import KnxGateway.Table

set_option autoImplicit false

/-! # The pool of last values

The pool remembers the bytes last seen at each group address. -/

namespace KnxGateway

/-- The last values by their addresses. -/
structure StatusPool where
  /-- The bytes of each address that has a value. -/
  values : Table GroupAddress (List UInt8)

namespace StatusPool

/-- The pool without values. -/
def empty : StatusPool :=
  ⟨.empty⟩

/-- The last value of an address. -/
def lastValue (p : StatusPool) (a : GroupAddress) : Option (List UInt8) :=
  p.values.get? a

/-- Whether an address has a value. -/
def contains (p : StatusPool) (a : GroupAddress) : Bool :=
  p.values.contains a

/-- The number of addresses with a value. -/
def size (p : StatusPool) : Nat :=
  p.values.size

/-- Whether no address has a value. -/
def isEmpty (p : StatusPool) : Bool :=
  p.values.isEmpty

/-- The pool with the value of an address replaced. -/
def set (p : StatusPool) (a : GroupAddress) (bytes : List UInt8) : StatusPool :=
  ⟨p.values.insert a bytes⟩

/-- The pool without the value of an address, and that value. -/
def remove (p : StatusPool) (a : GroupAddress) : Option (List UInt8) × StatusPool :=
  (p.lastValue a, ⟨p.values.erase a⟩)

/-! ## Views -/

theorem lastValue_set (p : StatusPool) (a x : GroupAddress) (bytes : List UInt8) :
    (p.set a bytes).lastValue x = if x = a then some bytes else p.lastValue x :=
  Table.get?_insert ..

theorem lastValue_remove (p : StatusPool) (a x : GroupAddress) :
    (p.remove a).2.lastValue x = if x = a then none else p.lastValue x :=
  Table.get?_erase ..

theorem contains_eq (p : StatusPool) (a : GroupAddress) :
    p.contains a = (p.lastValue a).isSome :=
  rfl

end StatusPool

end KnxGateway
