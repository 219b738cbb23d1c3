import Automation.Export.Target

/-!
# Virtual tables

The functions of an interface come after the slots of the standard contract and those of its bases.
Numbers of slots and offsets stop at the largest number of 32 bits.
-/

namespace Automation.Export

open Library

/-- The largest number of 32 bits. -/
def maxUnsigned : Nat := 0xFFFFFFFF

/-- A number, or the largest one of 32 bits if it is greater. -/
def saturate (n : Nat) : Nat := min n maxUnsigned

/-- The slots of one interface. -/
structure VirtualTable where
  /-- The slots of the standard contract. -/
  reserved : Nat
  /-- The slots of the bases. -/
  inherited : Nat
  /-- The size of a slot in bytes. -/
  slotSize : Nat
  deriving DecidableEq, Repr

namespace VirtualTable

/-- The slots of an interface with the given binding and number of inherited slots. -/
def ofBinding (binding : Binding) (inherited : Nat) (width : PointerWidth) : VirtualTable where
  reserved := reservedSlots binding.typeKind binding.flags
  inherited := inherited
  slotSize := width.bytes

/-- The first slot of the interface's own functions. -/
def firstSlot (t : VirtualTable) : Nat := t.reserved + t.inherited

/-- The offset of the own function at an index. -/
def offset (t : VirtualTable) (index : Nat) : Nat :=
  saturate (saturate (t.firstSlot + saturate index) * t.slotSize)

end VirtualTable

end Automation.Export
