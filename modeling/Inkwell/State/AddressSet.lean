import Inkwell.Slot
import Inkwell.State.Access
set_option autoImplicit false

/-! A set of addresses in a space of slots: its size, its elements from one upwards, and beside them
where each address stands, zero for one that does not belong. -/

namespace Inkwell

structure AddressSet where
  space : Word

namespace AddressSet

open Access

def sizeSlot (s : AddressSet) : Word := Slot.ofKey s.space 0

def elementSlot (s : AddressSet) (i : Nat) : Word := Slot.ofKey s.space (BitVec.ofNat 256 i)

def indexSlot (s : AddressSet) (a : Address) : Word :=
  Slot.ofKey (Slot.within s.space [0]) a.toWord

def size (s : AddressSet) : Access Nat := loadNat 64 s.sizeSlot

def index (s : AddressSet) (a : Address) : Access Nat := loadNat 64 (s.indexSlot a)

def contains (s : AddressSet) (a : Address) : Access Bool := return (← s.index a) ≠ 0

def elements (s : AddressSet) (i : Nat) : (count : Nat) → Access (List Address)
  | 0 => pure []
  | count+1 => do
    let a ← loadAddress (s.elementSlot i)
    pure (a :: (← elements s (i + 1) count))

def all (s : AddressSet) : Access (List Address) := do s.elements 1 (← s.size)

def add (s : AddressSet) (a : Address) : Access Unit := do
  if ← s.contains a then return
  let size := (← s.size) + 1
  storeNat s.sizeSlot size
  storeAddress (s.elementSlot size) a
  storeNat (s.indexSlot a) size

/-- The last element takes the place of the one that leaves. -/
def remove (s : AddressSet) (a : Address) : Access Unit := do
  let index ← s.index a
  if index = 0 then return
  storeNat (s.indexSlot a) 0
  let size ← s.size
  if index < size then
    let last ← loadAddress (s.elementSlot size)
    storeAddress (s.elementSlot index) last
    storeNat (s.indexSlot last) index
  storeAddress (s.elementSlot size) 0
  storeNat s.sizeSlot (size - 1)

end AddressSet
end Inkwell
