import Inkwell.Octets
set_option autoImplicit false

/-! The modules used in the current block, latest first. -/

namespace Inkwell

structure Recent where
  block : Option Nat := none
  modules : List Word := []
  deriving DecidableEq, Repr

namespace Recent

def enter (block : Nat) (r : Recent) : Recent :=
  if r.block = some block then r else ⟨some block, []⟩

/-- Uses a module, and tells whether it was there. A new one makes room for itself when more than
`retain` would be there, and is not taken in when `retain` is zero. -/
def touch (m : Word) (retain : Nat) (r : Recent) : Bool × Recent :=
  if r.modules.contains m then (true, { r with modules := m :: r.modules.erase m })
  else if retain = 0 then (false, r)
  else
    let modules := m :: r.modules
    (false, { r with modules := if retain < modules.length then modules.dropLast else modules })

end Recent
end Inkwell
