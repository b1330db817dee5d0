import Inkwell.Wasm.Canonical
import Inkwell.Wasm.Component
set_option autoImplicit false

/-! Bringing a module into its canonical binary form. -/

namespace Inkwell

inductive NormalizeError where
  | invalid
  | component
  deriving DecidableEq, Repr

/-- A component counts as a module only when nothing in it needs to be kept: an empty section of
canonical functions has the binary form of a start function with index zero. -/
def Wasm.Component.asModule? (c : Wasm.Component) : Option Wasm.Module :=
  if c.hollow then some { start := if c.emptyCanons then some 0 else none } else none

def normalize (wasm : Octets) : Except NormalizeError Octets :=
  match Wasm.Binary.read? wasm with
  | none => .error .invalid
  | some (.module m) => .ok m.canonical.write
  | some (.component c) =>
    match c.asModule? with
    | some m => .ok m.write
    | none => .error .component

end Inkwell
