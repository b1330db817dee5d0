import Inkwell.Wasm.Valid
set_option autoImplicit false

/-! The canonical form of a module: nothing in it that its meaning does not need. -/

namespace Inkwell.Wasm

/-- Merges neighbours of one type and drops groups of none. -/
def mergeLocals : List (Nat × ValType) → List (Nat × ValType)
  | [] => []
  | (0, _) :: rest => mergeLocals rest
  | (n, t) :: rest =>
    match mergeLocals rest with
    | (k, u) :: rest => if t = u then (n + k, t) :: rest else (n, t) :: (k, u) :: rest
    | [] => [(n, t)]

def Body.canonical (b : Body) : Body := { b with locals := mergeLocals b.locals }

/-- Whether reading the body takes the number of data segments: memory.init, data.drop,
array.new_data and array.init_data name one. -/
def Instruction.usesData (i : Instruction) : Bool :=
  i.op ∈ [⟨0xfc, 0x08⟩, ⟨0xfc, 0x09⟩, ⟨0xfb, 0x09⟩, ⟨0xfb, 0x12⟩]

def Body.usesData (b : Body) : Bool := b.code.any Instruction.usesData

namespace Module

def canonical (m : Module) : Module :=
  { m with
    code := m.code.map Body.canonical
    dataCount := if m.code.any Body.usesData then some m.data.length else none }

end Module
end Inkwell.Wasm
