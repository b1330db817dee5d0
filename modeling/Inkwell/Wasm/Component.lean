import Inkwell.Wasm.Valid
set_option autoImplicit false

/-! Components, as far as they hold core modules, nested components, and types without parts. This is
a fragment of the format: a component with any other type, or with anything in a section of
instances, aliases, canonical functions, imports or exports, is not read. -/

namespace Inkwell.Wasm

/-- A core module as it stands among others. -/
structure Core where
  module : Module
  /-- The sections that it has, be they empty. -/
  sections : List UInt8 := []

namespace Core

def read? (bs : Octets) : Option Core := do
  let m ← Module.read? bs
  let raw ← RawSection.codec.many.readAll (bs.drop Module.header.length)
  if m.valid then some ⟨m, raw.map RawSection.id⟩ else none

end Core

structure Component where
  /-- The core modules inside, nested ones included, in their order. -/
  modules : List Core := []
  /-- Whether every section is custom or empty. -/
  hollow : Bool := true
  emptyCanons : Bool := false

namespace Component

def header : Octets := [0x00, 0x61, 0x73, 0x6d, 0x0d, 0x00, 0x01, 0x00]

/-- A type section whose types are primitive: booleans, numbers, characters and text. -/
def primitives : Codec (List UInt8) := (Codec.byte.guarded fun b => 0x73 ≤ b && b ≤ 0x7f).list

/-- Takes in a section; `nested` reads a component of at most the depth that is left. -/
def addSection (nested : Octets → Option Component) (c : Component) (s : RawSection) :
    Option Component :=
  match s.id with
  | 0 => if s.isNamed then some c else none
  | 1 => do
    let core ← Core.read? s.contents
    some { c with modules := c.modules ++ [core], hollow := false }
  | 4 => do
    let inner ← nested s.contents
    some { c with modules := c.modules ++ inner.modules, hollow := false }
  | 7 => do
    let types ← primitives.readAll s.contents
    some { c with hollow := c.hollow && types.isEmpty }
  | 8 => if s.contents = [0] then some { c with emptyCanons := true } else none
  | 2 | 3 | 5 | 6 | 10 | 11 => if s.contents = [0] then some c else none
  | _ => none

/-- The component in a byte string, if it is valid and nested at most `depth` deep. -/
def readWithin? : (depth : Nat) → Octets → Option Component
  | 0, _ => none
  | depth+1, bs =>
    if header.isPrefixOf bs then do
      let raw ← RawSection.codec.many.readAll (bs.drop header.length)
      raw.foldlM (addSection (readWithin? depth)) {}
    else none

def read? (bs : Octets) : Option Component := readWithin? (bs.length + 1) bs

end Component

inductive Binary where
  | module (m : Module)
  | component (c : Component)

namespace Binary

def read? (bs : Octets) : Option Binary :=
  if Component.header.isPrefixOf bs then (Component.read? bs).map .component
  else do
    let m ← Module.read? bs
    if m.valid then some (.module m) else none

def modules : Binary → List Core
  | .module m => [{ module := m }]
  | .component c => c.modules

end Binary
end Inkwell.Wasm
