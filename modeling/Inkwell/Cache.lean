import Inkwell.Compile
import Inkwell.Cache.Lru
import Inkwell.Cache.Recent
set_option autoImplicit false

/-! Artifacts kept between calls, and the modules used in the current block. Neither changes what
a program does, only what it costs to start it. -/

namespace Inkwell

abbrev Compiler := Octets → CompileSettings → Except CompileError Artifact

structure Cache where
  artifacts : Lru Word Artifact
  recent : Recent := {}

structure Loaded where
  artifact : Artifact
  hit : Bool
  deriving DecidableEq, Repr

namespace Cache

def ofCapacity (n : Nat) : Cache := { artifacts := Lru.ofCapacity n }

def defaultCapacity : Nat := 1024

def capacity (c : Cache) : Nat := c.artifacts.capacity

def size (c : Cache) : Nat := c.artifacts.size

def contains (c : Cache) (module : Word) : Bool := c.artifacts.contains module

/-- The artifact of a module if it suits; one that does not is used all the same. -/
def get? (c : Cache) (module : Word) (s : CompileSettings) : Option Artifact × Cache :=
  let (found, artifacts) := c.artifacts.get? module
  (found.filter (·.suits s), { c with artifacts })

def insert (c : Cache) (a : Artifact) : Option Word × Cache :=
  let (evicted, artifacts) := c.artifacts.insert a.moduleHash a
  (evicted, { c with artifacts })

def evict (c : Cache) (module : Word) : Bool × Cache :=
  let (found, artifacts) := c.artifacts.erase module
  (found, { c with artifacts })

def clear (c : Cache) : Cache := { artifacts := c.artifacts.clear }

def startBlock (block : Nat) (c : Cache) : Cache := { c with recent := c.recent.enter block }

def touchRecent (block : Nat) (module : Word) (retain : Nat) (c : Cache) : Bool × Cache :=
  let (found, recent) := (c.recent.enter block).touch module retain
  (found, { c with recent })

def isRecent (c : Cache) (module : Word) : Bool := c.recent.modules.contains module

/-- The artifact of a module, compiled if none is kept that suits. It is kept if `keep` is set. -/
def load (c : Cache) (compiler : Compiler) (wasm : Octets) (s : CompileSettings) (keep : Bool) :
    Except CompileError Loaded × Cache :=
  match c.get? (keccak wasm) s with
  | (some a, c) => (.ok ⟨a, true⟩, c)
  | (none, c) =>
    match compiler wasm s with
    | .error e => (.error e, c)
    | .ok a => (.ok ⟨a, false⟩, if keep then (c.insert a).2 else c)

end Cache
end Inkwell
