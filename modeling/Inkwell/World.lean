import Inkwell.Cache
import Inkwell.Config
import Inkwell.Runner
import Inkwell.State
import Inkwell.Transaction
set_option autoImplicit false

/-! All that calls read and change: accounts, caches, settings, the block, the transaction. -/

namespace Inkwell

structure Block where
  number : Word := 0
  timestamp : Word := 1
  deriving DecidableEq, Repr

namespace Block

def height (b : Block) : Nat := clamp64 b.number.toNat

def time (b : Block) : Nat := clamp64 b.timestamp.toNat

end Block

/-- A program as it was handed to the runner. -/
structure Start where
  artifact : Artifact
  env : Environment
  meter : Meter
  deriving DecidableEq, Repr

structure World where
  ledger : Ledger := {}
  cache : Cache
  config : Config := {}
  block : Block := {}
  transaction : Transaction := {}
  /-- Every start so far, latest first. -/
  starts : List Start := []

/-- Work on a world. What was changed before an error stays. -/
abbrev WorldM := ExceptT ProgramError (StateM World)

namespace World

def now (w : World) : Nat := w.block.time

def settings (w : World) (p : Params) : CompileSettings :=
  ⟨p.version, w.config.debug, p.pageLimit, p.maxWasmSize⟩

def revert (c : Checkpoint) (w : World) : World := { w with ledger := w.ledger.revert c }

/-- Works on the state at nobody's expense. -/
def onState {α : Type} (frozen : Bool) (m : Access α) : WorldM α := do
  let w ← get
  let (r, d) := m.run.run { ledger := w.ledger, frozen }
  set { w with ledger := d.ledger }
  MonadExcept.ofExcept r

def onLedger {α : Type} (m : LedgerM α) : WorldM α := onState false (Access.onLedger m)

/-- Does something, and undoes its changes if it fails. -/
def atomically {ε α : Type} (m : ExceptT ε (StateM World) α) : ExceptT ε (StateM World) α := do
  let c := (← get).ledger.checkpoint
  tryCatch m fun e => do
    modify (revert c)
    throw e

/-- Compiles a module, or finds it compiled. -/
def load (wasm : Octets) (s : CompileSettings) (keep : Bool) : WorldM Loaded := do
  let w ← get
  let (r, cache) := w.cache.load compile wasm s keep
  set { w with cache }
  MonadExcept.ofExcept (r.mapError .compile)

end World
end Inkwell
