import Inkwell.Meter.Pages
import Inkwell.Params
set_option autoImplicit false

/-! What a call pays before its program runs, and what its output costs afterwards. -/

namespace Inkwell

/-- A base of `minimum` units and a cost scaled in steps of two percent. -/
def scaledGas (unit minimum cost scalar : Nat) : Nat :=
  clamp64 (minimum * unit + ceilDiv (cost * (scalar * 2)) 100)

def initGas (cost : UInt16) (minimum scalar : UInt8) : Nat :=
  scaledGas 128 minimum.toNat cost.toNat scalar.toNat

def cachedInitGas (cost : UInt16) (minimum scalar : UInt8) : Nat :=
  scaledGas 32 minimum.toNat cost.toNat scalar.toNat

namespace Params

def pagePrice (p : Params) : PagePrice := ⟨p.freePages.toNat, p.pageGas.toNat⟩

def initGas (p : Params) (cost : UInt16) : Nat := Inkwell.initGas cost p.minInitGas p.initCostScalar

def cachedInitGas (p : Params) (cost : UInt16) : Nat :=
  Inkwell.cachedInitGas cost p.minCachedInitGas p.cachedCostScalar

/-- Gas for starting a program. From version two on, the price at the uncached tier contains the
cached one. -/
def startGas (p : Params) (initCost cachedCost : UInt16) (cached : Bool) : Nat :=
  clamp64 ((if cached ∨ 1 < p.version then p.cachedInitGas cachedCost else 0) +
    if cached then 0 else p.initGas initCost)

end Params

structure Entry where
  footprint : UInt16
  initCost : UInt16
  cachedCost : UInt16
  pagesOpen : Nat
  pagesEver : Nat
  cached : Bool
  deriving DecidableEq, Repr

def Entry.gas (e : Entry) (p : Params) : Nat :=
  clamp64 (p.pagePrice.cost e.footprint.toNat e.pagesOpen e.pagesEver +
    p.startGas e.initCost e.cachedCost e.cached)

def outputGas (size : Nat) : Nat :=
  let words := ceilDiv size 32
  clamp64 (clamp64 (words * 3) + clamp64 (words * words) / 512)

end Inkwell
