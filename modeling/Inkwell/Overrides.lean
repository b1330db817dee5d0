import Inkwell.Config
import Inkwell.Params
import Inkwell.Table
set_option autoImplicit false

/-! Partial settings in layers. What a finer layer leaves unset comes from the coarser one. -/

namespace Inkwell

structure Overrides where
  version : Option UInt16 := none
  inkPrice : Option UInt32 := none
  maxStackDepth : Option UInt32 := none
  freePages : Option UInt16 := none
  pageGas : Option UInt16 := none
  pageRamp : Option UInt64 := none
  pageLimit : Option UInt16 := none
  minInitGas : Option UInt8 := none
  minCachedInitGas : Option UInt8 := none
  initCostScalar : Option UInt8 := none
  cachedCostScalar : Option UInt8 := none
  expiryDays : Option UInt16 := none
  keepaliveDays : Option UInt16 := none
  blockCacheSize : Option UInt16 := none
  maxWasmSize : Option UInt32 := none
  chainVersion : Option UInt16 := none
  debugMode : Option Bool := none
  autoActivate : Option Bool := none
  autoCache : Option Bool := none
  deployer : Option Address := none
  longLivedCacheSize : Option UInt64 := none
  deriving DecidableEq, Repr

namespace Overrides

/-- Lays `finer` over `base`. -/
def merge (base finer : Overrides) : Overrides where
  version := finer.version.or base.version
  inkPrice := finer.inkPrice.or base.inkPrice
  maxStackDepth := finer.maxStackDepth.or base.maxStackDepth
  freePages := finer.freePages.or base.freePages
  pageGas := finer.pageGas.or base.pageGas
  pageRamp := finer.pageRamp.or base.pageRamp
  pageLimit := finer.pageLimit.or base.pageLimit
  minInitGas := finer.minInitGas.or base.minInitGas
  minCachedInitGas := finer.minCachedInitGas.or base.minCachedInitGas
  initCostScalar := finer.initCostScalar.or base.initCostScalar
  cachedCostScalar := finer.cachedCostScalar.or base.cachedCostScalar
  expiryDays := finer.expiryDays.or base.expiryDays
  keepaliveDays := finer.keepaliveDays.or base.keepaliveDays
  blockCacheSize := finer.blockCacheSize.or base.blockCacheSize
  maxWasmSize := finer.maxWasmSize.or base.maxWasmSize
  chainVersion := finer.chainVersion.or base.chainVersion
  debugMode := finer.debugMode.or base.debugMode
  autoActivate := finer.autoActivate.or base.autoActivate
  autoCache := finer.autoCache.or base.autoCache
  deployer := finer.deployer.or base.deployer
  longLivedCacheSize := finer.longLivedCacheSize.or base.longLivedCacheSize

/-- Layers from coarse to fine. -/
def mergeAll (layers : List Overrides) : Overrides := layers.foldl merge {}

/-- Sets the parameters that are overridden; the price of ink never exceeds its field. -/
def applyParams (o : Overrides) (p : Params) : Params where
  version := o.version.getD p.version
  inkPrice := min (o.inkPrice.getD p.inkPrice) 0xffffff
  maxStackDepth := o.maxStackDepth.getD p.maxStackDepth
  freePages := o.freePages.getD p.freePages
  pageGas := o.pageGas.getD p.pageGas
  pageRamp := o.pageRamp.getD p.pageRamp
  pageLimit := o.pageLimit.getD p.pageLimit
  minInitGas := o.minInitGas.getD p.minInitGas
  minCachedInitGas := o.minCachedInitGas.getD p.minCachedInitGas
  initCostScalar := o.initCostScalar.getD p.initCostScalar
  cachedCostScalar := o.cachedCostScalar.getD p.cachedCostScalar
  expiryDays := o.expiryDays.getD p.expiryDays
  keepaliveDays := o.keepaliveDays.getD p.keepaliveDays
  blockCacheSize := o.blockCacheSize.getD p.blockCacheSize
  maxWasmSize := o.maxWasmSize.getD p.maxWasmSize

def applyConfig (o : Overrides) (c : Config) : Config :=
  { c with
    chainVersion := o.chainVersion.getD c.chainVersion
    debug := o.debugMode.getD c.debug
    autoActivate := o.autoActivate.getD c.autoActivate
    autoCache := o.autoCache.getD c.autoCache
    deployer := o.deployer.or c.deployer
    cacheCapacity := (o.longLivedCacheSize.map UInt64.toNat).getD c.cacheCapacity }

def params (o : Overrides) : Params := o.applyParams {}

end Overrides

structure Suite where
  overrides : Overrides := {}
  cases : Table String Overrides := {}

structure Scopes where
  global : Overrides := {}
  suites : Table String Suite := {}

/-- The settings of a case in a suite. What is not named has no overrides. -/
def Scopes.resolve (s : Scopes) (suite case : String) : Overrides :=
  match s.suites.get? suite with
  | none => s.global
  | some u =>
    let o := s.global.merge u.overrides
    match u.cases.get? case with
    | none => o
    | some c => o.merge c

end Inkwell
