import Inkwell.Document.Printer
import Inkwell.Document.Reader
import Inkwell.Document.Typed
import Inkwell.Params
import Inkwell.Pricer
set_option autoImplicit false

/-! What the state of programs starts from, and its document. -/

namespace Inkwell

structure StateParams where
  feeAccount : Address := 0
  params : Params := {}
  pricer : Pricer := {}
  managers : List Address := []
  deriving DecidableEq, Repr

open Document

namespace Params

def names : List String := ["version", "ink_price", "max_stack_depth", "free_pages", "page_gas",
  "page_ramp", "page_limit", "min_init_gas", "min_cached_init_gas", "init_cost_scalar",
  "cached_cost_scalar", "expiry_days", "keepalive_days", "block_cache_size", "max_wasm_size"]

def toDocument (p : Params) : Document := ofRecord
  [("version", ofNat p.version.toNat), ("ink_price", ofNat p.inkPrice.toNat),
   ("max_stack_depth", ofNat p.maxStackDepth.toNat), ("free_pages", ofNat p.freePages.toNat),
   ("page_gas", ofNat p.pageGas.toNat), ("page_ramp", ofNat p.pageRamp.toNat),
   ("page_limit", ofNat p.pageLimit.toNat), ("min_init_gas", ofNat p.minInitGas.toNat),
   ("min_cached_init_gas", ofNat p.minCachedInitGas.toNat),
   ("init_cost_scalar", ofNat p.initCostScalar.toNat),
   ("cached_cost_scalar", ofNat p.cachedCostScalar.toNat),
   ("expiry_days", ofNat p.expiryDays.toNat), ("keepalive_days", ofNat p.keepaliveDays.toNat),
   ("block_cache_size", ofNat p.blockCacheSize.toNat),
   ("max_wasm_size", ofNat p.maxWasmSize.toNat)]

def ofDocument? (j : Document) : Option Params := do
  let ms ← record? names j
  pure {
    version := ← required? toUInt16? ms "version"
    inkPrice := ← required? toUInt32? ms "ink_price"
    maxStackDepth := ← required? toUInt32? ms "max_stack_depth"
    freePages := ← required? toUInt16? ms "free_pages"
    pageGas := ← required? toUInt16? ms "page_gas"
    pageRamp := ← required? toUInt64? ms "page_ramp"
    pageLimit := ← required? toUInt16? ms "page_limit"
    minInitGas := ← required? toUInt8? ms "min_init_gas"
    minCachedInitGas := ← required? toUInt8? ms "min_cached_init_gas"
    initCostScalar := ← required? toUInt8? ms "init_cost_scalar"
    cachedCostScalar := ← required? toUInt8? ms "cached_cost_scalar"
    expiryDays := ← required? toUInt16? ms "expiry_days"
    keepaliveDays := ← required? toUInt16? ms "keepalive_days"
    blockCacheSize := ← required? toUInt16? ms "block_cache_size"
    maxWasmSize := ← required? toUInt32? ms "max_wasm_size" }

end Params

namespace Pricer

def names : List String :=
  ["demand", "bytes_per_second", "last_update_time", "min_price", "inertia"]

def toDocument (p : Pricer) : Document := ofRecord
  [("demand", ofNat p.demand.toNat), ("bytes_per_second", ofNat p.bytesPerSecond.toNat),
   ("last_update_time", ofNat p.lastUpdate.toNat), ("min_price", ofNat p.minPrice.toNat),
   ("inertia", ofNat p.inertia.toNat)]

def ofDocument? (j : Document) : Option Pricer := do
  let ms ← record? names j
  pure {
    demand := ← required? toUInt32? ms "demand"
    bytesPerSecond := ← required? toUInt32? ms "bytes_per_second"
    lastUpdate := ← required? toUInt64? ms "last_update_time"
    minPrice := ← required? toUInt32? ms "min_price"
    inertia := ← required? toUInt32? ms "inertia" }

end Pricer

namespace StateParams

def names : List String :=
  ["network_fee_account", "stylus_params", "data_pricer_params", "cache_managers"]

def toDocument (p : StateParams) : Document := ofRecord
  [("network_fee_account", ofAddress p.feeAccount), ("stylus_params", p.params.toDocument),
   ("data_pricer_params", p.pricer.toDocument), ("cache_managers", ofList ofAddress p.managers)]

def ofDocument? (j : Document) : Option StateParams := do
  let ms ← record? names j
  pure {
    feeAccount := ← required? toAddress? ms "network_fee_account"
    params := ← required? Params.ofDocument? ms "stylus_params"
    pricer := ← required? Pricer.ofDocument? ms "data_pricer_params"
    managers := ← required? (toList? toAddress?) ms "cache_managers" }

def render (p : StateParams) : String := p.toDocument.render

def parse? (s : String) : Option StateParams := do ofDocument? (← Document.parse? s)

end StateParams
end Inkwell
