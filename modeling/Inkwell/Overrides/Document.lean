import Inkwell.Document.Printer
import Inkwell.Document.Reader
import Inkwell.Document.Typed
import Inkwell.Overrides
set_option autoImplicit false

/-! Overrides and scopes as documents. -/

namespace Inkwell

namespace Overrides

open Document

def names : List String := ["version", "inkPrice", "maxStackDepth", "freePages", "pageGas",
  "pageRamp", "pageLimit", "minInitGas", "minCachedInitGas", "initCostScalar", "cachedCostScalar",
  "expiryDays", "keepaliveDays", "blockCacheSize", "maxWasmSize", "arbosVersion", "debugMode",
  "autoActivate", "autoCache", "deployer", "longLivedCacheSize"]

def members (o : Overrides) : List (String × Document) :=
  let nat (n : Option Nat) := ofOption ofNat n
  [("version", nat (o.version.map UInt16.toNat)), ("inkPrice", nat (o.inkPrice.map UInt32.toNat)),
   ("maxStackDepth", nat (o.maxStackDepth.map UInt32.toNat)),
   ("freePages", nat (o.freePages.map UInt16.toNat)),
   ("pageGas", nat (o.pageGas.map UInt16.toNat)), ("pageRamp", nat (o.pageRamp.map UInt64.toNat)),
   ("pageLimit", nat (o.pageLimit.map UInt16.toNat)),
   ("minInitGas", nat (o.minInitGas.map UInt8.toNat)),
   ("minCachedInitGas", nat (o.minCachedInitGas.map UInt8.toNat)),
   ("initCostScalar", nat (o.initCostScalar.map UInt8.toNat)),
   ("cachedCostScalar", nat (o.cachedCostScalar.map UInt8.toNat)),
   ("expiryDays", nat (o.expiryDays.map UInt16.toNat)),
   ("keepaliveDays", nat (o.keepaliveDays.map UInt16.toNat)),
   ("blockCacheSize", nat (o.blockCacheSize.map UInt16.toNat)),
   ("maxWasmSize", nat (o.maxWasmSize.map UInt32.toNat)),
   ("arbosVersion", nat (o.chainVersion.map UInt16.toNat)),
   ("debugMode", ofOption .bool o.debugMode), ("autoActivate", ofOption .bool o.autoActivate),
   ("autoCache", ofOption .bool o.autoCache), ("deployer", ofOption ofAddress o.deployer),
   ("longLivedCacheSize", nat (o.longLivedCacheSize.map UInt64.toNat))]

def ofMembers? (ms : List (String × Document)) : Option Overrides := do
  pure {
    version := ← setting? toUInt16? ms "version"
    inkPrice := ← setting? toUInt32? ms "inkPrice"
    maxStackDepth := ← setting? toUInt32? ms "maxStackDepth"
    freePages := ← setting? toUInt16? ms "freePages"
    pageGas := ← setting? toUInt16? ms "pageGas"
    pageRamp := ← setting? toUInt64? ms "pageRamp"
    pageLimit := ← setting? toUInt16? ms "pageLimit"
    minInitGas := ← setting? toUInt8? ms "minInitGas"
    minCachedInitGas := ← setting? toUInt8? ms "minCachedInitGas"
    initCostScalar := ← setting? toUInt8? ms "initCostScalar"
    cachedCostScalar := ← setting? toUInt8? ms "cachedCostScalar"
    expiryDays := ← setting? toUInt16? ms "expiryDays"
    keepaliveDays := ← setting? toUInt16? ms "keepaliveDays"
    blockCacheSize := ← setting? toUInt16? ms "blockCacheSize"
    maxWasmSize := ← setting? toUInt32? ms "maxWasmSize"
    chainVersion := ← setting? toUInt16? ms "arbosVersion"
    debugMode := ← setting? toBool? ms "debugMode"
    autoActivate := ← setting? toBool? ms "autoActivate"
    autoCache := ← setting? toBool? ms "autoCache"
    deployer := ← setting? toAddress? ms "deployer"
    longLivedCacheSize := ← setting? toUInt64? ms "longLivedCacheSize" }

def toDocument (o : Overrides) : Document := ofRecord o.members

def ofDocument? (j : Document) : Option Overrides := do ofMembers? (← record? names j)

def render (o : Overrides) : String := o.toDocument.render

def parse? (s : String) : Option Overrides := do ofDocument? (← Document.parse? s)

end Overrides

namespace Suite

open Document

/-- The levels that may be opened below a suite's own. -/
def room : Nat := 124

def toDocument (s : Suite) : Document :=
  ofRecord (s.overrides.members ++ [("cases", ofTable Overrides.toDocument s.cases)])

/-- All members but the cases are held until it is known which of them are overrides. -/
def ofDocument? : Document → Option Suite
  | .object ms => do
    let ms ← named? ms
    let held := ms.filter (·.1 ≠ "cases")
    if held.all (·.2.isHoldable room) then
      pure {
        overrides := ← Overrides.ofMembers? (← pick? Overrides.names held)
        cases := ← defaulted? (toTable? Overrides.ofDocument?) (← pick? ["cases"] ms) "cases" {} }
    else none
  | _ => none

def render (s : Suite) : String := s.toDocument.render

end Suite

namespace Scopes

open Document

def names : List String := ["global", "suites"]

def toDocument (s : Scopes) : Document :=
  ofRecord [("global", s.global.toDocument), ("suites", ofTable Suite.toDocument s.suites)]

def ofDocument? (j : Document) : Option Scopes := do
  let ms ← record? names j
  pure {
    global := ← defaulted? Overrides.ofDocument? ms "global" {}
    suites := ← defaulted? (toTable? Suite.ofDocument?) ms "suites" {} }

def render (s : Scopes) : String := s.toDocument.render

def parse? (s : String) : Option Scopes := do ofDocument? (← Document.parse? s)

end Scopes
end Inkwell
