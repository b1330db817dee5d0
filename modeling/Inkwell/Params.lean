import Inkwell.Fields
set_option autoImplicit false

/-! The parameters that price and bound programs, and the word that keeps all but one of them. -/

namespace Inkwell

structure Params where
  version : UInt16 := 2
  /-- Ink that one unit of gas buys. -/
  inkPrice : UInt32 := 10000
  maxStackDepth : UInt32 := 262144
  freePages : UInt16 := 2
  pageGas : UInt16 := 1000
  /-- Kept outside the packed word. -/
  pageRamp : UInt64 := 620674314
  pageLimit : UInt16 := 128
  minInitGas : UInt8 := 72
  minCachedInitGas : UInt8 := 11
  initCostScalar : UInt8 := 50
  cachedCostScalar : UInt8 := 50
  expiryDays : UInt16 := 365
  keepaliveDays : UInt16 := 31
  blockCacheSize : UInt16 := 32
  maxWasmSize : UInt32 := 131072
  deriving DecidableEq, Repr

namespace Params

def maxInkPrice : Nat := 0xffffff

def toWord (p : Params) : Word := Word.pack
  [(2, p.version.toNat), (3, min p.inkPrice.toNat maxInkPrice), (4, p.maxStackDepth.toNat),
   (2, p.freePages.toNat), (2, p.pageGas.toNat), (2, p.pageLimit.toNat), (1, p.minInitGas.toNat),
   (1, p.minCachedInitGas.toNat), (1, p.initCostScalar.toNat), (1, p.cachedCostScalar.toNat),
   (2, p.expiryDays.toNat), (2, p.keepaliveDays.toNat), (2, p.blockCacheSize.toNat),
   (4, p.maxWasmSize.toNat)]

/-- Reads a packed word; the zero word stands for the defaults. -/
def ofWord (w : Word) : Params :=
  if w = 0 then {}
  else {
    version := UInt16.ofNat (w.field 0 2)
    inkPrice := UInt32.ofNat (w.field 2 3)
    maxStackDepth := UInt32.ofNat (w.field 5 4)
    freePages := UInt16.ofNat (w.field 9 2)
    pageGas := UInt16.ofNat (w.field 11 2)
    pageLimit := UInt16.ofNat (w.field 13 2)
    minInitGas := UInt8.ofNat (w.field 15 1)
    minCachedInitGas := UInt8.ofNat (w.field 16 1)
    initCostScalar := UInt8.ofNat (w.field 17 1)
    cachedCostScalar := UInt8.ofNat (w.field 18 1)
    expiryDays := UInt16.ofNat (w.field 19 2)
    keepaliveDays := UInt16.ofNat (w.field 21 2)
    blockCacheSize := UInt16.ofNat (w.field 23 2)
    maxWasmSize := UInt32.ofNat (w.field 25 4) }

end Params
end Inkwell
