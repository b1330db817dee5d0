import Inkwell.Overrides
set_option autoImplicit false

/-! Layers of overrides. Laying one over another is applying the one after the other, so that a whole
stack of layers can be merged first and applied once. -/

namespace Inkwell

namespace Overrides

def ofSettings (p : Params) (c : Config) (deployer : Address) (capacity : UInt64) : Overrides where
  version := p.version
  inkPrice := p.inkPrice
  maxStackDepth := p.maxStackDepth
  freePages := p.freePages
  pageGas := p.pageGas
  pageRamp := p.pageRamp
  pageLimit := p.pageLimit
  minInitGas := p.minInitGas
  minCachedInitGas := p.minCachedInitGas
  initCostScalar := p.initCostScalar
  cachedCostScalar := p.cachedCostScalar
  expiryDays := p.expiryDays
  keepaliveDays := p.keepaliveDays
  blockCacheSize := p.blockCacheSize
  maxWasmSize := p.maxWasmSize
  chainVersion := c.chainVersion
  debugMode := c.debug
  autoActivate := c.autoActivate
  autoCache := c.autoCache
  deployer := deployer
  longLivedCacheSize := capacity

variable {p : Params} {c : Config} {deployer : Address} {capacity : UInt64}

theorem empty_merge (o : Overrides) : merge {} o = o := by
  cases o
  simp only [merge, Option.or_none]

theorem merge_empty (o : Overrides) : o.merge {} = o := by
  cases o
  simp only [merge, Option.none_or]

theorem merge_assoc (a b c : Overrides) : (a.merge b).merge c = a.merge (b.merge c) := by
  simp only [merge, Option.or_assoc]

theorem min_getD_min (price : Option UInt32) (before cap : UInt32) :
    min (price.getD (min before cap)) cap = min (price.getD before) cap := by
  cases price with
  | none => exact Std.LawfulOrderLeftLeaningMin.min_eq_left _ _ Std.min_le_right
  | some _ => rfl

theorem applyParams_merge (a b : Overrides) (p : Params) :
    (a.merge b).applyParams p = b.applyParams (a.applyParams p) := by
  simp only [applyParams, merge, Option.getD_or, min_getD_min]

theorem applyConfig_merge (a b : Overrides) (c : Config) :
    (a.merge b).applyConfig c = b.applyConfig (a.applyConfig c) := by
  simp only [applyConfig, merge, Option.getD_or, Option.or_assoc, Option.map_or]

theorem toNat_inkPrice_le (o : Overrides) (p : Params) :
    (o.applyParams p).inkPrice.toNat ≤ Params.maxInkPrice :=
  UInt32.le_iff_toNat_le.mp (Std.min_le_right (a := o.inkPrice.getD p.inkPrice) (b := 0xffffff))

theorem applyParams_ofSettings (q : Params) : (ofSettings p c deployer capacity).applyParams q =
    { p with inkPrice := min p.inkPrice 0xffffff } := rfl

theorem applyConfig_ofSettings (d : Config) : (ofSettings p c deployer capacity).applyConfig d =
    { c with deployer := some deployer, cacheCapacity := capacity.toNat, chain := d.chain } := rfl

theorem mergeAll_cons (o : Overrides) (layers : List Overrides) :
    mergeAll (o :: layers) = layers.foldl merge o := by
  rw [mergeAll, List.foldl_cons, empty_merge]

theorem apply_mergeAll {σ : Type} {apply : Overrides → σ → σ}
    (h : ∀ a b s, apply (a.merge b) s = apply b (apply a s)) (o : Overrides) (layers : List Overrides)
    (s : σ) : apply (mergeAll (o :: layers)) s = (o :: layers).foldl (fun s o => apply o s) s := by
  rw [mergeAll_cons]
  induction layers generalizing o s with
  | nil => rfl
  | cons b layers ih => rw [List.foldl_cons, ih, List.foldl_cons, h]; rfl

end Overrides

namespace Scopes

open Overrides

/-- The layers that a case in a suite has, from coarse to fine. -/
def layers (s : Scopes) (suite case : String) : List Overrides :=
  let found := s.suites.get? suite
  s.global :: ((found.map Suite.overrides).toList ++ (found.bind (·.cases.get? case)).toList)

theorem resolve_eq (s : Scopes) (suite case : String) :
    s.resolve suite case = mergeAll (s.layers suite case) := by
  unfold resolve layers
  rw [mergeAll_cons]
  cases s.suites.get? suite with
  | none => rfl
  | some u => cases hcase : u.cases.get? case <;> simp [hcase]

end Scopes

/-- A stack of layers, from coarse to fine. Merged, they set the parameters and the configuration as they
do one after the other. Merging is associative, with nothing overridden as its unit, and a layer that
overrides everything leaves nothing of what was before. The price of ink is capped in any case. A
case in a suite has the settings of all, of its suite and of its own, of those that there are. -/
theorem Overrides.layers_in_order (o : Overrides) (layers : List Overrides) (p : Params) (c : Config) :
    mergeAll (o :: layers) = layers.foldl merge o ∧
    (mergeAll (o :: layers)).applyParams p = (o :: layers).foldl (fun p o => o.applyParams p) p ∧
    (mergeAll (o :: layers)).applyConfig c = (o :: layers).foldl (fun c o => o.applyConfig c) c ∧
    ((mergeAll (o :: layers)).applyParams p).inkPrice.toNat ≤ Params.maxInkPrice ∧
    (∀ x y z : Overrides, (x.merge y).merge z = x.merge (y.merge z)) ∧
    (∀ x : Overrides, merge {} x = x ∧ x.merge {} = x) ∧
    (∀ (q : Params) (d : Config) (deployer : Address) (capacity : UInt64),
      (ofSettings q d deployer capacity).applyParams p =
        { q with inkPrice := min q.inkPrice 0xffffff } ∧
      (ofSettings q d deployer capacity).applyConfig c =
        { d with deployer := some deployer, cacheCapacity := capacity.toNat, chain := c.chain }) ∧
    (∀ (s : Scopes) (suite case : String), s.resolve suite case = mergeAll (s.layers suite case)) :=
  ⟨mergeAll_cons o layers, apply_mergeAll applyParams_merge o layers p,
    apply_mergeAll applyConfig_merge o layers c, toNat_inkPrice_le _ p, merge_assoc,
    fun x => ⟨empty_merge x, merge_empty x⟩,
    fun _ _ _ _ => ⟨applyParams_ofSettings p, applyConfig_ofSettings c⟩, Scopes.resolve_eq⟩

/-- A case takes what it sets, and from its suite and from all what it leaves open. -/
example :
    let memory : Suite := { overrides := { pageGas := some 900 },
                            cases := Table.empty.insert "big" { pageLimit := some 256 } }
    let s : Scopes := { global := { inkPrice := some 11000, pageGas := some 800 },
                        suites := Table.empty.insert "memory" memory }
    s.resolve "memory" "big" =
      { inkPrice := some 11000, pageGas := some 900, pageLimit := some 256 } := by decide

end Inkwell
