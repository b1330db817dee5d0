import Inkwell.Activation
import Inkwell.Proofs.Records
import Inkwell.Proofs.Weights
set_option autoImplicit false

/-! The estimates in 64-bit arithmetic. No part of a formula is beyond 64 bits for what a binary of at
most 2 ^ 32 bytes can tell of, and what does not take too much to start is within all other bounds. -/

namespace Inkwell

/-- How a cost is put together from counts. -/
inductive Formula where
  | count (n : Nat)
  | plus (a b : Formula)
  /-- So many for each of a number of units, where a part of a unit does not count. -/
  | rate (a : Formula) (times units : Nat)
  deriving DecidableEq, Repr

namespace Formula

def value : Formula → Nat
  | .count n => n
  | .plus a b => a.value + b.value
  | .rate a times units => a.value * times / units

/-- The formula in 64 bits, where whatever is beyond them is lost. -/
def run : Formula → UInt64
  | .count n => UInt64.ofNat n
  | .plus a b => a.run + b.run
  | .rate a times units => a.run * UInt64.ofNat times / UInt64.ofNat units

def Fits : Formula → Prop
  | .count n => n < 2 ^ 64
  | .plus a b => a.Fits ∧ b.Fits ∧ a.value + b.value < 2 ^ 64
  | .rate a times units => a.Fits ∧ times < 2 ^ 64 ∧ units < 2 ^ 64 ∧ a.value * times < 2 ^ 64

/-- A formula that fits is computed as it is written. -/
theorem toNat_run {f : Formula} (h : f.Fits) : f.run.toNat = f.value := by
  induction f with
  | count n => exact UInt64.toNat_ofNat_of_lt' h
  | plus a b iha ihb =>
    obtain ⟨ha, hb, hsum⟩ := h
    rw [run, UInt64.toNat_add, iha ha, ihb hb]
    exact Nat.mod_eq_of_lt hsum
  | rate a times units ih =>
    obtain ⟨ha, htimes, hunits, hproduct⟩ := h
    rw [run, UInt64.toNat_div, UInt64.toNat_mul, ih ha, UInt64.toNat_ofNat_of_lt' htimes,
      UInt64.toNat_ofNat_of_lt' hunits, Nat.mod_eq_of_lt hproduct]
    rfl

structure Below (f : Formula) (bound : Nat) : Prop where
  fits : f.Fits
  lt : f.value < bound

variable {a b : Formula} {n j k times units : Nat}

theorem below_count (h : n < k) (hk : k ≤ 2 ^ 64) : (count n).Below k := ⟨h.trans_le hk, h⟩

theorem Below.plus (ha : a.Below j) (hb : b.Below k) (h : j + k ≤ 2 ^ 64) :
    (a.plus b).Below (j + k) := by
  have hsum : a.value + b.value < j + k := Nat.add_lt_add ha.lt hb.lt
  exact ⟨⟨ha.fits, hb.fits, hsum.trans_le h⟩, hsum⟩

theorem below_rate (hn : n < 2 ^ 32) (htimes : times < 2 ^ 20) (hunits : units < 2 ^ 64) :
    (rate (count n) times units).Below (2 ^ 52) := by
  have hproduct : n * times < 2 ^ 32 * 2 ^ 20 := Nat.mul_lt_mul'' hn htimes
  have hbound : (2 : Nat) ^ 32 * 2 ^ 20 = 2 ^ 52 := by decide
  have hvalue : (rate (count n) times units).value ≤ n * times := Nat.div_le_self _ _
  rw [hbound] at hproduct
  refine ⟨⟨hn.trans (by decide), htimes.trans (by decide), hunits, hproduct.trans (by decide)⟩, ?_⟩
  exact hvalue.trans_lt hproduct

end Formula

/-- The estimate says what the formulas come to. -/
structure Estimate.Exact (e : Estimate) (o : Outline) (size : Nat) : Prop where
  initCost : e.initCost.toNat = o.initCost size
  cachedInitCost : e.cachedInitCost.toNat = o.cachedInitCost size
  footprint : e.footprint.toNat = o.footprint.getD 0
  asmSize : e.asmSize.toNat = o.asmSize size

namespace Outline

variable {o : Outline} {size n : Nat}

def asmFormula (o : Outline) (size : Nat) : Formula :=
  (((Formula.count 512000).plus (.rate (.count o.functions.length) 996829 1000)).plus
    (.rate (.count o.types.length) 11416 1000)).plus (.rate (.count size) 62628 10000)

def cachedInitFormula (o : Outline) (size : Nat) : Formula :=
  (((((Formula.rate (.count o.functions.length) 13420 100000).plus
    (.rate (.count o.types.length) 89 100000)).plus
    (.rate (.count size) 122 100000)).plus
    (.rate (.count o.globals) 1628 1000)).plus
    (.rate (.count o.dataSize) 75244 100000)).plus
    (.rate (.count (o.footprint.getD 0)) 5 1000)

def initFormula (o : Outline) (size : Nat) : Formula :=
  (((o.cachedInitFormula size).plus (.rate (.count o.functions.length) 8252 1000)).plus
    (.rate (.count o.types.length) 1059 1000)).plus (.rate (.count size) 1286 10000)

def formulas (o : Outline) (size : Nat) : List Formula :=
  [o.asmFormula size, o.cachedInitFormula size, o.initFormula size]

theorem value_formulas (o : Outline) (size : Nat) : (o.formulas size).map Formula.value =
    [o.asmSize size, o.cachedInitCost size, o.initCost size] := rfl

section
variable (ho : o.Within n) (hn : n < 2 ^ 32) (hsize : size < 2 ^ 32)
  (hpages : o.footprint.getD 0 < 2 ^ 32)
include ho hn hsize

theorem below_asmFormula : (o.asmFormula size).Below (2 ^ 19 + 2 ^ 52 + 2 ^ 52 + 2 ^ 52) := by
  have hfunctions := ho.functions.trans_lt hn
  have htypes := ho.types.trans_lt hn
  unfold asmFormula
  refine ((Formula.Below.plus ?_ ?_ ?_).plus ?_ ?_).plus ?_ ?_
  · exact Formula.below_count (by decide) (by decide)
  all_goals first
    | decide
    | exact Formula.below_rate (by assumption) (by decide) (by decide)

include hpages

theorem below_cachedInitFormula : (o.cachedInitFormula size).Below
    (2 ^ 52 + 2 ^ 52 + 2 ^ 52 + 2 ^ 52 + 2 ^ 52 + 2 ^ 52) := by
  have hfunctions := ho.functions.trans_lt hn
  have htypes := ho.types.trans_lt hn
  have hglobals := ho.globals.trans_lt hn
  have hdata := ho.data.trans_lt hn
  unfold cachedInitFormula
  refine ((((Formula.Below.plus ?_ ?_ ?_).plus ?_ ?_).plus ?_ ?_).plus ?_ ?_).plus ?_ ?_
  all_goals first
    | decide
    | exact Formula.below_rate (by assumption) (by decide) (by decide)

theorem below_initFormula : (o.initFormula size).Below (2 ^ 52 + 2 ^ 52 + 2 ^ 52 + 2 ^ 52 + 2 ^ 52 +
    2 ^ 52 + 2 ^ 52 + 2 ^ 52 + 2 ^ 52) := by
  have hfunctions := ho.functions.trans_lt hn
  have htypes := ho.types.trans_lt hn
  have hcached := below_cachedInitFormula ho hn hsize hpages
  unfold initFormula
  refine ((hcached.plus ?_ ?_).plus ?_ ?_).plus ?_ ?_
  all_goals first
    | decide
    | exact Formula.below_rate (by assumption) (by decide) (by decide)

theorem fits_formulas : ∀ f ∈ o.formulas size, f.Fits := by
  simp only [formulas, List.forall_mem_cons]
  exact ⟨(below_asmFormula ho hn hsize).fits, (below_cachedInitFormula ho hn hsize hpages).fits,
    (below_initFormula ho hn hsize hpages).fits, List.forall_mem_nil _⟩

/-- In 64 bits the formulas come to the same. -/
theorem run_formulas : (o.formulas size).map (fun f => f.run.toNat) =
    [o.asmSize size, o.cachedInitCost size, o.initCost size] := by
  rw [← value_formulas]
  exact List.map_congr_left fun f hf => Formula.toNat_run (fits_formulas ho hn hsize hpages f hf)

end

/-! ### What bounds what -/

theorem cachedInitCost_le (o : Outline) (size : Nat) : o.cachedInitCost size ≤ o.initCost size := by
  unfold initCost
  rw [Nat.add_assoc, Nat.add_assoc]
  exact Nat.le_add_right _ _

theorem estimate_of_lt (hinit : o.initCost size < 2 ^ 16) (hpages : o.footprint.getD 0 < 2 ^ 16) :
    ∃ e, o.estimate size = .ok e ∧ e.Exact o size := by
  have hcached : o.cachedInitCost size < 2 ^ 16 := (o.cachedInitCost_le size).trans_lt hinit
  have hasm : o.asmSize size < 2 ^ 32 := (asmSize_bounds hinit).2.trans (by decide)
  unfold estimate
  rw [bounded_of_lt hinit, bounded_of_lt hcached, bounded_of_lt hpages, bounded_of_lt hasm]
  exact ⟨_, rfl, UInt16.toNat_ofNat_of_lt' hinit, UInt16.toNat_ofNat_of_lt' hcached,
    UInt16.toNat_ofNat_of_lt' hpages, UInt32.toNat_ofNat_of_lt' hasm⟩

/-- Of all the bounds it is the first that is looked at, and no other that is ever found to be passed. -/
theorem estimate_error_iff (hpages : o.footprint.getD 0 < 2 ^ 16) {e : CompileError} :
    o.estimate size = .error e ↔ e = .tooExpensive "init" ∧ 2 ^ 16 ≤ o.initCost size := by
  by_cases hinit : o.initCost size < 2 ^ 16
  · obtain ⟨estimate, hestimate, -⟩ := estimate_of_lt hinit hpages
    rw [hestimate]
    exact iff_of_false nofun fun h => Nat.not_le.mpr hinit h.2
  · have hfails : o.estimate size = .error (.tooExpensive "init") := by
      unfold estimate bounded
      rw [if_neg hinit]
      rfl
    rw [hfails, Except.error.injEq, eq_comm]
    exact ⟨fun h => ⟨h, Nat.not_lt.mp hinit⟩, And.left⟩

end Outline

theorem Estimate.Exact.asmKb_lt {e : Estimate} {o : Outline} {size : Nat} (h : e.Exact o size)
    (hinit : o.initCost size < 2 ^ 16) : e.asmKb < 2 ^ 14 := by
  have hbounds := (asmSize_bounds hinit).2
  unfold asmKb
  rw [h.asmSize]
  omega

theorem Record.kept_ofArtifact {a : Artifact} (h : a.estimate.asmKb < 2 ^ 24) (p : Params) (b : Block)
    (pinned : Bool) (fee : Word) : let r := Record.ofArtifact a p b pinned fee
    r.asmKb.toNat = a.estimate.asmKb ∧ Record.ofWords r.dataWord r.lifetimeWord r.dataFee = r := by
  intro r
  have hsize : r.asmKb.toNat = a.estimate.asmKb := UInt32.toNat_ofNat_of_lt' (h.trans (by decide))
  refine ⟨hsize, ?_⟩
  rw [Record.ofWords_words, Record.kept_of_le (hsize.le.trans (Nat.le_of_lt_succ h))]

section
variable {wasm : Octets} {s : CompileSettings} {o : Outline}

/-- Once a module has passed, what is computed for its estimate stays within 64 bits, whatever limit was
set for its size. The estimate only fails for a module that takes too much to start, and otherwise it
says what the formulas come to, of which a record of the program keeps everything. -/
theorem estimate_exact (ho : outline s.debug wasm = .ok o) (hcheck : o.check s.pageLimit = .ok ())
    (hsize : wasm.length ≤ s.maxSize.toNat) :
    (∀ f ∈ o.formulas wasm.length, f.Fits) ∧
    (o.formulas wasm.length).map (fun f => f.run.toNat) =
      [o.asmSize wasm.length, o.cachedInitCost wasm.length, o.initCost wasm.length] ∧
    (∀ e, o.estimate wasm.length = .error e ↔
      e = .tooExpensive "init" ∧ 2 ^ 16 ≤ o.initCost wasm.length) ∧
    (o.initCost wasm.length < 2 ^ 16 →
      o.cachedInitCost wasm.length ≤ o.initCost wasm.length ∧ o.footprint.getD 0 < 2 ^ 16 ∧
      o.asmSize wasm.length < 2 ^ 32 ∧ ∃ e, o.estimate wasm.length = .ok e ∧
        e.Exact o wasm.length ∧ e.asmKb < 2 ^ 24 ∧
        ∀ (a : Artifact) (p : Params) (b : Block) (pinned : Bool) (fee : Word), a.estimate = e →
          let r := Record.ofArtifact a p b pinned fee
          r.asmKb.toNat = e.asmKb ∧ Record.ofWords r.dataWord r.lifetimeWord r.dataFee = r) := by
  have hlength : wasm.length < 2 ^ 32 := hsize.trans_lt s.maxSize.toNat_lt
  have hwithin := Outline.within_of_outline ho
  have hpages : o.footprint.getD 0 < 2 ^ 16 :=
    (Outline.check_ok_iff.mp hcheck).pages.trans_lt s.pageLimit.toNat_lt
  have hfew : o.footprint.getD 0 < 2 ^ 32 := hpages.trans (by decide)
  refine ⟨Outline.fits_formulas hwithin hlength hlength hfew,
    Outline.run_formulas hwithin hlength hlength hfew,
    fun e => Outline.estimate_error_iff hpages, fun hinit => ?_⟩
  obtain ⟨e, he, hexact⟩ := Outline.estimate_of_lt hinit hpages
  have hkb : e.asmKb < 2 ^ 24 := (hexact.asmKb_lt hinit).trans (by decide)
  refine ⟨o.cachedInitCost_le _, hpages, (asmSize_bounds hinit).2.trans (by decide), e, he,
    hexact, hkb, ?_⟩
  rintro a p b pinned fee rfl
  exact Record.kept_ofArtifact hkb p b pinned fee

end

/-- The small module takes little to start. -/
theorem estimate_exact_small : ∃ o, outline false smallModule = .ok o ∧ o.check 128 = .ok () ∧
    o.initCost smallModule.length < 2 ^ 16 ∧
    ∃ e, o.estimate smallModule.length = .ok e ∧ e.Exact o smallModule.length := by
  obtain ⟨a, ha⟩ := compile_smallModule
  have hof := compile_ok ha
  obtain ⟨o, ho, hcheck, hestimate⟩ := hof.estimate
  obtain ⟨-, -, hfails, hpasses⟩ := estimate_exact ho hcheck hof.size
  have hinit : o.initCost smallModule.length < 2 ^ 16 := by
    refine Nat.not_le.mp fun hle => ?_
    have herror := (hfails _).mpr ⟨rfl, hle⟩
    rw [hestimate] at herror
    cases herror
  obtain ⟨-, -, -, e, he, hexact, -⟩ := hpasses hinit
  exact ⟨o, ho, hcheck, hinit, e, he, hexact⟩

end Inkwell
