import Inkwell.Proofs.Entries
import Inkwell.Proofs.Meter
import Inkwell.Proofs.Provenance
set_option autoImplicit false

/-! What a call of a program pays: its entry before the program runs, the ink that the program uses,
and the memory that its output takes. -/

namespace Inkwell

namespace Call

variable {w w' w₁ : World} {c : Call} {p : Params} {codeHash module : Word} {wasm : Octets}
  {x : Prepared}

/-- Gas for entering a program under a record, with as many pages open and with its module as warm
as they are when the call is made. -/
def entryGas (w : World) (module : Word) (r : Record) : Nat :=
  Entry.gas {
    footprint := r.footprint, initCost := r.initCost, cachedCost := r.cachedCost
    pagesOpen := w.transaction.pagesOpen, pagesEver := w.transaction.pagesEver
    cached := r.pinned || w.warm module } w.ledger.view.params

def Charged (charges : Bool) (o : Outcome) : Prop := charges = true ∧ o.output ≠ []

/-- How a call of so much gas ends, of which so much was spent on the entry, with what the program
gave and the meter it left. -/
structure Settled (price : InkPrice) (charges : Bool) (gas entry : Nat) (o : Outcome) (m : Meter)
    (r : CallResult) : Prop where
  entry_le : entry ≤ gas
  gasLimit : r.gasLimit = gas
  gasLeft_le : r.gasLeft ≤ gas - entry
  unpaid : Charged charges o → gas < outputGas o.output.length → r = .halt .outOfGas gas
  paid : ¬ (Charged charges o ∧ gas < outputGas o.output.length) →
    r.verdict = o.ending.verdict ∧ r.output = o.output
  exhausted : o.ending = .outOfInk ∨ o.ending = .outOfStack → r.gasLeft = 0
  used_le : (gas - entry) * price.rate ≤ max64 → price.toGasCeil m.inkUsed ≤ gas - entry
  /-- What is left of the other endings, if the gas after the entry does not saturate as ink. -/
  gasLeft : (gas - entry) * price.rate ≤ max64 →
    o.ending = .success ∨ o.ending = .revert ∨ o.ending = .failure ∨ o.ending = .outOfMemory →
      (¬ Charged charges o → r.gasLeft = gas - entry - price.toGasCeil m.inkUsed) ∧
        (Charged charges o → outputGas o.output.length ≤ gas → r.gasLeft =
          min (gas - entry - price.toGasCeil m.inkUsed) (gas - outputGas o.output.length))

section
variable {charges : Bool} {gas left : Nat} {o : Outcome}

theorem settle_of_free (h : ¬ Charged charges o) : CallResult.settle charges gas left o =
    ⟨o.ending.verdict, o.output, gas, if o.ending.consumesAll then 0 else left⟩ := by
  have hfree : (charges && !o.output.isEmpty) = false := by
    rw [Bool.eq_false_iff]
    simpa [Charged] using h
  unfold CallResult.settle
  rw [hfree]
  rfl

theorem settle_of_charged (h : Charged charges o) : CallResult.settle charges gas left o =
    if gas < outputGas o.output.length then .halt .outOfGas gas
    else ⟨o.ending.verdict, o.output, gas,
      min (if o.ending.consumesAll then 0 else left) (gas - outputGas o.output.length)⟩ := by
  have hcharged : (charges && !o.output.isEmpty) = true := by
    simpa [Charged] using h
  unfold CallResult.settle
  rw [hcharged]
  rfl

theorem settled_settle {entry : Nat} {m m' : Meter}
    (hentry : entry ≤ gas) (hlimit : m.inkLimit = m.price.toInk (gas - entry))
    (hleft : m.inkLeft = m.inkLimit) (hspends : m.Spends m') :
    Settled m.price charges gas entry o m' (.settle charges gas m'.gasLeft o) := by
  have hle : m'.gasLeft ≤ gas - entry := hspends.gasLeft_le (hleft.trans hlimit)
  have hsome : (if o.ending.consumesAll then 0 else m'.gasLeft) ≤ gas - entry := by
    split
    · exact Nat.zero_le _
    · exact hle
  have hnone : o.ending = .outOfInk ∨ o.ending = .outOfStack → o.ending.consumesAll = true := by
    rintro (h | h) <;> rw [h] <;> rfl
  have hall : o.ending = .success ∨ o.ending = .revert ∨ o.ending = .failure ∨
      o.ending = .outOfMemory → o.ending.consumesAll = false := by
    rintro (h | h | h | h) <;> rw [h] <;> rfl
  have hused : (gas - entry) * m.price.rate ≤ max64 → m.price.toGasCeil m'.inkUsed ≤ gas - entry :=
    fun hfits => hspends.toGasCeil_inkUsed_le hlimit hfits
  by_cases hcharged : Charged charges o
  · rw [settle_of_charged hcharged]
    by_cases hcost : gas < outputGas o.output.length
    · rw [if_pos hcost]
      exact {
        entry_le := hentry
        gasLimit := rfl
        gasLeft_le := Nat.zero_le _
        unpaid := fun _ _ => rfl
        paid := fun h => absurd ⟨hcharged, hcost⟩ h
        exhausted := fun _ => rfl
        used_le := hused
        gasLeft := fun _ _ =>
          ⟨fun h => absurd hcharged h, fun _ h => absurd hcost (Nat.not_lt.mpr h)⟩ }
    · rw [if_neg hcost]
      exact {
        entry_le := hentry
        gasLimit := rfl
        gasLeft_le := (Nat.min_le_left _ _).trans hsome
        unpaid := fun _ h => absurd h hcost
        paid := fun _ => ⟨rfl, rfl⟩
        exhausted := fun h => by rw [hnone h]; exact Nat.zero_min _
        used_le := hused
        gasLeft := fun hfits h => by
          rw [hall h, hspends.gasLeft_eq hlimit hleft hfits]
          exact ⟨fun h => absurd hcharged h, fun _ _ => rfl⟩ }
  · rw [settle_of_free hcharged]
    exact {
      entry_le := hentry
      gasLimit := rfl
      gasLeft_le := hsome
      unpaid := fun h => absurd h hcharged
      paid := fun _ => ⟨rfl, rfl⟩
      exhausted := fun h => by rw [hnone h]; rfl
      used_le := hused
      gasLeft := fun hfits h => by
        rw [hall h, hspends.gasLeft_eq hlimit hleft hfits]
        exact ⟨fun _ => rfl, fun h => absurd h hcharged⟩ }

end

/-! ### The entry -/

theorem gives_chargeStart_left {warm : Bool} {r : Record} {a : Artifact}
    (h : Gives (chargeStart c p warm r a) w x w') :
    let entry : Entry := {
      footprint := r.footprint, initCost := r.initCost, cachedCost := r.cachedCost
      pagesOpen := w.transaction.pagesOpen, pagesEver := w.transaction.pagesEver
      cached := r.pinned || warm }
    entry.gas p ≤ c.gas ∧ x.left = c.gas - entry.gas p := by
  obtain ⟨w₀, t, hget, h⟩ := gives_bind.mp h
  obtain ⟨rfl, rfl⟩ := gives_get.mp hget
  obtain ⟨hcost, h⟩ := gives_guard.mp h
  obtain ⟨rfl, rfl⟩ := gives_pure.mp h
  exact ⟨Nat.not_lt.mp hcost, rfl⟩

theorem left_of_hands (h : c.Hands w x w₁) : ∃ wasm,
    Package.module? w.ledger.view.params.maxWasmSize.toNat (w.ledger.account c.codeAt).code =
        .ok (some wasm) ∧
      entryGas w (keccak wasm) x.record ≤ c.gas ∧
      x.left = c.gas - entryGas w (keccak wasm) x.record := by
  obtain ⟨wasm, l, hmodule, -, h⟩ := h
  obtain ⟨warm, w₂, htouch, h⟩ := gives_bind.mp h
  obtain ⟨found, w₃, hfound, h⟩ := gives_bind.mp h
  obtain ⟨artifact, w₄, hartifact, h⟩ := gives_bind.mp h
  have hwarm : warm = w.warm (keccak wasm) :=
    gives_touchModule_warm (w := { w with ledger := l }) htouch
  have htransaction : w₄.transaction = w.transaction :=
    ((within_artifact _).of_gives hartifact).transaction.trans
      ((within_findRecord.of_gives hfound).transaction.trans
        (within_touchModule.of_gives htouch).transaction)
  obtain ⟨hrecord, -, -⟩ := gives_chargeStart h
  have hleft := gives_chargeStart_left h
  rw [← hrecord, hwarm, htransaction] at hleft
  exact ⟨wasm, hmodule, hleft⟩

/-- Gas of every call that gets as far as the runner, and of every runner that pays at its meter: no
gas is created, and what is spent is the entry, the ink used rounded up, and room for the output. -/
theorem run_settles (runner : Runner) (hmetered : runner.Metered) (c : Call) (w : World) :
    ((run runner c).run w).2.starts = w.starts ∨ ∃ wasm x w₁ meter r,
      let p := w.ledger.view.params
      let entry := entryGas w (keccak wasm) x.record
      let ends := runner x.artifact (environment w c) meter
      Package.module? p.maxWasmSize.toNat (w.ledger.account c.codeAt).code = .ok (some wasm) ∧
        c.Hands w x w₁ ∧
        ((run runner c).run w).2.starts = ⟨x.artifact, environment w c, meter⟩ :: w.starts ∧
        meter.inkLeft = InkPrice.toInk ⟨p.inkPrice.toNat⟩ (c.gas - entry) ∧
        ((run runner c).run w).1 = some r ∧
        Settled ⟨p.inkPrice.toNat⟩ w.config.chargesOutput c.gas entry ends.1 ends.2 r := by
  rcases run_started runner c w with h | ⟨x, w₁, hhands, hstarts, hresult⟩
  · exact .inl h
  obtain ⟨wasm, hmodule, hentry, hleft⟩ := left_of_hands hhands
  obtain ⟨ops, hops⟩ := hmetered x.artifact (environment w c)
    (startMeter w.transaction w.ledger.view.params x.record x.left)
  have hspends := Meter.spends_after
    (startMeter w.transaction w.ledger.view.params x.record x.left) ops
  rw [← hops] at hspends
  have hink : (startMeter w.transaction w.ledger.view.params x.record x.left).inkLimit =
      InkPrice.toInk ⟨w.ledger.view.params.inkPrice.toNat⟩
        (c.gas - entryGas w (keccak wasm) x.record) := by
    rw [← hleft]
    rfl
  exact .inr ⟨wasm, x, w₁, _, _, hmodule, hhands, hstarts, hink, hresult,
    settled_settle hentry hink rfl hspends⟩

/-- A script that uses twelve ink, started under a record with twenty thousand gas: the entry takes 9585
of it, and the ink one more. -/
theorem run_settles_script :
    let runner := Script.runner { ops := [.buyInk 5, .buyInk 7] }
    let c : Call := ⟨1, 1, 2, 0, [], false, 20000⟩
    runner.Metered ∧
      (∃ a m, ((run runner c).run World.recorded).2.starts =
          [⟨a, environment World.recorded c, m⟩] ∧ m.inkLeft = 104150000) ∧
      ((run runner c).run World.recorded).1 = some ⟨.returned, [], 20000, 10414⟩ := by
  intro runner c
  have hmetered : runner.Metered := Script.metered _
  -- under the record, the program is started with the gas that the entry leaves
  obtain ⟨a, -, hload⟩ := World.load_recorded true
  obtain ⟨w', hpriced, -⟩ := World.priced_recorded (w := World.recorded) (c := c)
    Ledger.recorded_self (by decide) rfl hload
  have hgas := hpriced.gas_eq
  rw [World.tierGas_recorded Ledger.recorded_self rfl] at hgas
  change _ = 9585 at hgas
  have hgas' : Equipped.gas _ World.recorded ≤ c.gas := hgas.trans_le (by decide)
  have hstarted := hpriced.started hgas' runner
  have hleft : c.gas - 9585 = 10415 := by decide
  rw [hgas, hleft, World.params_of_recorded Ledger.recorded_self] at hstarted
  rcases run_settles runner hmetered c World.recorded with
    hnone | ⟨wasm, x, w₁, m, r, -, -, hstarts, hink, hr, hsettled⟩
  · exact absurd hnone (hpriced.starts_ne hgas' runner)
  have hstart := (List.cons.inj (hstarts.symm.trans hstarted)).1
  have hmeter : m = startMeter {} {} Ledger.smallRecord 10415 := congrArg Start.meter hstart
  have hprice : ({} : Params).inkPrice.toNat = 10000 := rfl
  have hrate : InkPrice.rate ⟨10000⟩ = 10000 := rfl
  rw [World.params_of_recorded Ledger.recorded_self, hprice] at hink hsettled
  generalize entryGas World.recorded (keccak wasm) x.record = entry at hink hsettled
  have hbought : m.inkLeft = 104150000 := by
    rw [hmeter]
    decide
  -- the ink that the program starts with tells what the entry took
  have hentry : entry = 9585 := by
    have hle : entry ≤ 20000 := hsettled.entry_le
    rw [hbought, InkPrice.toInk, hrate, clamp64, max64] at hink
    dsimp only [c] at hink
    omega
  subst hentry
  have hfits : (c.gas - 9585) * InkPrice.rate ⟨10000⟩ ≤ max64 := by
    rw [hleft]
    decide
  have hends : runner x.artifact (environment World.recorded c) m =
      (⟨.success, []⟩, { m with inkLeft := 104149988 }) := by
    rw [hmeter]
    rfl
  rw [hends] at hsettled
  have hfree : ¬ Charged World.recorded.config.chargesOutput ⟨.success, []⟩ := fun h => h.2 rfl
  obtain ⟨hverdict, houtput⟩ := hsettled.paid fun h => hfree h.1
  obtain ⟨hrest, -⟩ := hsettled.gasLeft hfits (.inl rfl)
  have hcost : InkPrice.toGasCeil ⟨10000⟩ { m with inkLeft := 104149988 }.inkUsed = 1 := by
    rw [hmeter]
    decide
  refine ⟨hmetered, ⟨x.artifact, m, hstarts, hbought⟩, hr.trans (congrArg some ?_)⟩
  obtain ⟨verdict, output, gasLimit, gasLeft⟩ := r
  obtain rfl : gasLimit = 20000 := hsettled.gasLimit
  obtain rfl : verdict = .returned := hverdict
  obtain rfl : output = [] := houtput
  have hrest' := hrest hfree
  rw [hleft, hcost] at hrest'
  obtain rfl : gasLeft = 10414 := hrest'
  rfl

end Call
end Inkwell
