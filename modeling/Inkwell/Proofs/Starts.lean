import Inkwell.Proofs.ProgramCalls
import Inkwell.Proofs.Provenance
set_option autoImplicit false

/-! What a call hands to the runner, and the record that it prices the start with: both tell of the
module in the code that is called. -/

namespace Inkwell

/-- What was prepared for a call of some code in a world, the state being as `v` shows it then. -/
structure Call.Prepared.Fits (x : Call.Prepared) (w : World) (v : View) (code : Octets) : Prop where
  module : Package.module? w.ledger.view.params.maxWasmSize.toNat code =
    .ok (some x.artifact.module)
  moduleHash : x.artifact.moduleHash = keccak x.artifact.module
  version : x.artifact.version = w.ledger.view.params.version
  debug : x.artifact.debug = w.config.debug
  compiled : ∃ s, compile x.artifact.module s = .ok x.artifact
  estimate : ∀ s a, compile x.artifact.module s = .ok a → a.estimate = x.artifact.estimate
  described : x.record.Describes x.artifact
  kept : v.moduleHash (keccak code) = x.artifact.moduleHash

namespace Involved

variable {E : Involved} {h : Word} {w w' : World} {c : Call} {p : Params} {wasm code : Octets}
  {x : Call.Prepared}

theorem moduleHash_activated (hh : E.hash h) (v : View) (b : Block) (a : Activation) :
    (v.activated h b a).moduleHash h = a.moduleHash := by
  have hrecord : (stateAccount, Layout.moduleHash h) ≠ (stateAccount, Layout.recordData h) := by
    simpa using (E.record_ne hh hh).symm
  have hlifetime : (stateAccount, Layout.moduleHash h) ≠ (stateAccount, Layout.recordLifetime h) := by
    simpa using (E.besides hh hh (List.mem_append_right _ (by simp))).2
  have hfee : (stateAccount, Layout.moduleHash h) ≠ (stateAccount, Layout.recordFee h) := by
    simpa using (E.besides hh hh (List.mem_append_right _ (by simp))).2
  have hpriced := slot_setPricer hh (v.setModuleHash h a.moduleHash)
    ((v.setModuleHash h a.moduleHash).pricer.update a.artifact.estimate.asmSize
      (UInt64.ofNat b.time)).1 (.inr rfl)
  unfold View.activated View.moduleHash
  simp only [View.state, View.setRecord, View.setState, View.write]
  rw [Function.update_of_ne hfee, Function.update_of_ne hlifetime, Function.update_of_ne hrecord]
  exact hpriced.trans (View.state_setModuleHash v h a.moduleHash)

theorem fits_of_compile {v : View} {s : CompileSettings}
    (hmodule : Package.module? w.ledger.view.params.maxWasmSize.toNat code = .ok (some wasm))
    (hcompile : compile wasm s = .ok x.artifact) (hversion : s.version = w.ledger.view.params.version)
    (hdebug : s.debug = w.config.debug) (hdescribed : x.record.Describes x.artifact)
    (hkept : v.moduleHash (keccak code) = x.artifact.moduleHash) : x.Fits w v code := by
  have hof := compile_ok hcompile
  have hwasm := hof.module
  refine ⟨by rw [hwasm, hmodule], by rw [hwasm, hof.moduleHash], hof.version.trans hversion,
    hof.debug.trans hdebug, ⟨s, by rw [hwasm, hcompile]⟩, fun s' a ha => ?_, hdescribed, hkept⟩
  rw [hwasm] at ha
  exact estimate_unique ha hcompile

section
variable {w₁ : World} (hrun : E.writes.Runs (keccak code) wasm)
  (hcache : Cache.Genuine E.module w₁.cache) (hview : w₁.ledger.view = w.ledger.view)
  (hmodule : Package.module? w.ledger.view.params.maxWasmSize.toNat code = .ok (some wasm))
include hrun hcache hview hmodule

theorem fits_of_load {y : Loaded} (hf : E.Genuine w.ledger.slot)
    (hlookup : Call.lookup w w.ledger.view.params (keccak code) = .ok x.record)
    (hload : Gives (World.load wasm (w.settings w.ledger.view.params) w.config.autoCache) w₁ y w')
    (hartifact : x.artifact = y.artifact) : x.Fits w w'.ledger.view code := by
  have hactive : Gives (State.activeRecord _ w.now _) ⟨w.ledger, none, true⟩ x.record _ :=
    Prod.ext hlookup rfl
  obtain ⟨b, hb, hdescribes, hkept⟩ :=
    makes_of_record hf (hash_of_runs hrun) (State.gives_activeRecord hactive).1 rfl
  obtain ⟨hl, hw'⟩ := World.gives_load hload
  have hmakes := makes_of_load hrun hcache hl
  obtain ⟨s, hcompile, hversion, hdebug⟩ :=
    hcache.load_compiled (module_of_runs hrun) (fun _ _ => E.module_inj) hl
  rw [← hartifact] at hmakes hcompile
  refine fits_of_compile hmodule hcompile hversion hdebug (hb.describes hmakes hdescribes) ?_
  rw [hw', ← (hb.same hmakes).1]
  change w₁.ledger.view.moduleHash (keccak code) = b.moduleHash
  rw [hview]
  exact hkept

theorem fits_of_activate {a : Activation} {pinned : Bool} {payer : Address}
    (ha : Gives (World.activateAndCharge (keccak code) wasm pinned payer) w₁ a w')
    (hconfig : w₁.config = w.config)
    (hrecord : x.record = a.record) (hartifact : x.artifact = a.artifact) :
    x.Fits w w'.ledger.view code := by
  obtain ⟨w₂, hactivate, hcharge⟩ := World.gives_activateAndCharge ha
  obtain ⟨y, hl, hactivation, -, hactivated⟩ := World.gives_activate hactivate
  obtain ⟨-, hpays⟩ := World.gives_chargeFee hcharge
  obtain ⟨s, hcompile, hversion, hdebug⟩ :=
    hcache.load_compiled (module_of_runs hrun) (fun _ _ => E.module_inj) hl
  rw [hview] at hversion
  have hdebug' : s.debug = w.config.debug := hdebug.trans (congrArg Config.debug hconfig)
  have hmade : a.artifact = y.artifact := congrArg Activation.artifact hactivation
  have hentered : a.record.Describes y.artifact := by
    rw [hactivation]
    exact ⟨rfl, rfl, rfl⟩
  have hhash : a.moduleHash = y.artifact.moduleHash := congrArg Activation.moduleHash hactivation
  rw [← hmade, ← hartifact] at hcompile hentered hhash
  refine fits_of_compile hmodule hcompile hversion hdebug' (hrecord ▸ hentered) ?_
  rw [hpays.paid, ← hhash, ← moduleHash_activated (hash_of_runs hrun) w₁.ledger.view w₁.block a]
  change w₂.ledger.view.moduleHash _ = _
  rw [hactivated]

end

/-- While the state and the caches tell what was made, what a call hands over fits its code. -/
theorem fits_of_hands (hw : E.rules.Sound w) (hf : E.Genuine w.ledger.slot) (h : c.Hands w x w') :
    x.Fits w w'.ledger.view (w.ledger.account c.codeAt).code := by
  obtain ⟨wasm, l, hmodule, hreads, h⟩ := h
  have hrun : E.writes.Runs (keccak (w.ledger.account c.codeAt).code) wasm :=
    ⟨_, _, hw.coded c.codeAt, rfl, hmodule⟩
  obtain ⟨l', k, hreads', hk, hcases⟩ := Call.gives_prepare h
  have hview : l'.view = w.ledger.view := hreads'.view.trans hreads.view
  have hcache : Cache.Genuine E.module k := by
    rw [hk]
    exact (hw.cache.startBlock _).touchRecent _ _ _
  rcases hcases with ⟨hlookup, y, hload, hartifact⟩ | ⟨e, a, -, -, -, hrecord, hartifact, ha⟩
  · rw [Call.lookup_of_reads hreads] at hlookup
    exact fits_of_load hrun hcache hview hmodule hf hlookup hload hartifact
  · exact fits_of_activate hrun hcache hview hmodule ha rfl hrecord hartifact

end Involved
end Inkwell
