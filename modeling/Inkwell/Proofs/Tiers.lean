import Inkwell.Proofs.Stock
set_option autoImplicit false

/-! Which calls are priced as cached. The price goes by what is kept of a module, whatever it was
compiled for, and by what was used in the block, whatever came of that. -/

namespace Inkwell

theorem Recent.mem_touch_self {m : Word} {retain : Nat} (hretain : retain ≠ 0) (r : Recent) :
    m ∈ (r.touch m retain).2.modules := by
  unfold touch
  rw [if_neg hretain]
  split
  · exact List.mem_cons_self
  dsimp only
  split
  · -- the last one leaves, which is another, as there is room for one at least
    rename_i hfull
    cases hrest : r.modules with
    | nil =>
      rw [hrest, List.length_singleton] at hfull
      omega
    | cons m' ms => exact List.mem_cons_self
  · exact List.mem_cons_self

namespace Cache

variable {c : Cache} {m : Word} {s : CompileSettings} {wasm : Octets} {a : Artifact}

theorem contains_iff : c.contains m = true ↔ ∃ a, c.kept? m = some a := Lru.contains_iff

theorem get?_fst (c : Cache) (m : Word) (s : CompileSettings) :
    (c.get? m s).1 = (c.kept? m).filter (·.suits s) := rfl

/-- Something is kept of a module, but of another version or mode. -/
def Stale (c : Cache) (m : Word) (s : CompileSettings) : Prop :=
  ∃ a, c.kept? m = some a ∧ (a.version ≠ s.version ∨ a.debug ≠ s.debug)

theorem not_suits_iff : a.suits s = false ↔ a.version ≠ s.version ∨ a.debug ≠ s.debug := by
  simp [Artifact.suits]
  grind

/-- What is looked up and not found may be there all the same. -/
theorem stale_iff : c.Stale m s ↔ c.contains m = true ∧ (c.get? m s).1 = none := by
  rw [contains_iff, get?_fst]
  constructor
  · rintro ⟨a, ha, hother⟩
    refine ⟨⟨a, ha⟩, ?_⟩
    rw [ha]
    simp [Option.filter, not_suits_iff.mpr hother]
  · rintro ⟨⟨a, ha⟩, hnone⟩
    refine ⟨a, ha, not_suits_iff.mp ?_⟩
    rw [ha] at hnone
    simpa [Option.filter] using hnone

theorem contains_of_found (h : (c.get? m s).1.isSome = true) : c.contains m = true := by
  obtain ⟨a, ha⟩ := Option.isSome_iff_exists.mp h
  rw [get?_fst] at ha
  exact contains_iff.mpr ⟨a, (Option.filter_eq_some_iff.mp ha).1⟩

theorem kept_insert {c : Cache} (hnone : c.artifacts.entries = []) (hroom : 1 ≤ c.capacity)
    (a : Artifact) : (c.insert a).2.kept? a.moduleHash = some a := by
  have hfits : ¬ c.artifacts.capacity < 1 := Nat.not_lt.mpr hroom
  simp [kept?, insert, Lru.insert, Lru.others, Lru.get?, hnone, hfits]

theorem kept_load {c : Cache} (hnone : c.artifacts.entries = []) (hroom : 1 ≤ c.capacity)
    (ha : compile wasm s = .ok a) :
    (c.load compile wasm s true).2.kept? (keccak wasm) = some a := by
  have hget : c.get? (keccak wasm) s = (none, c) := by
    simp [get?, Lru.get?, hnone]
  unfold load
  rw [hget]
  dsimp only
  rw [ha]
  dsimp only
  rw [if_pos rfl, ← (compile_ok ha).moduleHash]
  exact kept_insert hnone hroom a

end Cache

namespace World

variable {w w' : World} {ts : List Turn} {c : Call} {m : Word} {wasm : Octets} {x : Call.Equipped}

theorem tended_of_no_cache (h : ∀ t ∈ ts, ∀ k, t ≠ .cache k) : w.Tended ts := by
  rintro ts₁ t ts₂ rfl k hk
  exact absurd hk (h t (by simp) k)

theorem entryCosts_warm (h : c.Priced w wasm x w') (hpinned : x.record.pinned = false) :
    c.EntryCosts w (w.tierGas x.record (w.warm (keccak wasm))) := by
  have hcosts := h.entryCosts
  rw [h.gas_eq, hpinned, Bool.false_or] at hcosts
  exact hcosts

theorem entryCosts_of_contains (h : c.Priced w wasm x w') (hpinned : x.record.pinned = false)
    (hcontains : w.cache.contains (keccak wasm) = true) :
    c.EntryCosts w (w.tierGas x.record true) := by
  have hcosts := entryCosts_warm h hpinned
  unfold warm at hcosts
  rw [hcontains, Bool.true_or] at hcosts
  exact hcosts

/-! ### What is kept, and what is found -/

/-- A module goes stale only if the version or the mode was another one in an earlier turn. -/
theorem mixed_of_stale {s : CompileSettings} (hw : w.Bare) (hts : w.Tended ts)
    (h : (w.after ts).cache.Stale m s) : ∃ ts₁ t ts₂, ts = ts₁ ++ t :: ts₂ ∧
      ((w.after ts₁).ledger.view.params.version ≠ s.version ∨
        (w.after ts₁).config.debug ≠ s.debug) := by
  obtain ⟨a, ha, hother⟩ := h
  obtain ⟨ts₁, t, ts₂, hsplit, -, wasm, s', -, hcompile, hversion, hdebug⟩ :=
    kept_after hw hts (Lru.mem_of_get? ha)
  have hof := compile_ok hcompile
  refine ⟨ts₁, t, ts₂, hsplit, ?_⟩
  rw [← hversion, ← hdebug, ← hof.version, ← hof.debug]
  exact hother

/-! ### What is used -/

theorem used_after (hw : w.Bare) (hts : w.Tended ts)
    (hm : m ∈ ((w.after ts).cache.recent.enter (w.after ts).block.height).modules) :
    ∃ ts₁ t ts₂, ts = ts₁ ++ t :: ts₂ ∧ t.Uses (w.after ts₁) m ∧
      (w.after ts₁).block.height = (w.after ts).block.height := by
  obtain ⟨hm, hblock⟩ := Recent.mem_enter hm
  obtain ⟨ts₁, t, ts₂, hsplit, huses, hsame⟩ := recent_after hw hts hm
  exact ⟨ts₁, t, ts₂, hsplit, huses, Option.some.inj (hsame.symm.trans hblock)⟩

theorem not_contains_after (hw : w.Bare) (hts : w.Tended ts)
    (hauto : ∀ ts₁ t ts₂, ts = ts₁ ++ t :: ts₂ → (w.after ts₁).config.autoCache = false)
    (hmanaged : ∀ ts₁ t ts₂, ts = ts₁ ++ t :: ts₂ → ¬ t.Caches (w.after ts₁) m) :
    (w.after ts).cache.contains m = false := by
  by_contra hcontains
  obtain ⟨a, ha⟩ := Cache.contains_iff.mp (by simpa using hcontains)
  obtain ⟨ts₁, t, ts₂, hsplit, hkept, -⟩ := kept_after hw hts (Lru.mem_of_get? ha)
  rcases hkept with hkept | hkept
  · rw [hauto ts₁ t ts₂ hsplit] at hkept
    cases hkept
  · exact hmanaged ts₁ t ts₂ hsplit hkept

/-- A module that was used is priced as cached in the same block, whatever became of the call. -/
theorem warm_of_used {runner : Runner} (hsize : w.ledger.view.params.blockCacheSize ≠ 0)
    (hloadable : w.ledger.Loadable c.codeAt) (hknown : w.ledger.KnowsParams)
    (huses : (Turn.call none (.program runner) c).Uses w m) :
    ((Call.run runner c).run w).2.warm m = true := by
  obtain ⟨wasm, rfl, hmodule⟩ := huses
  have hblock : ((Call.run runner c).run w).2.block = w.block := (Call.same_run runner c w).1
  have hretain : w.ledger.view.params.blockCacheSize.toNat ≠ 0 :=
    fun hzero => hsize (UInt16.toNat_inj.mp hzero)
  have hmem := Recent.mem_touch_self (m := keccak wasm) hretain (w.cache.recent.enter w.block.height)
  unfold warm
  rw [hblock, Call.recent_run runner hloadable hknown hmodule, Recent.enter, if_pos
    ((Recent.block_touch _ _ _).trans (Recent.block_enter _ _))]
  simp [hmem]

end World

/-! ### Other parameters -/

namespace View

variable {hash : Word → Prop} {v : View} {h : Word} {p : Params}

theorem record?_setParams (hA : Layout.Apart hash) (hh : hash h) :
    (v.setParams p).record? h = v.record? h := by
  refine record?_congr fun part _ => ?_
  have hword : Layout.paramsWord ≠ part.slot h :=
    (hA.shared hh (by simp [Layout.shared])).symm
  have hramp : Layout.pageRamp ≠ part.slot h :=
    (hA.shared hh (by simp [Layout.shared])).symm
  unfold setParams
  rw [state_setState_of_ne hramp, state_setState_of_ne hword]

end View

theorem World.step_setParams {w : World} (hw : w.ledger.Healthy) (p : Params) :
    ∃ l, (Turn.setParams p).step w = { w with ledger := l } ∧ l.Healthy ∧
      l.view = w.ledger.view.setParams p := by
  have hkeeps : ∀ slot v, Keeps (Desk.Over (Ledger.Reaches .any)) (Access.store slot v) :=
    fun _ _ => State.keeps_store fun _ => trivial
  obtain ⟨d₁, h₁, hd₁⟩ : ∃ d, Gives (Access.store Layout.paramsWord p.toWord)
      { ledger := w.ledger } ⟨⟩ d ∧ d.Ready (fun _ => True) (Gas.write + 0) :=
    Access.ready_write (hw.ready _) trivial
  obtain ⟨d₂, h₂, -⟩ : ∃ d, Gives (Access.store Layout.pageRamp
      (BitVec.ofNat 256 p.pageRamp.toNat)) d₁ ⟨⟩ d ∧ d.Ready (fun _ => True) 0 :=
    Access.ready_write hd₁ trivial
  have hset : Gives (onState false (State.setParams p)) w ⟨⟩ { w with ledger := d₂.ledger } :=
    onState_of_gives (h₁.bind h₂)
  have hreaches₁ : w.ledger.Reaches .any d₁.ledger := (hkeeps _ _).of_gives h₁
  have hreaches₂ : d₁.ledger.Reaches .any d₂.ledger := (hkeeps _ _).of_gives h₂
  refine ⟨d₂.ledger, congrArg Prod.snd hset, hw.reaches (hreaches₁.trans hreaches₂), ?_⟩
  rw [(Access.gives_store h₂).1, (Access.gives_store h₁).1]
  rfl

/-! ### Two runs -/

namespace Ledger

def wealthy : Ledger :=
  { store := { recorded.store with
      accounts := recorded.store.accounts.insert 2 { balance := 0x20000000000000000 } } }

theorem account_wealthy (a : Address) : wealthy.account a =
    if a = 2 then { balance := 0x20000000000000000 } else recorded.account a := by
  have hget : wealthy.account a = ((recorded.store.accounts.insert 2
      ({ balance := 0x20000000000000000 } : Account)).get? a).getD {} := rfl
  rw [hget, Table.get?_insert]
  split <;> rfl

theorem recorded_wealthy : wealthy.Recorded := by
  have hrest : ∀ a, a ≠ 2 → (wealthy.account a).balance = 0 := by
    intro a ha
    rw [account_wealthy, if_neg ha, account_recorded]
    split <;> rfl
  refine ⟨⟨rfl, ?_⟩, rfl, ?_⟩
  · unfold Bounded supply
    rw [World.supply_of_single hrest]
    exact BitVec.isLt _
  · rw [account_wealthy, if_neg (by decide), account_recorded, if_pos rfl]

end Ledger

namespace World

variable {w w' : World} {ts : List Turn} {c : Call} {wasm : Octets} {x : Call.Equipped}

theorem priced_small (h : w.ledger.Recorded) (hnow : w.now ≤ 31536001)
    (hdebug : w.config.debug = false) (hat : c.codeAt = 1) :
    ∃ a w', c.Priced w smallModule ⟨Ledger.smallRecord, a, w.warm (keccak smallModule)⟩ w' ∧
      w'.cache = ((Call.used w (keccak smallModule)).load compile smallModule
        ⟨2, false, 128, 131072⟩ w.config.autoCache).2 := by
  have hsettings : w.settings {} = ⟨2, false, 128, 131072⟩ := by
    unfold settings
    rw [hdebug]
  obtain ⟨a, ha⟩ := compile_smallModule
  obtain ⟨y, hload⟩ := w.cache.load_of_compiles w.config.autoCache ha
  obtain ⟨w', hpriced, hcache⟩ := priced_recorded h hnow hat (hsettings ▸ hload)
  rw [hsettings] at hcache
  exact ⟨y.artifact, w', hpriced, hcache⟩

def smallCall : Call := ⟨1, 1, 2, 0, [], false, 10000⟩

def unpaid : List Turn := [.call none (.program quiet) { smallCall with gas := 0 }]

def calledOnce : List Turn := [.call none (.program quiet) smallCall, .set {} ⟨1, 1⟩ {}]

def raised : List Turn := calledOnce ++ [.setParams { version := 3 }]

theorem tended_unpaid : w.Tended unpaid := tended_of_no_cache (by simp [unpaid])

theorem tended_calledOnce : w.Tended calledOnce := tended_of_no_cache (by simp [calledOnce])

theorem tended_raised : w.Tended raised := tended_of_no_cache (by simp [raised, calledOnce])

theorem after_unpaid (w : World) :
    w.after unpaid = ((Call.run quiet { smallCall with gas := 0 }).run w).2 := rfl

theorem after_calledOnce (w : World) : w.after calledOnce =
    { ((Call.run quiet smallCall).run w).2 with config := {}, block := ⟨1, 1⟩, transaction := {} } :=
  rfl

theorem recorded_unpaid (h : w.ledger.Recorded) (hnow : w.now ≤ 31536001) :
    (w.after unpaid).ledger.Recorded := by
  rw [after_unpaid]
  exact recorded_run h hnow rfl quiet

theorem warm_unpaid (h : w.ledger.Recorded) : (w.after unpaid).warm (keccak smallModule) = true := by
  have hsize : w.ledger.view.params.blockCacheSize ≠ 0 := by
    rw [h.params]
    decide
  rw [after_unpaid]
  exact warm_of_used hsize (h.healthy.loadable _) h.healthy.knowsParams
    ⟨smallModule, rfl, module?_recorded h⟩

theorem calls_unpaid {ts₁ ts₂ : List Turn} {t : Turn} (h : unpaid = ts₁ ++ t :: ts₂) :
    ts₁ = [] ∧ t = .call none (.program quiet) { smallCall with gas := 0 } := by
  cases ts₁ with
  | nil => exact ⟨rfl, (List.cons.inj h).1.symm⟩
  | cons t' ts₁ => exact absurd (List.cons.inj h).2 (by simp)

theorem manual_unpaid (w : World) (m : Word) : ∀ ts₁ t ts₂, unpaid = ts₁ ++ t :: ts₂ →
    (w.after ts₁).config.autoCache = w.config.autoCache ∧ ¬ t.Caches (w.after ts₁) m := by
  intro ts₁ t ts₂ hsplit
  obtain ⟨rfl, rfl⟩ := calls_unpaid hsplit
  exact ⟨rfl, id⟩

theorem same_unpaid (h : w.ledger.Recorded) (hnow : w.now ≤ 31536001)
    (hdebug : w.config.debug = false) (htransaction : w.transaction = {}) :
    (w.after unpaid).config = w.config ∧ (w.after unpaid).block = w.block ∧
      (w.after unpaid).transaction = {} ∧ (w.after unpaid).starts = w.starts := by
  obtain ⟨hblock, hconfig⟩ := Call.same_run quiet { smallCall with gas := 0 } w
  obtain ⟨a, w', hpriced, -⟩ := priced_small (c := { smallCall with gas := 0 }) h hnow hdebug rfl
  have hgas : 0 < w.tierGas Ledger.smallRecord (w.warm (keccak smallModule)) := by
    rw [tierGas_recorded h htransaction]
    split <;> decide
  rw [after_unpaid]
  exact ⟨hconfig, hblock, (hpriced.refused_transaction hgas quiet).trans htransaction,
    (hpriced.refused hgas quiet).2⟩

theorem priced_unpaid (h : w.ledger.Recorded) (hnow : w.now ≤ 31536001)
    (hdebug : w.config.debug = false) (htransaction : w.transaction = {}) :
    let u := w.after unpaid
    ∃ x w', smallCall.Priced u smallModule x w' ∧ x.record.pinned = false ∧
      u.tierGas x.record true = 352 ∧ u.tierGas x.record false = 9585 := by
  intro u
  obtain ⟨hconfig, hblock, hsame, -⟩ := same_unpaid h hnow hdebug htransaction
  have hrecorded : u.ledger.Recorded := recorded_unpaid h hnow
  have htime : u.now = w.now := congrArg Block.time hblock
  have hquiet : u.config.debug = false := by rw [hconfig, hdebug]
  obtain ⟨a, w', hpriced, -⟩ := priced_small (c := smallCall) hrecorded (htime ▸ hnow) hquiet rfl
  exact ⟨_, w', hpriced, rfl, tierGas_recorded hrecorded hsame true,
    tierGas_recorded hrecorded hsame false⟩

theorem recorded_calledOnce (h : w.ledger.Recorded) (hnow : w.now ≤ 31536001) :
    (w.after calledOnce).ledger.Recorded := by
  rw [after_calledOnce]
  exact recorded_run h hnow rfl quiet

theorem kept_calledOnce (h : w.ledger.Recorded) (hnow : w.now ≤ 31536001)
    (hdebug : w.config.debug = false) (hauto : w.config.autoCache = true)
    (hnone : w.cache.artifacts.entries = []) (hroom : 1 ≤ w.cache.capacity) :
    ∃ a, compile smallModule ⟨2, false, 128, 131072⟩ = .ok a ∧
      (w.after calledOnce).cache.kept? (keccak smallModule) = some a := by
  obtain ⟨a, ha⟩ := compile_smallModule
  obtain ⟨b, w', hpriced, hcache⟩ := priced_small (c := smallCall) h hnow hdebug rfl
  refine ⟨a, ha, ?_⟩
  rw [after_calledOnce]
  dsimp only
  rw [hpriced.cache_run quiet, hcache, hauto]
  exact Cache.kept_load hnone hroom ha

theorem set_calledOnce (w : World) : (w.after calledOnce).config = {} ∧
    (w.after calledOnce).block = ⟨1, 1⟩ ∧ (w.after calledOnce).transaction = {} := by
  rw [after_calledOnce]
  exact ⟨rfl, rfl, rfl⟩

theorem account_calledOnce (h : w.ledger.Recorded) (hnow : w.now ≤ 31536001) :
    (w.after calledOnce).ledger.account = w.ledger.account := by
  rw [after_calledOnce]
  exact congrArg View.account (view_run_recorded h hnow rfl quiet)

theorem unused_calledOnce (h : w.ledger.Recorded) (hblock : w.block.height = 0) (m : Word) :
    m ∉ ((w.after calledOnce).cache.recent.enter (w.after calledOnce).block.height).modules := by
  rw [after_calledOnce]
  dsimp only
  rw [Call.recent_run (c := smallCall) quiet (h.healthy.loadable _) h.healthy.knowsParams
    (module?_recorded h), Recent.enter, if_neg]
  · exact List.not_mem_nil
  · rw [Recent.block_touch, Recent.block_enter, hblock]
    decide

/-! The version is another one now. The record is of the one before, so that a call activates the
program anew, which compiles its module afresh. -/

theorem after_raised (h : w.ledger.Recorded) (hnow : w.now ≤ 31536001) :
    ∃ l, w.after raised = { w.after calledOnce with ledger := l } ∧ l.Healthy ∧
      l.view = (w.after calledOnce).ledger.view.setParams { version := 3 } := by
  unfold raised
  rw [after_snoc]
  exact step_setParams (recorded_calledOnce h hnow).healthy _

theorem unused_raised (h : w.ledger.Recorded) (hnow : w.now ≤ 31536001)
    (hblock : w.block.height = 0) (m : Word) :
    m ∉ ((w.after raised).cache.recent.enter (w.after raised).block.height).modules := by
  obtain ⟨l, hraised, -⟩ := after_raised h hnow
  rw [hraised]
  exact unused_calledOnce h hblock m

theorem params_raised (v : View) : (v.setParams { version := 3 }).params = { version := 3 } :=
  View.params_setParams.trans (Params.kept_of_fits (by decide) (by decide) (by decide))

theorem compile_raised : ∃ a, compile smallModule ⟨3, false, 128, 131072⟩ = .ok a ∧
    a.estimate.footprint = 1 ∧ a.estimate.initCost = 17 ∧ a.estimate.cachedInitCost = 0 := by
  have h : (compile smallModule ⟨3, false, 128, 131072⟩).toOption.any (fun a =>
      a.estimate.footprint = 1 ∧ a.estimate.initCost = 17 ∧ a.estimate.cachedInitCost = 0) = true := by
    decide +kernel
  cases ha : compile smallModule ⟨3, false, 128, 131072⟩ with
  | error e =>
    rw [ha] at h
    cases h
  | ok a =>
    rw [ha] at h
    exact ⟨a, rfl, of_decide_eq_true h⟩

theorem settings_raised {u : World} (hdebug : u.config.debug = false)
    (hparams : u.ledger.view.params = { version := 3 }) :
    u.settings u.ledger.view.params = ⟨3, false, 128, 131072⟩ := by
  unfold settings
  rw [hparams, hdebug]

theorem code_raised {u : World} {l : Ledger} (h : u.ledger.Recorded)
    (hview : l.view = u.ledger.view.setParams { version := 3 }) :
    (l.account 1).code = smallPackage := by
  have haccount : l.account = u.ledger.account := congrArg View.account hview
  rw [haccount, h.code]

theorem record_raised {u : World} {l : Ledger} (h : u.ledger.Recorded)
    (hview : l.view = u.ledger.view.setParams { version := 3 }) :
    l.view.record? (keccak (l.account 1).code) = some Ledger.smallRecord := by
  have hhash : keccak smallPackage = smallHash := keccak_smallPackage
  rw [code_raised h hview, hhash, hview, View.record?_setParams Layout.apart_smallHash rfl,
    h.record?]

theorem awaits_raised {u : World} {l : Ledger} {a b : Artifact} (h : u.ledger.Recorded)
    (hl : l.Healthy) (hview : l.view = u.ledger.view.setParams { version := 3 })
    (hdebug : u.config.debug = false) (ha : compile smallModule ⟨2, false, 128, 131072⟩ = .ok a)
    (hkept : u.cache.kept? (keccak smallModule) = some a)
    (hb : compile smallModule ⟨3, false, 128, 131072⟩ = .ok b) :
    ∃ fee, Awaits { u with ledger := l } 1 smallModule ⟨b, false⟩ fee := by
  have hparams : l.view.params = { version := 3 } := by rw [hview, params_raised]
  have hsettings : World.settings { u with ledger := l } l.view.params = ⟨3, false, 128, 131072⟩ :=
    settings_raised (u := { u with ledger := l }) hdebug hparams
  refine ⟨_, hl, ?_, fun r hr => ?_, ?_, rfl⟩
  · change Package.module? l.view.params.maxWasmSize.toNat (l.account 1).code = _
    rw [hparams, code_raised h hview]
    exact module?_smallPackage
  · obtain rfl : Ledger.smallRecord = r :=
      Option.some.inj ((record_raised h hview).symm.trans hr.record)
    have hversion := hr.version
    change _ = l.view.params.version at hversion
    rw [hparams] at hversion
    exact absurd hversion (by decide)
  · change (u.cache.load compile smallModule (World.settings { u with ledger := l } l.view.params)
      u.config.autoCache).1 = _
    rw [hsettings, Cache.load_of_not_serves, hb]
    · rfl
    · rintro ⟨a', ha', hsuits⟩
      obtain rfl := Option.some.inj (hkept.symm.trans ha')
      have hof := compile_ok ha
      simp [Artifact.suits, hof.version] at hsuits

/-- A call that activates the program anew is priced under a record as good as the one before. -/
theorem priced_anew {u : World} {l : Ledger} {b : Artifact} {fee : Word} (h : u.ledger.Recorded)
    (hview : l.view = u.ledger.view.setParams { version := 3 }) (hconfig : u.config = {})
    (htransaction : u.transaction = {}) (hb : compile smallModule ⟨3, false, 128, 131072⟩ = .ok b)
    (hawaits : Awaits { u with ledger := l } 1 smallModule ⟨b, false⟩ fee)
    (hfee : fee ≤ (l.account 2).balance) :
    ∃ x w', smallCall.Priced { u with ledger := l } smallModule x w' ∧ x.record.pinned = false ∧
      x.artifact = b ∧ ∀ cached,
        World.tierGas { u with ledger := l } x.record cached = if cached then 352 else 9585 := by
  obtain ⟨b', hb', hfootprint, hinit, hcached⟩ := compile_raised
  obtain rfl : b = b' := Except.ok.inj (hb.symm.trans hb')
  have hauto : u.config.autoActivate = true := by rw [hconfig]
  have hparams : l.view.params = { version := 3 } := by rw [hview, params_raised]
  obtain ⟨w', hpriced⟩ := Call.priced_of_awaits (c := smallCall) hawaits rfl hauto hfee
  refine ⟨_, w', hpriced, View.pinned_of_record (record_raised h hview), rfl, fun cached => ?_⟩
  change Entry.gas ⟨b.estimate.footprint, b.estimate.initCost, b.estimate.cachedInitCost,
    u.transaction.pagesOpen, u.transaction.pagesEver, cached⟩ l.view.params = _
  rw [hfootprint, hinit, hcached, hparams, htransaction]
  cases cached <;> decide

/-- The call compiles the module, and pays the cached price. -/
theorem priced_raised (h : w.ledger.Recorded) (hnow : w.now ≤ 31536001)
    (hdebug : w.config.debug = false) (hauto : w.config.autoCache = true)
    (hnone : w.cache.artifacts.entries = []) (hroom : 1 ≤ w.cache.capacity)
    (hfunds : max64 ≤ (w.ledger.account 2).balance.toNat) :
    let u := w.after raised
    let s := u.settings u.ledger.view.params
    (u.cache.get? (keccak smallModule) s).1 = none ∧
      ∃ x w', smallCall.Priced u smallModule x w' ∧ x.record.pinned = false ∧
        compile smallModule s = .ok x.artifact ∧ smallCall.EntryCosts u 352 ∧
        u.tierGas x.record true = 352 ∧ u.tierGas x.record false = 9585 := by
  obtain ⟨a, ha, hkept⟩ := kept_calledOnce h hnow hdebug hauto hnone hroom
  obtain ⟨b, hb, -⟩ := compile_raised
  obtain ⟨hconfig, -, htransaction⟩ := set_calledOnce w
  have hrecorded := recorded_calledOnce h hnow
  have haccount := account_calledOnce h hnow
  obtain ⟨l, hraised, hl, hview⟩ := after_raised h hnow
  dsimp only
  rw [hraised]
  generalize w.after calledOnce = u at *
  have hquiet : u.config.debug = false := by rw [hconfig]
  have hparams : l.view.params = { version := 3 } := by rw [hview, params_raised]
  have hsettings : World.settings { u with ledger := l } l.view.params = ⟨3, false, 128, 131072⟩ :=
    settings_raised (u := { u with ledger := l }) hquiet hparams
  have hstale : u.cache.Stale (keccak smallModule)
      (World.settings { u with ledger := l } l.view.params) := by
    refine ⟨a, hkept, .inl ?_⟩
    rw [hsettings, (compile_ok ha).version]
    decide
  obtain ⟨hcontains, hnone⟩ := Cache.stale_iff.mp hstale
  obtain ⟨fee, hawaits⟩ := awaits_raised hrecorded hl hview hquiet ha hkept hb
  have hfee : fee ≤ (l.account 2).balance := by
    have hrich : (l.account 2).balance = (w.ledger.account 2).balance := by
      have hsame : l.account = u.ledger.account := congrArg View.account hview
      rw [hsame, haccount]
    rw [hrich]
    exact hawaits.fee_le.trans hfunds
  obtain ⟨x, w', hpriced, hpinned, hartifact, htiers⟩ :=
    priced_anew hrecorded hview hconfig htransaction hb hawaits hfee
  have hcosts := entryCosts_of_contains hpriced hpinned hcontains
  rw [htiers] at hcosts
  exact ⟨hnone, x, w', hpriced, hpinned, hsettings ▸ hartifact ▸ hb, hcosts, htiers true,
    htiers false⟩

def fresh (autoCache : Bool) : World :=
  { ledger := .wealthy, cache := .ofCapacity 1, config := { autoCache } }

theorem bare_fresh (autoCache : Bool) : (fresh autoCache).Bare := ⟨rfl, rfl⟩

theorem recorded_fresh (autoCache : Bool) : (fresh autoCache).ledger.Recorded :=
  Ledger.recorded_wealthy

theorem now_fresh (autoCache : Bool) : (fresh autoCache).now ≤ 31536001 := by
  cases autoCache <;> decide

/-! ### Prices -/

/-- The price of a module that was not used in the block goes by whether anything is kept of it. What
would be found is priced as cached. The other way round it is not so: what is kept of another version
or in another mode is priced as cached, and not found. In a run from empty caches that takes a turn
under another version or in another mode. -/
theorem tiers_agree (hw : w.Bare) (hts : w.Tended ts) (h : c.Priced (w.after ts) wasm x w')
    (hpinned : x.record.pinned = false)
    (hrecent : keccak wasm ∉ ((w.after ts).cache.recent.enter (w.after ts).block.height).modules) :
    let u := w.after ts
    let s := u.settings u.ledger.view.params
    let priced := u.cache.contains (keccak wasm)
    let found := (u.cache.get? (keccak wasm) s).1.isSome
    c.EntryCosts u (u.tierGas x.record priced) ∧
      (found = true → priced = true) ∧
      (priced = true ∧ found = false ↔ ∃ a, u.cache.kept? (keccak wasm) = some a ∧
        (a.version ≠ u.ledger.view.params.version ∨ a.debug ≠ u.config.debug)) ∧
      ((∀ ts₁ t ts₂, ts = ts₁ ++ t :: ts₂ →
          (w.after ts₁).ledger.view.params.version = u.ledger.view.params.version ∧
            (w.after ts₁).config.debug = u.config.debug) →
        (priced = true ↔ found = true)) := by
  intro u s priced found
  have hstale : priced = true ∧ found = false ↔ u.cache.Stale (keccak wasm) s := by
    rw [Cache.stale_iff, ← Option.isNone_iff_eq_none, ← Option.not_isSome, Bool.not_eq_true']
  refine ⟨?_, Cache.contains_of_found, hstale, fun hsame => ⟨fun hpriced => ?_,
    Cache.contains_of_found⟩⟩
  · have hwarm : u.warm (keccak wasm) = priced := by
      unfold warm
      rw [Bool.or_eq_left_iff_imp]
      exact fun hcontains => absurd (by simpa using hcontains) hrecent
    rw [← hwarm]
    exact entryCosts_warm h hpinned
  · by_contra hfound
    obtain ⟨ts₁, t, ts₂, hsplit, hother⟩ :=
      mixed_of_stale hw hts (hstale.mp ⟨hpriced, by simpa using hfound⟩)
    obtain ⟨hversion, hdebug⟩ := hsame ts₁ t ts₂ hsplit
    exact hother.elim (absurd hversion) (absurd hdebug)

/-- In the next block the program is found, and priced as cached. -/
theorem tiers_agree_small :
    let u := (fresh true).after calledOnce
    (fresh true).Bare ∧ (fresh true).Tended calledOnce ∧
      keccak smallModule ∉ (u.cache.recent.enter u.block.height).modules ∧
      ∃ x w', smallCall.Priced u smallModule x w' ∧ x.record.pinned = false ∧
        (u.cache.get? (keccak smallModule) (u.settings u.ledger.view.params)).1.isSome = true ∧
        smallCall.EntryCosts u 352 := by
  intro u
  obtain ⟨hconfig, hblock, htransaction⟩ := set_calledOnce (fresh true)
  have hrecorded : u.ledger.Recorded := recorded_calledOnce (recorded_fresh true) (now_fresh true)
  obtain ⟨a, ha, hkept⟩ := kept_calledOnce (recorded_fresh true) (now_fresh true) rfl rfl rfl
    (Nat.le_refl 1)
  have hunused := unused_calledOnce (recorded_fresh true) rfl (keccak smallModule)
  have hnow : u.now ≤ 31536001 := by
    have htime : u.now = 1 := congrArg Block.time hblock
    rw [htime]
    decide
  have hdebug : u.config.debug = false := congrArg Config.debug hconfig
  obtain ⟨b, w', hpriced, -⟩ := priced_small (c := smallCall) hrecorded hnow hdebug rfl
  have hfound : (u.cache.get? (keccak smallModule) (u.settings u.ledger.view.params)).1.isSome := by
    have hof := compile_ok ha
    have hsettings : u.settings u.ledger.view.params = ⟨2, false, 128, 131072⟩ := by
      unfold settings
      rw [hrecorded.params, hdebug]
    rw [Cache.get?_fst, hkept, hsettings]
    simp [Option.filter, Artifact.suits, hof.version, hof.debug]
  obtain ⟨hcosts, hcached, -⟩ :=
    tiers_agree (bare_fresh true) tended_calledOnce hpriced rfl hunused
  rw [hcached hfound, tierGas_recorded hrecorded htransaction] at hcosts
  exact ⟨bare_fresh true, tended_calledOnce, hunused, _, w', hpriced, rfl, hfound, hcosts⟩

/-- Once the version was raised, the program is not found, is compiled afresh, and costs what it would
cost if it had been found. -/
theorem tiers_part :
    let u := (fresh true).after raised
    let s := u.settings u.ledger.view.params
    (fresh true).Bare ∧ (fresh true).Tended raised ∧
      keccak smallModule ∉ (u.cache.recent.enter u.block.height).modules ∧
      (u.cache.get? (keccak smallModule) s).1 = none ∧
      ∃ x w', smallCall.Priced u smallModule x w' ∧ x.record.pinned = false ∧
        compile smallModule s = .ok x.artifact ∧ smallCall.EntryCosts u 352 ∧
        u.tierGas x.record true = 352 ∧ u.tierGas x.record false = 9585 := by
  have hfunds : max64 ≤ ((fresh true).ledger.account 2).balance.toNat := by decide
  have hunused := unused_raised (recorded_fresh true) (now_fresh true) rfl (keccak smallModule)
  exact ⟨bare_fresh true, tended_raised, hunused,
    priced_raised (recorded_fresh true) (now_fresh true) rfl rfl rfl (Nat.le_refl 1) hfunds⟩

/-- If calls keep nothing and no manager has pinned a program or asked for it to be kept, then it is
priced as cached only if its module was used in an earlier turn of the block. To be used, a module need
not be run: that its code was called is all it takes, whether or not the call had the gas for its
entry, was of an active program, could pay for an activation or had a module that compiles. -/
theorem warm_by_use (hw : w.Bare) (hts : w.Tended ts)
    (hauto : ∀ ts₁ t ts₂, ts = ts₁ ++ t :: ts₂ → (w.after ts₁).config.autoCache = false)
    (hmanaged : ∀ ts₁ t ts₂, ts = ts₁ ++ t :: ts₂ → ¬ t.Caches (w.after ts₁) (keccak wasm))
    (h : c.Priced (w.after ts) wasm x w') (hpinned : x.record.pinned = false) :
    let u := w.after ts
    c.EntryCosts u (u.tierGas x.record (u.warm (keccak wasm))) ∧
      (u.warm (keccak wasm) = true → ∃ ts₁ t ts₂, ts = ts₁ ++ t :: ts₂ ∧
        t.Uses (w.after ts₁) (keccak wasm) ∧ (w.after ts₁).block.height = u.block.height) ∧
      (u.ledger.view.params.blockCacheSize ≠ 0 → ∀ (runner : Runner) (d : Call) (module : Word),
        u.ledger.Loadable d.codeAt → u.ledger.KnowsParams →
          (Turn.call none (.program runner) d).Uses u module →
            ((Call.run runner d).run u).2.warm module = true) := by
  intro u
  refine ⟨entryCosts_warm h hpinned, fun hwarm => ?_,
    fun hsize runner d module => warm_of_used hsize⟩
  unfold warm at hwarm
  rw [not_contains_after hw hts hauto hmanaged, Bool.false_or] at hwarm
  exact used_after hw hts (by simpa using hwarm)

/-- What is priced as cached after the call without gas was used by that call. -/
theorem warm_by_use_small :
    let u := (fresh false).after unpaid
    (fresh false).Bare ∧ (fresh false).Tended unpaid ∧
      (∀ ts₁ t ts₂, unpaid = ts₁ ++ t :: ts₂ → ((fresh false).after ts₁).config.autoCache = false ∧
        ¬ t.Caches ((fresh false).after ts₁) (keccak smallModule)) ∧
      smallCall.EntryCosts u 352 ∧ ∃ ts₁ t ts₂, unpaid = ts₁ ++ t :: ts₂ ∧
        t.Uses ((fresh false).after ts₁) (keccak smallModule) := by
  intro u
  have hmanual := manual_unpaid (fresh false) (keccak smallModule)
  have hwarm : u.warm (keccak smallModule) = true := warm_unpaid (recorded_fresh false)
  obtain ⟨x, w', hpriced, hpinned, htier, -⟩ :=
    priced_unpaid (recorded_fresh false) (now_fresh false) rfl rfl
  obtain ⟨hcosts, hused, -⟩ := warm_by_use (bare_fresh false) tended_unpaid
    (fun ts₁ t ts₂ h => (hmanual ts₁ t ts₂ h).1) (fun ts₁ t ts₂ h => (hmanual ts₁ t ts₂ h).2)
    hpriced hpinned
  obtain ⟨ts₁, t, ts₂, hsplit, huses, -⟩ := hused hwarm
  rw [hwarm, htier] at hcosts
  exact ⟨bare_fresh false, tended_unpaid, hmanual, hcosts, ts₁, t, ts₂, hsplit, huses⟩

/-- Nothing was started in the block, nothing is kept, and the program costs what it would cost if it
had run. -/
theorem warm_unrun :
    let u := (fresh false).after unpaid
    (fresh false).Bare ∧ (fresh false).Tended unpaid ∧
      (∀ ts₁ t ts₂, unpaid = ts₁ ++ t :: ts₂ → ((fresh false).after ts₁).config.autoCache = false ∧
        ¬ t.Caches ((fresh false).after ts₁) (keccak smallModule)) ∧
      u.starts = [] ∧ ∃ x w', smallCall.Priced u smallModule x w' ∧ x.record.pinned = false ∧
        smallCall.EntryCosts u 352 ∧ u.tierGas x.record true = 352 ∧
        u.tierGas x.record false = 9585 := by
  have hwarm := warm_unpaid (recorded_fresh false)
  obtain ⟨-, -, -, hstarts⟩ := same_unpaid (recorded_fresh false) (now_fresh false) rfl rfl
  obtain ⟨x, w', hpriced, hpinned, htiers⟩ :=
    priced_unpaid (recorded_fresh false) (now_fresh false) rfl rfl
  have hcosts := entryCosts_warm hpriced hpinned
  rw [hwarm, htiers.1] at hcosts
  exact ⟨bare_fresh false, tended_unpaid, manual_unpaid (fresh false) (keccak smallModule), hstarts,
    x, w', hpriced, hpinned, hcosts, htiers⟩

end World
end Inkwell
