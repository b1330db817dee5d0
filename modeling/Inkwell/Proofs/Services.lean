import Inkwell.Proofs.Entries
import Inkwell.Proofs.Routes
set_option autoImplicit false

/-! What it takes for keepalives, pins and evictions to return, what they leave, and how the small
package comes through all of them. -/

namespace Inkwell

namespace State

open Access

variable {S : Word → Prop} {d : Desk} {h : Word} {r : Record} {rest : Nat}

theorem answers_manages {l : Ledger} {a : Address} (hl : l.Known (managers.indexSlot a))
    (h : l.view.Manages a) : Answers (managers.contains a) l Gas.read true := by
  refine (answers_loadNat hl).bind (k := 0) keeps_loadNat ?_
  rw [decide_eq_true (show l.view.stateNat 64 (managers.indexSlot a) ≠ 0 from h)]
  exact answers_pure _

theorem ready_setRecord_all (hd : d.Ready (fun _ => True) saveGas) (h : Word) (r : Record) :
    ∃ e, Gives (setRecord h r) d ⟨⟩ e :=
  ready_setRecord ⟨hd.thawed, hd.gas, fun _ _ => hd.known _ trivial⟩

end State

namespace World

open Access State

variable {w : World} {h : Word} {r : Record}

theorem keepalive_of_current (hw : w.ledger.Healthy) (hcurrent : w.ledger.view.Current w.now h r)
    (hactivated : r.version ≠ 0) :
    ∃ k w', Gives (keepalive h) w k w' ∧ w'.ledger.Healthy := by
  have hready := hw.ready (Gas.readParams + (recordGas + (5 * Gas.read + (5 * Gas.write + saveGas))))
  obtain ⟨d₁, h₁, hd₁⟩ := ready_of_answers hready (answers_params hw.knowsParams) keeps_params
    frozen_params
  have hreads : w.ledger.Reads d₁.ledger := keeps_params.of_gives h₁
  have hknown : ∀ slot, d₁.ledger.Known slot := (hw.of_reads hreads).known
  have hrecord : d₁.ledger.view.record? h = some r := hreads.view.symm ▸ hcurrent.record
  obtain ⟨d₂, h₂, hd₂⟩ := ready_of_answers hd₁
    (answers_activeRecord ⟨hknown _, hknown _, hknown _⟩ hrecord hactivated hcurrent.version
      hcurrent.live) keeps_activeRecord frozen_activeRecord
  have hpriced : ∃ n e, Gives (priceData (UInt32.ofNat r.asmSize) w.now) d₂ n e ∧
      e.Ready (fun _ => True) saveGas := ready_priceData (fun _ _ => trivial) hd₂
  obtain ⟨n, d₃, h₃, hd₃⟩ := hpriced
  obtain ⟨d₄, h₄⟩ := ready_setRecord_all hd₃ h
    (r.keptAlive w.ledger.view.params w.now (BitVec.ofNat 256 n))
  have hkept : Gives (keepalive h) w _ { w with ledger := d₄.ledger } :=
    (gives_get.mpr ⟨rfl, rfl⟩).bind (onState_of_gives (h₁.bind ((gives_rethrow.mpr h₂).bind
      (h₃.bind (h₄.bind (gives_pure.mpr ⟨rfl, rfl⟩))))))
  have hfollows : (Rules.any).Follows w _ := (keeps_keepalive (Writes.renews_any h)).of_gives hkept
  exact ⟨_, _, hkept, hw.reaches (hfollows.ledger (Rules.sound_any w))⟩

end World

namespace SystemContract

variable {c : Call} {f : Frame} {args : Octets} {arg h : Word} {r : Record} {wasm : Octets}

theorem argument_of_word (harg : Abi.firstWord? args = some arg) (f : Frame) :
    Gives (argument args) f arg f := by
  unfold argument
  rw [harg]
  rfl

namespace Programs

def extensionGas : Nat := 375 + 375 * 2 + 8 * 32

theorem log_lifetimeExtended (h fee : Word) : Gas.log (lifetimeExtended c h fee) = extensionGas := by
  have hdata : (lifetimeExtended c h fee).data.length = 32 := by
    simp [lifetimeExtended, Abi.words, Word.length_octets]
  rw [Gas.log, hdata]
  rfl

theorem codehashKeepalive_of_current (harg : Abi.firstWord? args = some h)
    (hf : f.world.ledger.Healthy) (hcurrent : f.world.ledger.view.Current f.world.now h r)
    (hactivated : r.version ≠ 0)
    (hfee : BitVec.ofNat 256 (f.world.ledger.view.priced (UInt32.ofNat r.asmSize) f.world.now).2 ≤
      c.value)
    (hfunds : c.value ≤ (f.world.ledger.account c.target).balance)
    (hgas : Gas.read + extensionGas ≤ f.gas) : ∃ g, Gives (codehashKeepalive c args) f [] g := by
  obtain ⟨k, w, hkept, hw⟩ := World.keepalive_of_current hf hcurrent hactivated
  obtain ⟨r', hcurrent', -, hk, hview⟩ := World.gives_keepalive hkept
  obtain rfl := Option.some.inj (hcurrent.record.symm.trans hcurrent'.record)
  have haccount : w.ledger.account = f.world.ledger.account := congrArg View.account hview
  have hcovered : k.fee ≤ c.value := by
    rw [hk]
    exact hfee
  obtain ⟨f₂, h₂, hleft⟩ := settleFee_of_funds (f := { f with world := w }) hw hcovered
    (haccount ▸ hfunds) (by dsimp only; omega)
  have henough : Gas.log (lifetimeExtended c h k.fee) ≤ f₂.gas := by
    rw [log_lifetimeExtended, hleft]
    dsimp only
    omega
  exact ⟨_, (argument_of_word harg f).bind ((onWorld_of_gives hkept).bind
    (h₂.bind ((gives_emit_of_le henough).bind (gives_pure.mpr ⟨rfl, rfl⟩))))⟩

end Programs

namespace Pinning

variable {pinned : Bool}

theorem requireManager_of_manages (hf : f.world.ledger.Healthy)
    (hmanages : f.world.ledger.view.Manages c.caller) (hgas : Gas.read ≤ f.gas) :
    ∃ g, Gives (requireManager c) f ⟨⟩ g ∧ g.gas = f.gas - Gas.read := by
  obtain ⟨g, hg, hleft⟩ := Programs.onState_of_answers (c := c) (hf.account stateAccount)
    (State.answers_manages (hf.known _) hmanages) hgas
  exact ⟨g, hg.bind (gives_pure.mpr ⟨rfl, rfl⟩), hleft⟩

def inspectGas : Nat := Gas.read + (Gas.readParams + (Gas.readCodeHash + State.recordGas))

theorem inspect_of_current (harg : Abi.firstWord? args = some arg) (hf : f.world.ledger.Healthy)
    (hmanages : f.world.ledger.view.Manages c.caller)
    (hcurrent : f.world.ledger.view.Current f.world.now
      (f.world.ledger.view.codeHash (Address.ofWord arg)) r) (hactivated : r.version ≠ 0)
    (hgas : inspectGas ≤ f.gas) :
    ∃ g, Gives (inspect c args) f ⟨Address.ofWord arg, f.world.ledger.view.params,
      f.world.ledger.view.codeHash (Address.ofWord arg), r⟩ g ∧ g.gas = f.gas - inspectGas := by
  unfold inspectGas at hgas ⊢
  have hprogram := addressArgument_of_word harg f
  obtain ⟨f₁, h₁, hleft₁⟩ := requireManager_of_manages hf hmanages (by omega)
  have hr₁ : f.world.Reading f₁.world := reading_requireManager.of_gives h₁
  have hf₁ := hf.of_reads hr₁.ledger
  obtain ⟨f₂, h₂, hleft₂⟩ := Programs.onState_of_answers (c := c) (hf₁.account stateAccount)
    (State.answers_params hf₁.knowsParams) (by omega)
  have hr₂ : f.world.Reading f₂.world := hr₁.trans ((reading_onState State.keeps_params).of_gives h₂)
  have hf₂ := hf.of_reads hr₂.ledger
  obtain ⟨x, l, hl⟩ := Ledger.hold_of_account (hf₂.account stateAccount)
  have hreads := Ledger.keeps_hold.of_gives hl
  obtain ⟨l', hcode, hreads'⟩ := Programs.codeHash_of_loadable (d := ⟨l, some f₂.gas, c.frozen⟩)
    ((hf₂.of_reads hreads).loadable (Address.ofWord arg)) rfl (by omega)
  have h₃ := onState_of_gives (c := c) hl hcode
  have hf₃ : l'.Healthy := hf₂.of_reads (hreads.trans hreads')
  have hview : l'.view = f.world.ledger.view := (hreads.trans hreads').view.trans hr₂.view
  have hrecord : l'.view.record? (f.world.ledger.view.codeHash (Address.ofWord arg)) = some r := by
    rw [hview]
    exact hcurrent.record
  obtain ⟨f₄, h₄, hleft₄⟩ := Programs.onState_of_answers (c := c)
    (f := ⟨{ f₂.world with ledger := l' }, f₂.gas - Gas.readCodeHash⟩) (hf₃.account stateAccount)
    (State.answers_activeRecord (p := f.world.ledger.view.params)
      ⟨hf₃.known _, hf₃.known _, hf₃.known _⟩ hrecord hactivated hcurrent.version hcurrent.live)
    (by dsimp only; omega)
  rw [hr₁.view] at h₂
  rw [hreads.view, hr₂.view] at h₃
  have hnow : f₂.world.now = f.world.now := hr₂.now
  refine ⟨f₄, hprogram.bind (h₁.bind (h₂.bind (h₃.bind ((gives_get.mpr ⟨rfl, rfl⟩).bind
    (Gives.bind ?_ (gives_pure.mpr ⟨rfl, rfl⟩)))))), ?_⟩
  · change Gives (onState c (State.activeRecord _ f₂.world.now _)) _ r f₄
    rw [hnow]
    exact h₄
  · rw [hleft₄]
    dsimp only
    rw [hleft₂, hleft₁]
    omega

def announceGas (r : Record) : Nat := 375 + 375 * 3 + 8 * 32 + r.initCost.toNat

theorem announce_of_le (h : Word) (pinned : Bool) (hgas : announceGas r ≤ f.gas) :
    Gives (announce c h r pinned) f ⟨⟩
      { world := { f.world with ledger := f.world.ledger.addLog (cacheUpdated c h pinned) }
        gas := f.gas - announceGas r } := by
  have hlog : Gas.log (cacheUpdated c h pinned) = 375 + 375 * 3 + 8 * 32 := by
    have hdata : (cacheUpdated c h pinned).data.length = 32 := by
      simp [cacheUpdated, Abi.words, Word.length_octets]
    rw [Gas.log, hdata]
    rfl
  unfold announceGas at hgas ⊢
  have hpaid : r.initCost.toNat ≤ f.gas - Gas.log (cacheUpdated c h pinned) := by omega
  rw [← hlog, ← Nat.sub_sub]
  exact (gives_emit_of_le (by omega)).bind (gives_pay_of_le (f := ⟨_, f.gas - _⟩) hpaid)

theorem healthy_announce (hf : f.world.ledger.Healthy) (h : Word) (pinned : Bool) :
    (f.world.ledger.addLog (cacheUpdated c h pinned)).Healthy :=
  hf.reaches (W := .any) (.single .log)

theorem setRecord_of_le (hf : f.world.ledger.Healthy) (hthawed : c.frozen = false)
    (hgas : State.saveGas ≤ f.gas) (h : Word) (r : Record) :
    ∃ g, Gives (onState c (State.setRecord h r)) f ⟨⟩ g := by
  obtain ⟨x, l, hl⟩ := Ledger.hold_of_account (hf.account stateAccount)
  have hknown := (hf.of_reads (Ledger.keeps_hold.of_gives hl)).known
  obtain ⟨e, he⟩ := State.ready_setRecord_all (d := ⟨l, some f.gas, c.frozen⟩)
    ⟨hthawed, by simpa using hgas, fun slot _ => hknown slot⟩ h r
  exact ⟨_, onState_of_gives hl he⟩

theorem pin_of_loads {x : Inspected} {y : Loaded} (hf : f.world.ledger.Healthy)
    (hthawed : c.frozen = false)
    (hmodule : Package.module? x.params.maxWasmSize.toNat (f.world.ledger.account x.program).code =
      .ok (some wasm))
    (hload : (f.world.cache.load compile wasm (f.world.settings x.params) true).1 = .ok y)
    (hgas : announceGas x.record + State.saveGas ≤ f.gas) : ∃ g, Gives (pin c x) f [] g := by
  have h₁ := announce_of_le (c := c) x.codeHash true (f := f) (r := x.record) (by omega)
  have hf₁ := healthy_announce (c := c) hf x.codeHash true
  obtain ⟨f₂, h₂, hleft₂⟩ := moduleAt_of_loadable (f := ⟨{ f.world with
    ledger := f.world.ledger.addLog (cacheUpdated c x.codeHash true) }, f.gas - announceGas x.record⟩)
    (hf₁.loadable x.program) hmodule
  have hr₂ := (reading_moduleAt x.program x.params).of_gives h₂
  have hload₂ : (f₂.world.cache.load compile wasm (f₂.world.settings x.params) true).1 = .ok y := by
    unfold World.settings
    rw [hr₂.cache, hr₂.config]
    exact hload
  have hloaded : Gives (do World.load wasm ((← get).settings x.params) true : WorldM Loaded) f₂.world y
      _ := (gives_get.mpr ⟨rfl, rfl⟩).bind (World.load_of_ok hload₂)
  have h₃ := Programs.onWorld_of_gives hloaded
  obtain ⟨g, h₄⟩ := setRecord_of_le (c := c) (f := ⟨{ f₂.world with
    cache := (f₂.world.cache.load compile wasm (f₂.world.settings x.params) true).2 }, f₂.gas⟩)
    (hf₁.of_reads hr₂.ledger) hthawed (by rw [hleft₂]; dsimp only; omega) x.codeHash
    { x.record with pinned := true }
  exact ⟨g, h₁.bind (h₂.bind (h₃.bind (h₄.bind (gives_pure.mpr ⟨rfl, rfl⟩))))⟩

theorem unpin_of_le {r : Record} (hf : f.world.ledger.Healthy) (hthawed : c.frozen = false)
    (hgas : announceGas r + (Gas.read + State.saveGas) ≤ f.gas) (h : Word) :
    ∃ g, Gives (unpin c h r) f [] g := by
  have h₁ := announce_of_le (c := c) h false (f := f) (r := r) (by omega)
  have hf₁ := healthy_announce (c := c) hf h false
  obtain ⟨f₂, h₂, hleft₂⟩ := Programs.onState_of_answers (c := c) (f := ⟨{ f.world with
    ledger := f.world.ledger.addLog (cacheUpdated c h false) }, f.gas - announceGas r⟩)
    (hf₁.account stateAccount) (Access.answers_load (hf₁.known (Layout.moduleHash h)))
    (by dsimp only; omega)
  have hr₂ := (reading_onState State.keeps_moduleHash).of_gives h₂
  obtain ⟨f₃, h₃⟩ := setRecord_of_le (c := c) (hf₁.of_reads hr₂.ledger) hthawed
    (by rw [hleft₂]; dsimp only; omega) h { r with pinned := false }
  exact ⟨_, h₁.bind (h₂.bind (h₃.bind ((gives_modify (a := ⟨⟩).mpr rfl).bind
    (gives_pure.mpr ⟨rfl, rfl⟩))))⟩

theorem cacheProgram_of_current {y : Loaded} (harg : Abi.firstWord? args = some arg)
    (hf : f.world.ledger.Healthy) (hthawed : c.frozen = false)
    (hmanages : f.world.ledger.view.Manages c.caller)
    (hmodule : Package.module? f.world.ledger.view.params.maxWasmSize.toNat
      (f.world.ledger.account (Address.ofWord arg)).code = .ok (some wasm))
    (hcurrent : f.world.ledger.view.Current f.world.now
      (f.world.ledger.view.codeHash (Address.ofWord arg)) r) (hactivated : r.version ≠ 0)
    (hunpinned : r.pinned = false)
    (hload : (f.world.cache.load compile wasm (f.world.settings f.world.ledger.view.params) true).1 =
      .ok y)
    (hgas : inspectGas + (announceGas r + State.saveGas) ≤ f.gas) :
    let h := f.world.ledger.view.codeHash (Address.ofWord arg)
    ∃ g, Gives (cacheProgram c args) f [] g ∧ g.world.ledger.view =
      (f.world.ledger.view.log (cacheUpdated c h true)).setRecord h { r with pinned := true } := by
  intro h
  obtain ⟨f₁, h₁, hleft₁⟩ := inspect_of_current (c := c) harg hf hmanages hcurrent hactivated (by omega)
  have hr₁ : f.world.Reading f₁.world := reading_inspect.of_gives h₁
  have hload₁ : (f₁.world.cache.load compile wasm (f₁.world.settings f.world.ledger.view.params)
      true).1 = .ok y := by
    unfold World.settings
    rw [hr₁.cache, hr₁.config]
    exact hload
  obtain ⟨g, h₂⟩ := pin_of_loads (c := c) (hf.of_reads hr₁.ledger) hthawed
    (x := ⟨Address.ofWord arg, f.world.ledger.view.params, h, r⟩) (by rw [hr₁.account]; exact hmodule)
    hload₁ (by dsimp only; omega)
  obtain ⟨-, -, hview⟩ := gives_pin h₂
  rw [hr₁.view] at hview
  refine ⟨g, ?_, hview⟩
  rw [cacheProgram_eq]
  refine h₁.bind ?_
  rw [if_neg (by simp [hunpinned])]
  exact h₂

theorem evictCodehash_of_pinned (harg : Abi.firstWord? args = some h)
    (hf : f.world.ledger.Healthy) (hthawed : c.frozen = false)
    (hmanages : f.world.ledger.view.Manages c.caller)
    (hrecord : f.world.ledger.view.record? h = some r) (hpinned : r.pinned = true)
    (hgas : Gas.read + (State.recordGas + (announceGas r + (Gas.read + State.saveGas))) ≤ f.gas) :
    ∃ g, Gives (evictCodehash c args) f [] g ∧ g.world.ledger.view =
      (f.world.ledger.view.log (cacheUpdated c h false)).setRecord h { r with pinned := false } := by
  obtain ⟨f₁, h₁, hleft₁⟩ := requireManager_of_manages hf hmanages (by omega)
  have hr₁ : f.world.Reading f₁.world := reading_requireManager.of_gives h₁
  have hf₁ := hf.of_reads hr₁.ledger
  obtain ⟨f₂, h₂, hleft₂⟩ := Programs.onState_of_answers (c := c) (hf₁.account stateAccount)
    (State.answers_record? ⟨hf₁.known _, hf₁.known _, hf₁.known _⟩
      (show f₁.world.ledger.view.record? h = some r from hr₁.view.symm ▸ hrecord)) (by omega)
  have hr₂ : f.world.Reading f₂.world := hr₁.trans ((reading_onState State.keeps_record?).of_gives h₂)
  obtain ⟨g, h₃⟩ := unpin_of_le (c := c) (r := r) (hf.of_reads hr₂.ledger) hthawed (by omega) h
  have hfound : Gives (findPinned c args) f (h, some r) f₂ := by
    refine (argument_of_word harg f).bind (h₁.bind (h₂.bind (gives_pure.mpr ⟨?_, rfl⟩)))
    rw [Option.filter_some, if_pos hpinned]
  have hview := gives_unpin h₃
  rw [hr₂.view] at hview
  refine ⟨g, ?_, hview⟩
  rw [evictCodehash_eq]
  exact hfound.bind h₃

end Pinning

theorem Effect.renewed {w : World} {c : Call} {v : View} {h : Word} {r : Record}
    (heffect : Effect c w v)
    (hasks : Asks c programsAddress "codehashKeepalive(bytes32)") (harg : argument? c = some h)
    (hcurrent : w.ledger.view.Current w.now h r) :
    let sold := w.ledger.view.priced (UInt32.ofNat r.asmSize) w.now
    let fee := BitVec.ofNat 256 sold.2
    let renewed := (w.ledger.view.setPricer sold.1).setRecord h
      (r.keptAlive w.ledger.view.params w.now fee)
    ∃ u, View.Pays c.target renewed.feeAccount fee renewed u ∧ v.slot = u.slot ∧
      v.account = Accounts.move c.target c.caller (c.value - fee) u.account := by
  cases heffect with
  | nothing hidle => exact absurd hasks.selector (hidle hasks.codeAt _ (by simp [paying]))
  | handedBack hasks' => exact absurd hasks hasks'.not_keepalive
  | activated hasks' => exact absurd hasks hasks'.not_keepalive
  | keptAlive _ harg' hcurrent' _ hfee hrenewed _ hcharged hback =>
    obtain rfl := Option.some.inj (harg.symm.trans harg')
    obtain rfl := Option.some.inj (hcurrent.record.symm.trans hcurrent'.record)
    subst hfee hrenewed
    exact ⟨_, hcharged, hback.slot, congrArg View.account hback.paid⟩
  | pinned hasks' => exact absurd (hasks.codeAt.symm.trans hasks'.codeAt) (by decide)
  | unpinned hasks' => exact absurd (hasks.codeAt.symm.trans hasks'.codeAt) (by decide)

end SystemContract

namespace World

open SystemContract

variable {w : World} {c : Call} {arg h : Word} {r : Record} {wasm : Octets}

theorem returns_keepalive (hasks : Asks c programsAddress "codehashKeepalive(bytes32)")
    (harg : argument? c = some h) (hw : w.ledger.Healthy)
    (hcurrent : w.ledger.view.Current w.now h r) (hactivated : r.version ≠ 0)
    (hfee : BitVec.ofNat 256 (w.ledger.view.priced (UInt32.ofNat r.asmSize) w.now).2 ≤ c.value)
    (hne : c.caller ≠ c.target) (hfunds : c.value ≤ (w.ledger.account c.caller).balance)
    (hgas : callGas c + (Gas.read + Programs.extensionGas) ≤ c.gas) :
    ∃ r, (w.invoke (some true) .system c).1 = some r ∧ r.succeeded = true := by
  refine succeeds_of_paid hw hfunds fun l hl hpays => ?_
  have hpriced : l.view.priced = w.ledger.view.priced := by
    unfold View.priced
    rw [View.pricer_of_slot hpays.slot]
  obtain ⟨g, hrun⟩ := Programs.codehashKeepalive_of_current (c := c)
    (f := ⟨{ w with ledger := l }, c.gas - callGas c⟩) harg hl (hcurrent.of_slot hpays.slot)
    hactivated (hpriced ▸ hfee) (funds_of_paid hne hpays) (by dsimp only; omega)
  obtain ⟨s, hs, hreturned⟩ := call_of_asks (m := ⟨_, .payable, Programs.codehashKeepalive⟩) hasks
    rfl (Programs.find_codehashKeepalive hasks.selector) (.inr rfl) (fun h => absurd rfl h)
    (by omega) hrun (Nat.zero_le _)
  exact ⟨s, _, hs, hreturned⟩

/-- A frame that has no value to move starts the call with things as they are, and ends as it does. -/
theorem returns_of_unpaid {callee : Callee} {P : World → Prop} (hw : w.ledger.Healthy)
    (hvalue : c.value = 0)
    (hcall : ∀ l : Ledger, l.Healthy → l.view = w.ledger.view → ∃ r w',
      (callee.run c).run { w with ledger := l } = (some r, w') ∧ r.succeeded = true ∧ P w') :
    ∃ r w', w.invoke (some true) callee c = (some r, w') ∧ r.succeeded = true ∧ P w' := by
  refine returns_of_paid hw (hvalue ▸ Nat.zero_le _) fun l hl hpays => ?_
  have hpaid : Paid true c w.ledger.view l.view := hpays
  exact hcall l hl (hpaid.eq hvalue)

theorem returns_cacheProgram {y : Loaded} (hasks : Asks c pinningAddress "cacheProgram(address)")
    (harg : argument? c = some arg) (hvalue : c.value = 0) (hw : w.ledger.Healthy)
    (hmanages : w.ledger.view.Manages c.caller)
    (hmodule : Package.module? w.ledger.view.params.maxWasmSize.toNat
      (w.ledger.account (Address.ofWord arg)).code = .ok (some wasm))
    (hcurrent : w.ledger.view.Current w.now (w.ledger.view.codeHash (Address.ofWord arg)) r)
    (hactivated : r.version ≠ 0) (hunpinned : r.pinned = false)
    (hload : (w.cache.load compile wasm (w.settings w.ledger.view.params) true).1 = .ok y)
    (hgas : callGas c + (Pinning.inspectGas + (Pinning.announceGas r + State.saveGas)) ≤ c.gas) :
    let h := w.ledger.view.codeHash (Address.ofWord arg)
    ∃ s w', w.invoke (some true) .system c = (some s, w') ∧ s.succeeded = true ∧ w'.ledger.view =
      (w.ledger.view.log (Pinning.cacheUpdated c h true)).setRecord h { r with pinned := true } := by
  intro h
  refine returns_of_unpaid hw hvalue fun l hl hview => ?_
  have haccount : l.account = w.ledger.account := congrArg View.account hview
  obtain ⟨g, hrun, hpinned⟩ := Pinning.cacheProgram_of_current (c := c)
    (f := ⟨{ w with ledger := l }, c.gas - callGas c⟩) harg hl hasks.thawed
    (by dsimp only; rw [hview]; exact hmanages)
    (by dsimp only; rw [hview, haccount]; exact hmodule) (by dsimp only; rw [hview]; exact hcurrent)
    hactivated hunpinned (by dsimp only; rw [hview]; exact hload) (by dsimp only; omega)
  obtain ⟨s, hs, hreturned⟩ := call_of_asks (m := ⟨_, .nonpayable, Pinning.cacheProgram⟩) hasks rfl
    (Pinning.find_cacheProgram hasks.selector) (.inl rfl) (fun _ => hvalue) (by omega) hrun
    (Nat.zero_le _)
  dsimp only at hpinned
  rw [hview] at hpinned
  exact ⟨s, _, hs, hreturned, hpinned⟩

theorem returns_evictCodehash (hasks : Asks c pinningAddress "evictCodehash(bytes32)")
    (harg : argument? c = some h) (hvalue : c.value = 0) (hw : w.ledger.Healthy)
    (hmanages : w.ledger.view.Manages c.caller) (hrecord : w.ledger.view.record? h = some r)
    (hpinned : r.pinned = true)
    (hgas : callGas c + (Gas.read + (State.recordGas +
      (Pinning.announceGas r + (Gas.read + State.saveGas)))) ≤ c.gas) :
    ∃ s w', w.invoke (some true) .system c = (some s, w') ∧ s.succeeded = true ∧ w'.ledger.view =
      (w.ledger.view.log (Pinning.cacheUpdated c h false)).setRecord h { r with pinned := false } := by
  refine returns_of_unpaid hw hvalue fun l hl hview => ?_
  obtain ⟨g, hrun, hreleased⟩ := Pinning.evictCodehash_of_pinned (c := c)
    (f := ⟨{ w with ledger := l }, c.gas - callGas c⟩) harg hl hasks.thawed
    (by dsimp only; rw [hview]; exact hmanages) (by dsimp only; rw [hview]; exact hrecord) hpinned
    (by dsimp only; omega)
  obtain ⟨s, hs, hreturned⟩ := call_of_asks (m := ⟨_, .nonpayable, Pinning.evictCodehash⟩) hasks rfl
    (Pinning.find_evictCodehash hasks.selector) (.inl rfl) (fun _ => hvalue) (by omega) hrun
    (Nat.zero_le _)
  dsimp only at hreleased
  rw [hview] at hreleased
  exact ⟨s, _, hs, hreturned, hreleased⟩

/-! ### What fees leave -/

theorem account_of_fee {l : Ledger} {entered u : View} {fee : Word} {account : Accounts}
    (hmoved : View.Pays c.caller c.target c.value w.ledger.view l.view)
    (hentered : entered.account = l.account)
    (hcharged : View.Pays c.target entered.feeAccount fee entered u)
    (hback : account = Accounts.move c.target c.caller (c.value - fee) u.account) :
    account = Accounts.move c.caller entered.feeAccount fee w.ledger.account := by
  have hgiven : l.account = Accounts.move c.caller c.target c.value w.ledger.account :=
    congrArg View.account hmoved.paid
  rw [hback, hcharged.paid, View.pay, hentered, hgiven, Accounts.move_through]

/-- What an activation that is asked for leaves: the program is entered with the artifact that can be
loaded, and whoever asked has paid the fee. -/
theorem activated_of_returned {y : Loaded} {fee : Word} {s : CallResult}
    (hasks : Asks c programsAddress "activateProgram(address)") (harg : argument? c = some arg)
    (hw : w.Awaits (Address.ofWord arg) wasm y fee)
    (hx : (w.invoke (some true) .system c).1 = some s) (hs : s.succeeded = true) :
    let h := keccak (w.ledger.account (Address.ofWord arg)).code
    let a := w.ledger.view.activation h w.ledger.view.params w.block (w.ledger.view.pinned h)
      y.artifact
    let v := (w.invoke (some true) .system c).2.ledger.view
    v.slot = (w.ledger.view.activated h w.block a).slot ∧
      v.account = Accounts.move c.caller (w.ledger.view.activated h w.block a).feeAccount a.fee
        w.ledger.account := by
  intro h a v
  obtain ⟨l, hmoved, hasked⟩ := effect_of_returned hx hs
  change SystemContract.Effect c _ v at hasked
  have hslot : l.view.slot = w.ledger.view.slot := View.Pays.slot hmoved
  have hcode : (l.account (Address.ofWord arg)).code = (w.ledger.account (Address.ofWord arg)).code :=
    View.Pays.code hmoved _
  have hparams : l.view.params = w.ledger.view.params := View.params_of_slot hslot
  have hprogram : Package.module? l.view.params.maxWasmSize.toNat
      (l.account (Address.ofWord arg)).code = .ok (some wasm) := by
    rw [hparams, hcode]
    exact hw.module
  obtain ⟨wasm', a', entered, u, hmodule, hactivates, ⟨y', hy', hload⟩, hcharged, hleft, hback⟩ :=
    hasked.entered hasks harg (codeHash_of_module hprogram) fun r hr =>
      hw.inactive r (hcode ▸ hr.of_slot hslot.symm)
  dsimp only at hmodule hactivates hload
  rw [hcode] at hactivates
  obtain rfl : wasm' = wasm := Option.some.inj (Except.ok.inj (hmodule.symm.trans hprogram))
  -- the activation is the one that was waited for
  have hloaded : y' = y := by
    unfold settings at hload
    rw [hparams] at hload
    exact Except.ok.inj (hload.symm.trans hw.loads)
  have hsame : a' = a := by
    obtain ⟨artifact, ha⟩ := hactivates.activation
    have hartifact : artifact = y.artifact := by
      rw [← hloaded, hy', ha]
      rfl
    dsimp only at ha
    rw [ha, hartifact, hparams, View.pinned_of_slot hslot, View.activation_of_slot hslot]
  rw [hsame] at hactivates hcharged hback
  have hentered : entered.slot = (w.ledger.view.activated h w.block a).slot := by
    rw [hactivates.view]
    exact View.slot_activated_congr hslot h w.block a
  refine ⟨hleft.trans (hcharged.slot.trans hentered), ?_⟩
  rw [← View.feeAccount_of_slot hentered]
  exact account_of_fee hmoved hactivates.account hcharged hback

/-- What a keepalive that is asked for leaves: the record is renewed, and whoever asked has paid the
fee. -/
theorem keptAlive_of_returned {s : CallResult}
    (hasks : Asks c programsAddress "codehashKeepalive(bytes32)") (harg : argument? c = some h)
    (hcurrent : w.ledger.view.Current w.now h r) (hx : (w.invoke (some true) .system c).1 = some s)
    (hs : s.succeeded = true) :
    let sold := w.ledger.view.priced (UInt32.ofNat r.asmSize) w.now
    let fee := BitVec.ofNat 256 sold.2
    let renewed := (w.ledger.view.setPricer sold.1).setRecord h
      (r.keptAlive w.ledger.view.params w.now fee)
    let v := (w.invoke (some true) .system c).2.ledger.view
    v.slot = renewed.slot ∧
      v.account = Accounts.move c.caller renewed.feeAccount fee w.ledger.account := by
  intro sold fee renewed v
  obtain ⟨l, hmoved, hasked⟩ := effect_of_returned hx hs
  change SystemContract.Effect c _ v at hasked
  have hslot : l.view.slot = w.ledger.view.slot := View.Pays.slot hmoved
  obtain ⟨u, hcharged, hleft, hback⟩ :=
    hasked.renewed hasks harg (hcurrent.of_slot (v := w.ledger.view) hslot)
  dsimp only at hcharged
  have hpriced : l.view.priced = w.ledger.view.priced := by
    unfold View.priced
    rw [View.pricer_of_slot hslot]
  rw [hpriced, View.params_of_slot hslot] at hcharged
  rw [hpriced] at hback
  have hrenewed : ((l.view.setPricer sold.1).setRecord h
      (r.keptAlive w.ledger.view.params w.now fee)).slot = renewed.slot :=
    View.slot_setRecord_congr (View.slot_setPricer_congr hslot _) _ _
  refine ⟨hleft.trans (hcharged.slot.trans hrenewed), ?_⟩
  rw [← View.feeAccount_of_slot hrenewed]
  exact account_of_fee hmoved rfl hcharged hback

end World

/-! ### The small package, kept -/

namespace SystemContract

def service (a : Address) (signature : String) (value arg : Word) : Call where
  target := a
  codeAt := a
  caller := 9
  value := value
  input := Abi.selectorOf signature ++ arg.octets
  gas := 2000000

variable {a : Address} {signature : String} {value arg : Word}

theorem drop_service : (service a signature value arg).input.drop 4 = arg.octets :=
  List.drop_left' (Abi.length_selectorOf signature)

theorem asks_service : Asks (service a signature value arg) a signature :=
  ⟨rfl, rfl, rfl, List.take_left' (Abi.length_selectorOf signature)⟩

theorem argument_service : argument? (service a signature value arg) = some arg := by
  have hword : Octets.slice? 0 32 arg.octets = some arg.octets := by
    simp [Octets.slice?, Word.length_octets, List.take_of_length_le]
  unfold argument? Abi.firstWord?
  rw [drop_service, hword, Option.map_some, Word.ofOctets_octets]

theorem callGas_service : callGas (service a signature value arg) = 803 := by
  unfold callGas
  rw [drop_service, Word.length_octets]
  rfl

end SystemContract

/-- What the activation of the small package is sold for, and the pricer once it is. -/
def firstSale : Pricer × Nat := ({} : Pricer).update 513401 1

def secondSale : Pricer × Nat := firstSale.1.update 514048 31536000

def firstFee : Word := BitVec.ofNat 256 firstSale.2

def secondFee : Word := BitVec.ofNat 256 secondSale.2

def enteredRecord : Record := { Ledger.smallRecord with dataFee := firstFee }

def renewedRecord : Record := enteredRecord.keptAlive {} 31536000 secondFee

theorem secondSale_pricer : secondSale.1 = { demand := 514048, lastUpdate := 31536000 } := by
  unfold secondSale firstSale Pricer.update
  decide

theorem toNat_firstFee : firstFee.toNat = firstSale.2 := View.toNat_price _ _

theorem toNat_secondFee : secondFee.toNat = secondSale.2 := View.toNat_price _ _

theorem fees_le : firstFee.toNat ≤ max64 ∧ secondFee.toNat ≤ max64 := by
  rw [toNat_firstFee, toNat_secondFee]
  exact ⟨clamp64_le _, clamp64_le _⟩

theorem renewedRecord_eq : renewedRecord = { Ledger.smallRecord with
    expiresAt := 34214400, keepaliveUntil := 34214400, dataFee := firstFee + secondFee } := by
  have hfee : BitVec.ofNat 256 (min (firstFee.toNat + secondFee.toNat) (2 ^ 256 - 1)) =
      firstFee + secondFee := by
    obtain ⟨hfirst, hsecond⟩ := fees_le
    have hroom : max64 + max64 ≤ 2 ^ 256 - 1 := by decide
    rw [Nat.min_eq_left (by omega), BitVec.ofNat_add, BitVec.ofNat_toNat, BitVec.ofNat_toNat,
      BitVec.setWidth_eq, BitVec.setWidth_eq]
  have hextended : enteredRecord.extended 31536000 31 = 34214400 := by decide
  have hdeadline : Record.deadline 31536000 31 = 34214400 := by decide
  have hdays : ({} : Params).keepaliveDays = 31 := rfl
  have hpaid : enteredRecord.dataFee = firstFee := rfl
  unfold renewedRecord Record.keptAlive
  rw [hdays, hextended, hdeadline, hpaid, hfee]
  rfl

theorem beside_manager : Layout.Beside (· = smallHash) (State.managers.indexSlot 9) :=
  Layout.beside_smallHash (by rw [AddressSet.indexSlot_mod]; decide)
    (by rw [AddressSet.indexSlot_mod]; decide)

/-- Account nine, a manager, had all the money and has paid so much of it; the small package is in
account one, with this record, and this is the pricer. -/
structure Ledger.Serves (paid : Word) (r : Option Record) (p : Pricer) (l : Ledger) : Prop where
  healthy : l.Healthy
  params : l.view.params = {}
  receiver : l.view.feeAccount = 0
  manages : l.view.Manages 9
  account : l.account = Accounts.move 9 0 paid (World.furnished 9).ledger.account
  record : l.view.record? smallHash = r
  pricer : l.view.pricer = p

namespace Ledger.Serves

variable {l m : Ledger} {paid paid' : Word} {r r' : Option Record} {p p' : Pricer} {x : View}

theorem code (h : l.Serves paid r p) : (l.account 1).code = smallPackage := by
  obtain ⟨b, hb⟩ := Accounts.exists_move 9 0 paid (World.furnished 9).ledger.account 1
  rw [h.account, hb, World.account_furnished, if_pos rfl]

theorem module (h : l.Serves paid r p) : Package.module? l.view.params.maxWasmSize.toNat
    (l.account 1).code = .ok (some smallModule) := by
  rw [h.params, h.code]
  exact World.module?_smallPackage

theorem codeHash (h : l.Serves paid r p) : l.view.codeHash 1 = smallHash := by
  rw [SystemContract.codeHash_of_module h.module]
  exact (congrArg keccak h.code).trans keccak_smallPackage

theorem funds (h : l.Serves paid r p) (hpaid : paid.toNat ≤ max64) :
    (0x10000000000000000 : Word) ≤ (l.account 9).balance := by
  have hmoved := Accounts.move_apply (show (9 : Address) ≠ 0 by decide) paid
    (World.furnished 9).ledger.account 9
  rw [if_neg (by decide), if_pos rfl, World.balance_furnished (by decide)] at hmoved
  rw [h.account, hmoved]
  dsimp only
  have hle : paid ≤ 0x20000000000000000 := Nat.le_trans hpaid (by decide)
  change (0x10000000000000000 : Word).toNat ≤ _
  rw [BitVec.toNat_sub_of_le hle]
  have hall : (0x20000000000000000 : Word).toNat = 2 ^ 65 := by decide
  have hvalue : (0x10000000000000000 : Word).toNat = 2 ^ 64 := by decide
  unfold max64 at hpaid
  omega

theorem received (h : l.Serves paid r p) : (l.account 0).balance = paid := by
  rw [h.account, Accounts.balance_move, if_neg (by decide), if_pos rfl, World.account_furnished,
    if_neg (by decide), if_neg (by decide)]
  simp

theorem next (h : l.Serves paid r p) (hm : m.Healthy) (hslot : m.view.slot = x.slot)
    (hrests : l.view.Rests (· = smallHash) x)
    (haccount : m.account = Accounts.move 9 0 paid' (World.furnished 9).ledger.account)
    (hrecord : x.record? smallHash = r') (hpricer : x.pricer = p') : m.Serves paid' r' p' where
  healthy := hm
  params := (View.params_of_slot hslot).trans
    ((hrests.params Layout.apart_smallHash).trans h.params)
  receiver := (View.feeAccount_of_slot hslot).trans
    ((hrests.feeAccount Layout.apart_smallHash).trans h.receiver)
  manages := by
    have hmanages := h.manages
    unfold View.Manages View.stateNat at hmanages ⊢
    rw [View.state, hslot]
    rw [← hrests _ beside_manager] at hmanages
    exact hmanages
  account := haccount
  record := (View.record?_of_slot hslot smallHash).trans hrecord
  pricer := (View.pricer_of_slot hslot).trans hpricer

end Ledger.Serves

namespace World

open SystemContract

variable {w : World}

def timed (time : Word) (w : World) : World :=
  { w with config := {}, block := { timestamp := time }, transaction := {} }

theorem now_timed (time : Word) (w : World) : (w.timed time).now = clamp64 time.toNat := rfl

def request (time : Word) (c : Call) : List Turn :=
  [.set {} { timestamp := time } {}, .call (some true) .system c]

theorem goes_request {time : Word} {c : Call} {s : CallResult}
    (h : ((w.timed time).invoke (some true) .system c).1 = some s) (hs : s.succeeded = true) :
    w.Goes (request time c) := ⟨trivial, ⟨s, h, hs⟩, trivial⟩

theorem healthy_step (h : w.ledger.Healthy) (t : Turn) : (t.step w).ledger.Healthy :=
  h.reaches ((Turn.follows_of_open (R := .any) (fun _ _ _ => trivial) (fun _ _ _ _ _ => trivial)
    fun _ _ => trivial).ledger (Rules.sound_any w))

theorem healthy_after (h : w.ledger.Healthy) (ts : List Turn) : (w.after ts).ledger.Healthy := by
  induction ts generalizing w with
  | nil => exact h
  | cons t ts ih => exact ih (healthy_step h t)

def activating : List Turn :=
  request 1 (service programsAddress "activateProgram(address)" 0x10000000000000000 1)

def keeping : List Turn :=
  request 31536000 (service programsAddress "codehashKeepalive(bytes32)" 0x10000000000000000 smallHash)

def pinning : List Turn := request 31536001 (service pinningAddress "cacheProgram(address)" 0 1)

def releasing : List Turn :=
  request 31536002 (service pinningAddress "evictCodehash(bytes32)" 0 smallHash)

theorem activation_small {v : View} {a : Artifact} (hpricer : v.pricer = {})
    (hartifact : compile smallModule ⟨2, false, 128, 131072⟩ = .ok a) :
    v.activation smallHash {} { timestamp := 1 } false a =
      ⟨2, firstFee, a.moduleHash, enteredRecord, a⟩ := by
  have hsold : (v.setModuleHash smallHash a.moduleHash).pricer = {} :=
    (View.pricer_setModuleHash Layout.apart_smallHash rfl).trans hpricer
  have htime : Block.time { timestamp := 1 } = 1 := by decide
  have hexpires : UInt64.ofNat (Record.deadline 1 365) = 31536001 := by decide
  have hfee : BitVec.ofNat 256 (({} : Pricer).update 513401 (UInt64.ofNat 1)).2 = firstFee := rfl
  unfold View.activation Record.ofArtifact
  dsimp only
  rw [hsold, estimate_smallModule hartifact, htime, hfee, hexpires]
  rfl

theorem serves_activating (h : w.ledger.Serves 0 none {})
    (hkept : w.cache.artifacts = (Cache.ofCapacity 1).artifacts) : w.Goes activating ∧
      (w.after activating).ledger.Serves firstFee (some enteredRecord) firstSale.1 := by
  let c := service programsAddress "activateProgram(address)" 0x10000000000000000 1
  -- only the clock is set before the call
  have h' : (w.timed 1).ledger.Serves 0 none {} := h
  generalize hworld : w.timed 1 = t at h'
  obtain ⟨y, fee, hw, hartifact⟩ := awaits_of_unrecorded (w := t) (a := 1) h'.healthy h'.params
    h'.record h'.code (by rw [← hworld]; exact hkept) (by rw [← hworld]; rfl)
  have hat : Address.ofWord 1 = 1 := by decide
  obtain ⟨s, hs, hreturned⟩ := returns_asked (c := c) asks_service argument_service
    (hat.symm ▸ hw) (by decide) (Nat.le_trans hw.fee_le (by decide)) (h'.funds (Nat.zero_le _)) (by
      unfold activationCallGas
      rw [callGas_service]
      decide)
  obtain ⟨hslot, haccount⟩ := activated_of_returned (c := c) asks_service argument_service
    (hat.symm ▸ hw) hs hreturned
  have hhash : keccak (t.ledger.account (Address.ofWord 1)).code = smallHash := by
    rw [hat, h'.code, keccak_smallPackage]
  have hpinned : t.ledger.view.pinned smallHash = false := by
    rw [View.pinned, h'.record]
    rfl
  have hblock : t.block = { timestamp := 1 } := by
    rw [← hworld]
    rfl
  rw [hhash, h'.params, hpinned, hblock, activation_small h'.pricer hartifact] at hslot haccount
  rw [View.feeAccount_activated Layout.apart_smallHash rfl, h'.receiver, h'.account,
    Accounts.move_zero] at haccount
  subst hworld
  have hafter : w.after activating = ((w.timed 1).invoke (some true) .system c).2 := rfl
  have hhealthy := healthy_after h.healthy activating
  rw [hafter] at hhealthy ⊢
  refine ⟨goes_request hs hreturned, ?_⟩
  refine h'.next hhealthy hslot (View.rests_activated rfl) haccount ?_ ?_
  · exact View.record?_setRecord_sized (r := enteredRecord) Layout.apart_smallHash rfl (by decide)
      (by decide)
  · unfold View.activated
    dsimp only
    rw [View.pricer_setRecord Layout.apart_smallHash rfl, View.pricer_setPricer_update,
      View.pricer_setModuleHash Layout.apart_smallHash rfl, h'.pricer, estimate_smallModule hartifact]
    rfl

theorem serves_keeping (h : w.ledger.Serves firstFee (some enteredRecord) firstSale.1) :
    w.Goes keeping ∧ (w.after keeping).ledger.Serves (firstFee + secondFee) (some renewedRecord)
      { demand := 514048, lastUpdate := 31536000 } := by
  let c := service programsAddress "codehashKeepalive(bytes32)" 0x10000000000000000 smallHash
  have h' : (w.timed 31536000).ledger.Serves firstFee (some enteredRecord) firstSale.1 := h
  generalize hworld : w.timed 31536000 = t at h'
  have hnow : t.now = 31536000 := by
    rw [← hworld, now_timed]
    decide
  have hcurrent : t.ledger.view.Current t.now smallHash enteredRecord :=
    ⟨h'.record, by rw [h'.params]; rfl, by rw [hnow]; decide⟩
  have hsold : t.ledger.view.priced (UInt32.ofNat enteredRecord.asmSize) t.now = secondSale := by
    have hbytes : UInt32.ofNat enteredRecord.asmSize = 514048 := by decide
    have htime : UInt64.ofNat 31536000 = 31536000 := by decide
    rw [View.priced, h'.pricer, hnow, hbytes, htime, secondSale]
  obtain ⟨s, hs, hreturned⟩ := returns_keepalive (c := c) asks_service argument_service h'.healthy
    hcurrent (by decide) (by
      rw [hsold]
      exact Nat.le_trans fees_le.2 (by decide)) (by decide) (h'.funds fees_le.1) (by
      rw [callGas_service]
      decide)
  obtain ⟨hslot, haccount⟩ := keptAlive_of_returned (c := c) asks_service argument_service hcurrent hs
    hreturned
  rw [hsold, hnow, h'.params] at hslot haccount
  rw [View.Rests.feeAccount Layout.apart_smallHash (View.rests_renewed rfl), h'.receiver, h'.account]
    at haccount
  subst hworld
  have hafter : w.after keeping = ((w.timed 31536000).invoke (some true) .system c).2 := rfl
  have hhealthy := healthy_after h.healthy keeping
  rw [hafter] at hhealthy ⊢
  refine ⟨goes_request hs hreturned, ?_⟩
  refine h'.next hhealthy hslot (View.rests_renewed rfl) ?_ ?_ ?_
  · exact haccount.trans (Accounts.move_move _ _ _ _ _)
  · exact View.record?_setRecord_sized (r := renewedRecord) Layout.apart_smallHash rfl (by decide)
      (by decide)
  · rw [View.pricer_setRecord Layout.apart_smallHash rfl, View.pricer_setPricer, secondSale_pricer]
    rfl

theorem serves_pinned {t t' : World} {paid : Word} {r : Record} {p : Pricer} {g : Log} {b : Bool}
    (h' : t.ledger.Serves paid (some r) p) (hhealthy : t'.ledger.Healthy)
    (hsize : r.asmKb ≠ 0) (hfits : r.asmKb.toNat ≤ 0xffffff)
    (hview : t'.ledger.view = (t.ledger.view.log g).setRecord smallHash { r with pinned := b }) :
    t'.ledger.Serves paid (some { r with pinned := b }) p := by
  have hrests : t.ledger.view.Rests (· = smallHash)
      ((t.ledger.view.log g).setRecord smallHash { r with pinned := b }) := View.rests_setRecord rfl
  refine h'.next hhealthy (congrArg View.slot hview) hrests ?_ ?_ ?_
  · exact (congrArg View.account hview).trans h'.account
  · exact View.record?_setRecord_sized (r := { r with pinned := b }) Layout.apart_smallHash rfl hsize
      hfits
  · exact (View.pricer_setRecord Layout.apart_smallHash rfl).trans h'.pricer

theorem serves_pinning (h : w.ledger.Serves (firstFee + secondFee) (some renewedRecord)
      { demand := 514048, lastUpdate := 31536000 }) :
    w.Goes pinning ∧ (w.after pinning).ledger.Serves (firstFee + secondFee)
      (some { renewedRecord with pinned := true }) { demand := 514048, lastUpdate := 31536000 } := by
  let c := service pinningAddress "cacheProgram(address)" 0 1
  have h' : (w.timed 31536001).ledger.Serves _ _ _ := h
  generalize hworld : w.timed 31536001 = t at h'
  have hat : Address.ofWord 1 = 1 := by decide
  have hnow : t.now = 31536001 := by
    rw [← hworld, now_timed]
    decide
  have hcurrent : t.ledger.view.Current t.now smallHash renewedRecord :=
    ⟨h'.record, by rw [h'.params]; rfl, by rw [hnow, renewedRecord_eq]; decide⟩
  obtain ⟨a, ha⟩ := compile_smallModule
  obtain ⟨y, hload⟩ := t.cache.load_of_compiles true ha
  have hsettings : t.settings {} = ⟨2, false, 128, 131072⟩ := by
    rw [← hworld]
    rfl
  have hcode := h'.codeHash
  rw [← hat] at hcode
  obtain ⟨s, t', hs, hreturned, hview⟩ := returns_cacheProgram (c := c) (r := renewedRecord) asks_service
    argument_service rfl h'.healthy h'.manages (hat ▸ h'.module) (hcode ▸ hcurrent) (by decide)
    rfl (by rw [h'.params, hsettings]; exact hload) (by
      rw [callGas_service, renewedRecord_eq]
      decide)
  rw [hcode] at hview
  subst hworld
  have hafter : w.after pinning = t' := congrArg Prod.snd hs
  have hhealthy := healthy_after h.healthy pinning
  rw [hafter] at hhealthy ⊢
  refine ⟨goes_request (congrArg Prod.fst hs) hreturned, ?_⟩
  exact serves_pinned h' hhealthy (by decide) (by decide) hview

theorem serves_releasing (h : w.ledger.Serves (firstFee + secondFee)
      (some { renewedRecord with pinned := true }) { demand := 514048, lastUpdate := 31536000 }) :
    w.Goes releasing ∧ (w.after releasing).ledger.Serves (firstFee + secondFee) (some renewedRecord)
      { demand := 514048, lastUpdate := 31536000 } := by
  let c := service pinningAddress "evictCodehash(bytes32)" 0 smallHash
  have h' : (w.timed 31536002).ledger.Serves _ _ _ := h
  generalize hworld : w.timed 31536002 = t at h'
  obtain ⟨s, t', hs, hreturned, hview⟩ := returns_evictCodehash (c := c) asks_service argument_service
    rfl h'.healthy h'.manages h'.record rfl (by
      rw [callGas_service, renewedRecord_eq]
      decide)
  subst hworld
  have hafter : w.after releasing = t' := congrArg Prod.snd hs
  have hhealthy := healthy_after h.healthy releasing
  rw [hafter] at hhealthy ⊢
  refine ⟨goes_request (congrArg Prod.fst hs) hreturned, ?_⟩
  have hreleased := serves_pinned (b := false) h' hhealthy (by decide) (by decide) hview
  exact hreleased

def managing : Turn := .store (State.managers.indexSlot 9) 1

theorem step_managing (h : w.ledger.Healthy) : ∃ l : Ledger, managing.step w = { w with ledger := l } ∧
    l.view = w.ledger.view.setState (State.managers.indexSlot 9) 1 := by
  have hready := h.ready (Gas.write + 0)
  obtain ⟨d, hd, -⟩ : ∃ e, Gives (Access.store (State.managers.indexSlot 9) 1)
      { ledger := w.ledger } ⟨⟩ e ∧ e.Ready (fun _ => True) 0 :=
    Access.ready_write hready trivial
  exact ⟨d.ledger, congrArg Prod.snd (onState_of_gives hd), (Access.gives_store hd).1⟩

theorem serves_managing : (managing.step (furnished 9)).ledger.Serves 0 none {} := by
  have hhealthy := healthy_step (healthy_furnished 9) managing
  obtain ⟨l, hl, hview⟩ := step_managing (healthy_furnished 9)
  rw [hl] at hhealthy ⊢
  have hsame : ∀ slot ∈ Layout.shared, l.view.state slot = (furnished 9).ledger.view.state slot := by
    intro slot hslot
    have hfirst := Layout.shared_mod slot hslot
    have hmod : (State.managers.indexSlot 9).toNat % 256 = 9 := AddressSet.indexSlot_mod 9
    rw [hview, View.state_setState_of_ne]
    rintro rfl
    omega
  have hrecord : l.view.record? smallHash = (furnished 9).ledger.view.record? smallHash :=
    View.record?_congr fun p _ => by
      rw [hview, View.state_setState_of_ne (beside_manager.kept smallHash rfl p).symm]
  exact {
    healthy := hhealthy
    params := (View.params_congr hsame).trans (params_of_blank fun _ => rfl)
    receiver := (View.feeAccount_congr hsame).trans rfl
    manages := by
      dsimp only
      rw [View.Manages, View.stateNat, hview, View.state_setState, if_pos rfl]
      decide
    account := by
      rw [Accounts.move_zero]
      exact congrArg View.account hview
    record := hrecord.trans rfl
    pricer := (View.pricer_congr hsame).trans rfl }

/-- Account nine, once a manager, has the small package activated, kept alive a year later, pinned, and
released. -/
def served : List Turn := [managing] ++ activating ++ keeping ++ pinning ++ releasing

/-- All of that goes through, and this is what it leaves on the way. -/
theorem goes_served : (furnished 9).Goes served ∧
    ((furnished 9).after ([managing] ++ activating)).ledger.Serves firstFee (some enteredRecord)
      firstSale.1 ∧
    ((furnished 9).after ([managing] ++ activating ++ keeping)).ledger.Serves (firstFee + secondFee)
      (some renewedRecord) { demand := 514048, lastUpdate := 31536000 } ∧
    ((furnished 9).after ([managing] ++ activating ++ keeping ++ pinning)).ledger.Serves
      (firstFee + secondFee) (some { renewedRecord with pinned := true })
        { demand := 514048, lastUpdate := 31536000 } ∧
    ((furnished 9).after served).ledger.Serves (firstFee + secondFee) (some renewedRecord)
      { demand := 514048, lastUpdate := 31536000 } := by
  obtain ⟨l, hl, -⟩ := step_managing (healthy_furnished 9)
  have hkept : (managing.step (furnished 9)).cache.artifacts = (Cache.ofCapacity 1).artifacts := by
    rw [hl]
    rfl
  obtain ⟨hgoes₁, h₁⟩ := serves_activating serves_managing hkept
  obtain ⟨hgoes₂, h₂⟩ := serves_keeping h₁
  obtain ⟨hgoes₃, h₃⟩ := serves_pinning h₂
  obtain ⟨hgoes₄, h₄⟩ := serves_releasing h₃
  have hmanages : (furnished 9).Goes [managing] := ⟨trivial, trivial⟩
  simp only [served, goes_append, after_append, after_one]
  exact ⟨⟨⟨⟨⟨hmanages, hgoes₁⟩, hgoes₂⟩, hgoes₃⟩, hgoes₄⟩, h₁, h₂, h₃, h₄⟩

theorem allowed_service {a : Address} {signature : String} {value arg : Word}
    (h : arg = smallHash ∨ ∀ s ∈ renewing, Abi.selectorOf signature ≠ Abi.selectorOf s) :
    Callee.system.Allowed (· = smallHash) (service a signature value arg) := by
  intro s hs hselector x harg
  rw [argument_service] at harg
  rcases h with h | h
  · exact (Option.some.inj harg).symm.trans h
  · exact absurd (asks_service.selector.symm.trans hselector) (h s hs)

theorem allowed_request {hash : Word → Prop} {time : Word} {c : Call}
    (hc : Callee.system.Allowed hash c) : ∀ t ∈ request time c, t.Allowed hash := by
  intro t ht
  rcases List.mem_pair.mp ht with rfl | rfl
  · trivial
  · exact hc

theorem activateProgram_ne : ∀ s ∈ renewing,
    Abi.selectorOf "activateProgram(address)" ≠ Abi.selectorOf s := by
  intro s hs
  rcases List.mem_pair.mp hs with rfl | rfl
  · rw [Abi.selectorOf_activateProgram, Abi.selectorOf_codehashKeepalive]
    decide
  · rw [Abi.selectorOf_activateProgram, Abi.selectorOf_evictCodehash]
    decide

theorem cacheProgram_ne : ∀ s ∈ renewing,
    Abi.selectorOf "cacheProgram(address)" ≠ Abi.selectorOf s := by
  intro s hs
  rcases List.mem_pair.mp hs with rfl | rfl
  · rw [Abi.selectorOf_cacheProgram, Abi.selectorOf_codehashKeepalive]
    decide
  · rw [Abi.selectorOf_cacheProgram, Abi.selectorOf_evictCodehash]
    decide

theorem allowed_served : ∀ t ∈ served, t.Allowed (· = smallHash) := by
  have hmanage : ∀ t ∈ [managing], t.Allowed (· = smallHash) := by
    intro t ht
    rw [List.mem_singleton.mp ht]
    exact fun h hh p => beside_manager.kept h hh p
  simp only [served, List.forall_mem_append]
  exact ⟨⟨⟨⟨hmanage, allowed_request (allowed_service (.inr activateProgram_ne))⟩,
    allowed_request (allowed_service (.inl rfl))⟩,
    allowed_request (allowed_service (.inr cacheProgram_ne))⟩,
    allowed_request (allowed_service (.inl rfl))⟩

end World
end Inkwell
