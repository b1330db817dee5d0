import Inkwell.Proofs.SystemCalls
set_option autoImplicit false

/-! What the methods that do more than read have done when they answer. -/

namespace Inkwell

namespace View

def priced (v : View) (bytes : UInt32) (now : Nat) : Pricer × Nat :=
  v.pricer.update bytes (UInt64.ofNat now)

end View

namespace World

variable {w w' : World} {codeHash : Word}

theorem gives_keepalive {k : Keepalive} (h : Gives (keepalive codeHash) w k w') : ∃ r,
    let v := w.ledger.view
    let sold := v.priced (UInt32.ofNat r.asmSize) w.now
    let r' := r.keptAlive v.params w.now (BitVec.ofNat 256 sold.2)
    v.Current w.now codeHash r ∧ r.version ≠ 0 ∧ k = ⟨r'.expiresAt, BitVec.ofNat 256 sold.2⟩ ∧
      w'.ledger.view = (v.setPricer sold.1).setRecord codeHash r' := by
  obtain ⟨w₀, t, hget, h⟩ := gives_bind.mp h
  obtain ⟨rfl, rfl⟩ := gives_get.mp hget
  obtain ⟨d, hd, rfl⟩ := gives_onState h
  obtain ⟨p, d₁, hp, hd⟩ := gives_bind.mp hd
  obtain ⟨r, d₂, hr, hd⟩ := gives_bind.mp hd
  obtain ⟨n, d₃, hn, hd⟩ := gives_bind.mp hd
  obtain ⟨u, d₄, hset, hd⟩ := gives_bind.mp hd
  obtain ⟨rfl, rfl⟩ := gives_pure.mp hd
  have hr' := gives_rethrow.mp hr
  have hv₁ : d₁.ledger.view = w.ledger.view := State.view_of_reads State.keeps_params hp
  have hv₂ : d₂.ledger.view = d₁.ledger.view := State.view_of_reads State.keeps_activeRecord hr'
  have hparams : p = w.ledger.view.params := State.gives_params hp
  obtain ⟨hrecord, hactivated, hversion, hlive⟩ := State.gives_activeRecord hr'
  obtain ⟨hfee, hpriced⟩ := State.gives_priceData hn
  have hwritten := State.gives_setRecord hset
  rw [hv₁] at hrecord
  rw [hv₂, hv₁] at hfee hpriced
  subst hparams hfee
  rw [hpriced] at hwritten
  exact ⟨r, ⟨hrecord, hversion, hlive⟩, hactivated, rfl, hwritten⟩

end World

namespace SystemContract

variable {c : Call} {f g : Frame} {args : Octets} {α : Type}

/-! ### Steps of methods -/

theorem gives_payOut {dest : Address} {value : Word} {u : Unit}
    (h : Gives (payOut c dest value) f u g) :
    View.Pays c.target dest value f.world.ledger.view g.world.ledger.view := by
  obtain ⟨r, t, htransfer, h⟩ := gives_bind.mp h
  cases r with
  | some e => exact absurd h not_gives_throw
  | none =>
    obtain ⟨-, rfl⟩ := gives_pure.mp h
    exact Ledger.gives_transfer (gives_onLedger htransfer)

theorem gives_emit {e : Log} {u : Unit} (h : Gives (emit e) f u g) :
    g.world.ledger.view = f.world.ledger.view.log e := by
  obtain ⟨u, t, hpay, h⟩ := gives_bind.mp h
  have hview : t.world.ledger.view = f.world.ledger.view := view_of_reading (reading_pay _) hpay
  rw [← gives_modify.mp h, ← hview]
  rfl

/-- A fee is taken out of the value, and the rest of the value is handed back. -/
theorem gives_settleFee {fee : Word} {u : Unit} (h : Gives (settleFee c fee) f u g) :
    fee ≤ c.value ∧ ∃ v, View.Pays c.target f.world.ledger.view.feeAccount fee
        f.world.ledger.view v ∧
      View.Pays c.target c.caller (c.value - fee) v g.world.ledger.view := by
  unfold settleFee at h
  obtain ⟨hfee, h⟩ := gives_guard.mp h
  obtain ⟨receiver, t, hreceiver, h⟩ := gives_bind.mp h
  obtain ⟨u₁, t₁, hpaid, h⟩ := gives_bind.mp h
  obtain ⟨l, d, hfound, hd, -⟩ := gives_onState hreceiver
  have hview : t.world.ledger.view = f.world.ledger.view :=
    view_of_reading (reading_onState State.keeps_feeAccount) hreceiver
  have haccount : receiver = f.world.ledger.view.feeAccount := hfound ▸ State.gives_feeAccount hd
  have hpays := gives_payOut hpaid
  rw [hview, haccount] at hpays
  exact ⟨BitVec.not_lt.mp hfee, _, hpays, gives_payOut h⟩

/-! ### Methods -/

structure Asks (c : Call) (a : Address) (signature : String) : Prop where
  codeAt : c.codeAt = a
  target : c.target = a
  thawed : c.frozen = false
  selector : c.input.take 4 = Abi.selectorOf signature

def argument? (c : Call) : Option Word := Abi.firstWord? (c.input.drop 4)

def paying : List String := ["activateProgram(address)", "codehashKeepalive(bytes32)"]

/-- A call that asks for nothing that is paid for. -/
def Idle (c : Call) : Prop :=
  c.codeAt = programsAddress → ∀ s ∈ paying, c.input.take 4 ≠ Abi.selectorOf s

/-- What a method that answers has done: nothing that lasts, or what it is there for. -/
inductive Effect (c : Call) (w : World) : View → Prop
  | nothing : Idle c → Effect c w w.ledger.view
  | handedBack {arg : Word} {r : Record} {u : View} :
      Asks c programsAddress "activateProgram(address)" → argument? c = some arg →
      w.ledger.view.Current w.now (w.ledger.view.codeHash (Address.ofWord arg)) r →
      View.Pays c.target c.caller c.value w.ledger.view u → Effect c w u
  | activated {arg codeHash : Word} {wasm : Octets} {a : Activation} {entered u v : View} :
      Asks c programsAddress "activateProgram(address)" →
      argument? c = some arg →
      codeHash = keccak (w.ledger.account (Address.ofWord arg)).code →
      Package.module? w.ledger.view.params.maxWasmSize.toNat
        (w.ledger.account (Address.ofWord arg)).code = .ok (some wasm) →
      (∀ r, ¬ w.ledger.view.Current w.now codeHash r) →
      w.Activates codeHash wasm a entered → a.fee ≤ c.value →
      View.Pays c.target entered.feeAccount a.fee entered u →
      View.Pays c.target c.caller (c.value - a.fee) u v → w.Loads wasm a.artifact →
      Effect c w (v.log (Programs.activated c (Address.ofWord arg) codeHash a))
  | keptAlive {codeHash fee : Word} {r : Record} {renewed u v : View} :
      Asks c programsAddress "codehashKeepalive(bytes32)" →
      argument? c = some codeHash →
      w.ledger.view.Current w.now codeHash r → r.version ≠ 0 →
      fee = BitVec.ofNat 256 (w.ledger.view.priced (UInt32.ofNat r.asmSize) w.now).2 →
      renewed = (w.ledger.view.setPricer
        (w.ledger.view.priced (UInt32.ofNat r.asmSize) w.now).1).setRecord codeHash
          (r.keptAlive w.ledger.view.params w.now fee) →
      fee ≤ c.value →
      View.Pays c.target renewed.feeAccount fee renewed u →
      View.Pays c.target c.caller (c.value - fee) u v →
      Effect c w (v.log (Programs.lifetimeExtended c codeHash fee))
  | pinned {arg codeHash : Word} {wasm : Octets} {r : Record} :
      Asks c pinningAddress "cacheProgram(address)" → argument? c = some arg →
      codeHash = keccak (w.ledger.account (Address.ofWord arg)).code →
      Package.module? w.ledger.view.params.maxWasmSize.toNat
        (w.ledger.account (Address.ofWord arg)).code = .ok (some wasm) →
      w.ledger.view.Manages c.caller → w.ledger.view.Current w.now codeHash r → r.version ≠ 0 →
      r.pinned = false →
      Effect c w ((w.ledger.view.log (Pinning.cacheUpdated c codeHash true)).setRecord codeHash
        { r with pinned := true })
  | unpinned {codeHash : Word} {r : Record} :
      Asks c pinningAddress "evictCodehash(bytes32)" → argument? c = some codeHash →
      w.ledger.view.Manages c.caller → w.ledger.view.record? codeHash = some r → r.pinned = true →
      Effect c w ((w.ledger.view.log (Pinning.cacheUpdated c codeHash false)).setRecord codeHash
        { r with pinned := false })

theorem idle_of_pinning (h : c.codeAt = pinningAddress) : Idle c := fun hat => by
  rw [h] at hat
  exact absurd hat (by decide)

namespace Programs

/-- A program is entered as it is activated, then the fee is settled and the activation told. -/
theorem gives_enterProgram {x : Inspected} {out : Octets} (h : Gives (enterProgram c x) f out g) :
    ∃ wasm a w₁ w₂, f.world.Reading w₁ ∧
      Package.module? x.params.maxWasmSize.toNat (f.world.ledger.account x.program).code =
        .ok (some wasm) ∧
      Gives (World.activate x.codeHash wasm ((x.existing.map Record.pinned).getD false)) w₁ a w₂ ∧
      w₂.ledger.Reaches .any g.world.ledger ∧ a.fee ≤ c.value ∧
      ∃ u v, View.Pays c.target w₂.ledger.view.feeAccount a.fee w₂.ledger.view u ∧
        View.Pays c.target c.caller (c.value - a.fee) u v ∧
        g.world.ledger.view = v.log (activated c x.program x.codeHash a) := by
  obtain ⟨wasm, f₁, hmodule, h⟩ := gives_bind.mp h
  obtain ⟨a, f₂, hactivate, h⟩ := gives_bind.mp h
  obtain ⟨u, f₃, hsettle, h⟩ := gives_bind.mp h
  obtain ⟨u', f₄, hemit, h⟩ := gives_bind.mp h
  obtain ⟨-, rfl⟩ := gives_pure.mp h
  have hsettled : (Rules.any).Follows f₂.world f₃.world := (keeps_settleFee a.fee).of_gives hsettle
  have hemitted : (Rules.any).Follows f₃.world f₄.world := (keeps_emit _).of_gives hemit
  obtain ⟨hfee, v, hcharged, hreturned⟩ := gives_settleFee hsettle
  exact ⟨wasm, a, f₁.world, f₂.world, (reading_moduleAt _ _).of_gives hmodule, gives_moduleAt hmodule,
    gives_onWorld hactivate, (hsettled.trans hemitted).ledger (Rules.sound_any _), hfee, v, _, hcharged,
    hreturned, gives_emit hemit⟩

end Programs

namespace Pinning

variable {codeHash : Word} {r : Record} {out : Octets}

theorem gives_announce {pinned : Bool} {u : Unit} (h : Gives (announce c codeHash r pinned) f u g) :
    g.world.ledger.view = f.world.ledger.view.log (cacheUpdated c codeHash pinned) := by
  obtain ⟨u₁, f₁, hemit, hpay⟩ := gives_bind.mp h
  rw [view_of_reading (reading_pay _) hpay, gives_emit hemit]

theorem gives_pin {x : Inspected} (h : Gives (pin c x) f out g) : ∃ wasm,
    Package.module? x.params.maxWasmSize.toNat (f.world.ledger.account x.program).code =
        .ok (some wasm) ∧
      g.world.ledger.view = (f.world.ledger.view.log (cacheUpdated c x.codeHash true)).setRecord
        x.codeHash { x.record with pinned := true } := by
  obtain ⟨u, f₁, hannounce, h⟩ := gives_bind.mp h
  obtain ⟨wasm, f₂, hmodule, h⟩ := gives_bind.mp h
  obtain ⟨y, f₃, hload, h⟩ := gives_bind.mp h
  obtain ⟨u', f₄, hset, h⟩ := gives_bind.mp h
  obtain ⟨-, rfl⟩ := gives_pure.mp h
  obtain ⟨l, d, hfound, hd, hset⟩ := gives_onState hset
  have hview₁ := gives_announce hannounce
  have hview₂ : f₂.world.ledger.view = f₁.world.ledger.view :=
    view_of_reading (reading_moduleAt _ _) hmodule
  have hview₃ : f₃.world.ledger.view = f₂.world.ledger.view :=
    congrArg Ledger.view (ledger_load hload)
  have hcode := gives_moduleAt hmodule
  have haccount : f₁.world.ledger.account = f.world.ledger.account := congrArg View.account hview₁
  rw [haccount] at hcode
  refine ⟨wasm, hcode, ?_⟩
  rw [hset, State.gives_setRecord hd, hfound, hview₃, hview₂, hview₁]

theorem gives_unpin (h : Gives (unpin c codeHash r) f out g) : g.world.ledger.view =
    (f.world.ledger.view.log (cacheUpdated c codeHash false)).setRecord codeHash
      { r with pinned := false } := by
  obtain ⟨u, f₁, hannounce, h⟩ := gives_bind.mp h
  obtain ⟨module, f₂, hmodule, h⟩ := gives_bind.mp h
  obtain ⟨u', f₃, hset, h⟩ := gives_bind.mp h
  obtain ⟨u'', f₄, hevict, h⟩ := gives_bind.mp h
  obtain ⟨-, rfl⟩ := gives_pure.mp h
  obtain ⟨l, d, hfound, hd, hset⟩ := gives_onState hset
  have hview₂ : f₂.world.ledger.view = f₁.world.ledger.view :=
    view_of_reading (reading_onState State.keeps_moduleHash) hmodule
  rw [← gives_modify.mp hevict]
  change f₃.world.ledger.view = _
  rw [hset, State.gives_setRecord hd, hfound, hview₂, gives_announce hannounce]

end Pinning

section
variable {out : Octets}

theorem effect_activateProgram (hasks : Asks c programsAddress "activateProgram(address)")
    (h : Gives (Programs.activateProgram c (c.input.drop 4)) f out g) :
    Effect c f.world g.world.ledger.view := by
  rw [Programs.activateProgram_eq] at h
  obtain ⟨x, f₁, hx, h⟩ := gives_bind.mp h
  have hr₁ : f.world.Reading f₁.world := Programs.reading_inspect.of_gives hx
  obtain ⟨⟨arg, hword, hprogram⟩, hparams, hhash, hexisting, hcurrent⟩ := Programs.gives_inspect hx
  rw [hprogram] at hhash
  cases hfound : x.current with
  | some r =>
    rw [hfound] at h
    obtain ⟨u, f₂, hpaid, h⟩ := gives_bind.mp h
    obtain ⟨-, rfl⟩ := gives_pure.mp h
    have hpays := gives_payOut hpaid
    rw [hr₁.view] at hpays
    exact .handedBack hasks hword (hhash ▸ (hcurrent r).mp hfound) hpays
  | none =>
    rw [hfound] at h
    obtain ⟨wasm, a, w₁, w₂, hreads, hmodule, hactivated, -, hfee, u, v, hcharged, hreturned, hview⟩ :=
      Programs.gives_enterProgram h
    have hr₂ : f.world.Reading w₁ := hr₁.trans hreads
    rw [hr₁.account, hprogram, hparams] at hmodule
    rw [codeHash_of_module hmodule] at hhash
    rw [hexisting] at hactivated
    have hactivates : f.world.Activates x.codeHash wasm a w₂.ledger.view :=
      ⟨w₁, w₂, hr₂.view, hr₂.block, hr₂.config, hactivated, rfl⟩
    have hloads := World.loads_of_activate hr₂.view hr₂.config (congrArg _ hr₂.cache) hactivated
    rw [hview, hprogram]
    refine .activated hasks hword hhash hmodule (fun r hr => ?_) hactivates hfee hcharged hreturned
      hloads
    rw [(hcurrent r).mpr hr] at hfound
    cases hfound

theorem effect_codehashKeepalive (hasks : Asks c programsAddress "codehashKeepalive(bytes32)")
    (h : Gives (Programs.codehashKeepalive c (c.input.drop 4)) f out g) :
    Effect c f.world g.world.ledger.view := by
  obtain ⟨codeHash, f₁, harg, h⟩ := gives_bind.mp h
  obtain ⟨k, f₂, hkeep, h⟩ := gives_bind.mp h
  obtain ⟨u, f₃, hsettle, h⟩ := gives_bind.mp h
  obtain ⟨u', f₄, hemit, h⟩ := gives_bind.mp h
  obtain ⟨-, rfl⟩ := gives_pure.mp h
  have hr₁ : f.world.Reading f₁.world := (reading_argument _).of_gives harg
  obtain ⟨r, hcurrent, hversion, hk, hview⟩ := World.gives_keepalive (gives_onWorld hkeep)
  obtain ⟨hfee, v, hcharged, hreturned⟩ := gives_settleFee hsettle
  rw [hr₁.view, hr₁.now] at hcurrent hk hview
  rw [hview] at hcharged
  rw [gives_emit hemit, hk]
  rw [hk] at hfee hcharged hreturned
  exact .keptAlive hasks (gives_argument harg) hcurrent hversion rfl rfl hfee hcharged hreturned

theorem effect_cacheProgram (hasks : Asks c pinningAddress "cacheProgram(address)")
    (h : Gives (Pinning.cacheProgram c (c.input.drop 4)) f out g) :
    Effect c f.world g.world.ledger.view := by
  rw [Pinning.cacheProgram_eq] at h
  obtain ⟨x, f₁, hx, h⟩ := gives_bind.mp h
  have hview : f₁.world.ledger.view = f.world.ledger.view :=
    view_of_reading Pinning.reading_inspect hx
  obtain ⟨⟨arg, hword, hprogram⟩, hmanages, hparams, hhash, hcurrent, hversion⟩ :=
    Pinning.gives_inspect hx
  by_cases hpinned : x.record.pinned = true
  · rw [if_pos hpinned] at h
    obtain ⟨-, rfl⟩ := gives_pure.mp h
    rw [hview]
    exact .nothing (idle_of_pinning hasks.codeAt)
  · rw [if_neg hpinned] at h
    obtain ⟨wasm, hmodule, hwritten⟩ := Pinning.gives_pin h
    have haccount : f₁.world.ledger.account = f.world.ledger.account := congrArg View.account hview
    rw [hparams, haccount, hprogram] at hmodule
    rw [hprogram, codeHash_of_module hmodule] at hhash
    rw [hwritten, hview]
    exact .pinned hasks hword hhash hmodule hmanages hcurrent hversion (by simpa using hpinned)

theorem effect_evictCodehash (hasks : Asks c pinningAddress "evictCodehash(bytes32)")
    (h : Gives (Pinning.evictCodehash c (c.input.drop 4)) f out g) :
    Effect c f.world g.world.ledger.view := by
  rw [Pinning.evictCodehash_eq] at h
  obtain ⟨x, f₁, hx, h⟩ := gives_bind.mp h
  have hview : f₁.world.ledger.view = f.world.ledger.view :=
    view_of_reading Pinning.reading_findPinned hx
  obtain ⟨hword, hmanages, hpinned⟩ := Pinning.gives_findPinned hx
  cases hfound : x.2 with
  | none =>
    rw [hfound] at h
    obtain ⟨-, rfl⟩ := gives_pure.mp h
    rw [hview]
    exact .nothing (idle_of_pinning hasks.codeAt)
  | some r =>
    rw [hfound] at h
    rw [Pinning.gives_unpin h, hview]
    exact .unpinned hasks hword hmanages ((hpinned r).mp hfound).1 ((hpinned r).mp hfound).2

end

end SystemContract
end Inkwell
