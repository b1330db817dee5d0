import Inkwell.Proofs.Activity
import Inkwell.Proofs.Summary
set_option autoImplicit false

/-! What it takes for activations and calls to return: a store that answers, money that fits, a module
that compiles, gas, and funds for the fee. -/

namespace Inkwell

namespace Ledger

/-- The store answers whatever it is asked, and all the money there is fits a word. -/
structure Healthy (l : Ledger) : Prop where
  serves : l.store.outage = {}
  bounded : l.Bounded

namespace Healthy

variable {W : Writes} {l m : Ledger} {source : Address} {v : Word}

theorem reaches (h : l.Healthy) (hr : l.Reaches W m) : m.Healthy :=
  ⟨by rw [hr.store]; exact h.serves, hr.bounded h.bounded⟩

theorem of_reads (h : l.Healthy) (hreads : l.Reads m) : m.Healthy :=
  h.reaches (W := .any) hreads.reaches

theorem account (h : l.Healthy) (a : Address) : (l.account? a).isSome := by
  rw [account?_isSome, h.serves]
  exact .inr List.not_mem_nil

theorem known (h : l.Healthy) (slot : Word) : l.Known slot :=
  ⟨h.account _, slot?_isSome.mpr (.inr (by rw [h.serves]))⟩

theorem loadable (h : l.Healthy) (a : Address) : l.Loadable a := ⟨h.account a, by rw [h.serves]⟩

theorem knowsParams (h : l.Healthy) : l.KnowsParams := ⟨h.known _, h.known _⟩

theorem ready (h : l.Healthy) (cost : Nat) : Desk.Ready (fun _ => True) cost { ledger := l } :=
  ⟨rfl, fun _ hleft => (nomatch hleft), fun slot _ => h.known slot⟩

theorem transfer (h : l.Healthy) (hfunds : v ≤ (l.account source).balance) (dest : Address) :
    ∃ m, Gives (Ledger.transfer source dest v) l none m := by
  obtain ⟨x, t, hsource⟩ := hold_of_account (h.account source)
  have hreads := keeps_hold.of_gives hsource
  obtain ⟨y, u, hdest⟩ := hold_of_account ((h.of_reads hreads).account dest)
  have hreads' := hreads.trans (keeps_hold.of_gives hdest)
  have hs : u.Holds source := (keeps_hold.of_gives hdest).holds (gives_hold hsource).2
  have hroom : source ≠ dest → (u.account dest).balance.toNat + v.toNat < 2 ^ 256 := by
    intro hne
    have hall := Accounts.add_le_supply l.account hne
    have hle : v.toNat ≤ (l.account source).balance.toNat := hfunds
    have hbounded : Accounts.supply l.account < 2 ^ 256 := h.bounded
    rw [hreads'.account]
    omega
  have hmoved := move_funded hs (hreads'.account ▸ hfunds) hroom
  exact ⟨_, hsource.bind (hdest.bind (gives_modifyGet.mpr (Prod.ext hmoved rfl)))⟩

theorem bumpNonce (h : l.Healthy) (a : Address) :
    ∃ m, Gives (Ledger.bumpNonce a) l ⟨⟩ m ∧ m.Healthy := by
  obtain ⟨code, t, hcode⟩ := holdCode_of_loadable (h.loadable a)
  obtain ⟨x, u, hx⟩ := hold_of_account ((h.of_reads (keeps_holdCode.of_gives hcode)).account a)
  obtain ⟨m, hcount⟩ : ∃ m, Gives (if x.nonce.toNat + 1 < 2 ^ 64 then modify fun l =>
      (l.adjust a fun h => { h with nonce := h.nonce + 1 }).list (.nonce a) else pure () : LedgerM Unit)
      (u.touch a) ⟨⟩ m := by
    split
    · exact ⟨_, gives_modify.mpr rfl⟩
    · exact ⟨_, gives_pure.mpr ⟨rfl, rfl⟩⟩
  have hm : Gives (Ledger.bumpNonce a) l ⟨⟩ m :=
    hcode.bind (hx.bind ((gives_modify (a := ⟨⟩).mpr rfl).bind hcount))
  have hreaches : l.Reaches .any m := keeps_bumpNonce.of_gives hm
  exact ⟨m, hm, h.reaches hreaches⟩

theorem setCode (h : l.Healthy) {a : Address} (hnone : (l.account a).code = []) (code : Octets) :
    ∃ m, Gives (Ledger.setCode a code) l ⟨⟩ m ∧ m.Healthy := by
  obtain ⟨x, t, hx⟩ := hold_of_account (h.account a)
  have hset : Gives (Ledger.setCode a code) l ⟨⟩ _ :=
    hx.bind ((gives_modify (a := ⟨⟩).mpr rfl).bind (gives_modify.mpr rfl))
  have hreaches : l.Reaches .any _ := (keepsFrom_setCode hnone trivial).of_gives hset
  exact ⟨_, hset, h.reaches hreaches⟩

end Healthy
end Ledger

namespace State

open Access Layout

variable {l : Ledger} {d : Desk} {h : Word} {rest : Nat}

theorem answers_existing (hl : l.Healthy) (h : Word) :
    ∃ n, n ≤ recordGas ∧ Answers (record? h) l n (l.view.record? h) := by
  cases hr : l.view.record? h with
  | none => exact ⟨Gas.read, by decide, answers_noRecord (hl.known _) hr⟩
  | some r => exact ⟨recordGas, Nat.le_refl _, answers_record? ⟨hl.known _, hl.known _, hl.known _⟩ hr⟩

section
variable {S : Word → Prop} (hS : ∀ k ∈ pricerKeys, S k.slot)
include hS

theorem ready_pricer (hd : d.Ready S (5 * Gas.read + rest)) :
    ∃ p e, Gives pricer d p e ∧ e.Ready S rest := by
  simp only [pricerKeys, List.forall_mem_cons] at hS
  obtain ⟨h₁, h₂, h₃, h₄, h₅, -⟩ := hS
  have hd : d.Ready S (Gas.read + (Gas.read + (Gas.read + (Gas.read + (Gas.read + rest))))) :=
    hd.mono (by omega)
  obtain ⟨d₁, hg₁, hd₁⟩ := ready_loadNat 32 hd h₁
  obtain ⟨d₂, hg₂, hd₂⟩ := ready_loadNat 32 hd₁ h₂
  obtain ⟨d₃, hg₃, hd₃⟩ := ready_loadNat 64 hd₂ h₃
  obtain ⟨d₄, hg₄, hd₄⟩ := ready_loadNat 32 hd₃ h₄
  obtain ⟨d₅, hg₅, hd₅⟩ := ready_loadNat 32 hd₄ h₅
  exact ⟨_, d₅, hg₁.bind (hg₂.bind (hg₃.bind (hg₄.bind (hg₅.bind (gives_pure.mpr ⟨rfl, rfl⟩))))), hd₅⟩

theorem ready_priceData {bytes : UInt32} {now : Nat}
    (hd : d.Ready S (5 * Gas.read + (5 * Gas.write + rest))) :
    ∃ n e, Gives (priceData bytes now) d n e ∧ e.Ready S rest := by
  obtain ⟨p, d₁, h₁, hd₁⟩ := ready_pricer hS hd
  obtain ⟨e, h₂, he⟩ := ready_setPricer hS hd₁
  exact ⟨_, e, h₁.bind (h₂.bind (gives_pure.mpr ⟨rfl, rfl⟩)), he⟩

end

end State

namespace World

open Access

variable {w : World} {codeHash : Word} {wasm : Octets} {pinned : Bool} {payer : Address} {fee : Word}
  {α ε : Type}

/-- What entering a program would cost if it were paid for. -/
def enterGas : Nat := Gas.write + (5 * Gas.read + (5 * Gas.write + (Gas.write + (Gas.write +
  (Gas.write + 0)))))

theorem ready_enter {d : Desk} (hd : d.Ready (fun _ => True) enterGas) (codeHash : Word)
    (a : Artifact) (p : Params) (b : Block) (pinned : Bool) :
    ∃ x e, Gives (enter codeHash a p b pinned) d x e := by
  obtain ⟨d₁, h₁, hd₁⟩ := ready_write hd trivial
  obtain ⟨n, d₂, h₂, hd₂⟩ := State.ready_priceData (fun _ _ => trivial) hd₁
  obtain ⟨d₃, h₃, hd₃⟩ := ready_write hd₂ trivial
  obtain ⟨d₄, h₄, hd₄⟩ := ready_write hd₃ trivial
  obtain ⟨d₅, h₅, -⟩ := ready_write hd₄ trivial
  exact ⟨_, d₅, h₁.bind (h₂.bind ((h₃.bind (h₄.bind h₅)).bind (gives_pure.mpr ⟨rfl, rfl⟩)))⟩

theorem atomically_of_gives {m : ExceptT ε (StateM World) α} {a : α} {w' : World}
    (h : Gives m w a w') : Gives (atomically m) w a w' := by
  refine (gives_get.mpr ⟨rfl, rfl⟩).bind ?_
  unfold Gives at h ⊢
  rw [outcome_tryCatch, h]

theorem load_of_ok {s : CompileSettings} {keep : Bool} {y : Loaded}
    (h : (w.cache.load compile wasm s keep).1 = .ok y) :
    Gives (load wasm s keep) w y { w with cache := (w.cache.load compile wasm s keep).2 } := by
  unfold Gives
  rw [outcome_load, h]
  rfl

theorem activate_of_load (hw : w.ledger.Healthy) {l : Loaded}
    (hload : (w.cache.load compile wasm (w.settings w.ledger.view.params) w.config.autoCache).1 =
      .ok l) (codeHash : Word) (pinned : Bool) :
    ∃ a w', Gives (activate codeHash wasm pinned) w a w' ∧ w'.ledger.Healthy := by
  obtain ⟨m, hreads, hparams⟩ :=
    gives_of_answers (State.answers_params hw.knowsParams) State.keeps_params false
  have hloaded := load_of_ok (w := { w with ledger := m }) hload
  obtain ⟨a, e, henter⟩ := ready_enter ((hw.of_reads hreads).ready enterGas) codeHash l.artifact
    w.ledger.view.params w.block pinned
  have hentered := onState_of_gives (w := { w with
    ledger := m
    cache := (w.cache.load compile wasm (w.settings w.ledger.view.params) w.config.autoCache).2 })
    henter
  have hreaches : m.Reaches .any e.ledger := (known_of_enter henter).1
  have hactivated : Gives (activate codeHash wasm pinned) w a { w with
      ledger := e.ledger
      cache := (w.cache.load compile wasm (w.settings w.ledger.view.params)
        w.config.autoCache).2 } := by
    rw [activate_eq]
    exact hparams.bind ((gives_get.mpr ⟨rfl, rfl⟩).bind (hloaded.bind hentered))
  exact ⟨a, _, hactivated, (hw.of_reads hreads).reaches hreaches⟩

theorem chargeFee_of_funds (hw : w.ledger.Healthy) (hfunds : fee ≤ (w.ledger.account payer).balance) :
    ∃ w', Gives (chargeFee payer fee) w ⟨⟩ w' := by
  by_cases hzero : fee = 0
  · refine ⟨w, ?_⟩
    unfold chargeFee
    rw [if_pos hzero]
    exact gives_pure.mpr ⟨rfl, rfl⟩
  obtain ⟨x, l₁, h₁⟩ := Ledger.hold_of_account (hw.account payer)
  have hreads₁ := Ledger.keeps_hold.of_gives h₁
  have hheld : x.balance = (w.ledger.account payer).balance :=
    congrArg Account.balance (Ledger.gives_hold h₁).1
  obtain ⟨l₂, hreads₂, h₂⟩ := gives_of_answers (w := { w with ledger := l₁ })
    (State.answers_feeAccount ((hw.of_reads hreads₁).known _)) State.keeps_feeAccount false
  have hreads := hreads₁.trans hreads₂
  have hfunds₂ : fee ≤ (l₂.account payer).balance := hreads.account ▸ hfunds
  obtain ⟨l₃, h₃⟩ := (hw.of_reads hreads).transfer hfunds₂ l₁.view.feeAccount
  refine ⟨{ w with ledger := l₃ }, ?_⟩
  unfold chargeFee
  rw [if_neg hzero]
  refine (onLedger_of_gives h₁).bind (gives_guard.mpr ⟨?_, h₂.bind ?_⟩)
  · rw [hheld]
    exact BitVec.not_lt.mpr hfunds
  · exact (onLedger_of_gives (w := { w with ledger := l₂ }) h₃).bind (gives_pure.mpr ⟨rfl, rfl⟩)

theorem activateAndCharge_of_load (hw : w.ledger.Healthy) {l : Loaded}
    (hload : (w.cache.load compile wasm (w.settings w.ledger.view.params) w.config.autoCache).1 =
      .ok l)
    (hfee : (w.ledger.view.activation codeHash w.ledger.view.params w.block pinned l.artifact).fee ≤
      (w.ledger.account payer).balance) :
    ∃ a w', Gives (activateAndCharge codeHash wasm pinned payer) w a w' := by
  obtain ⟨a, w₁, hactivate, hw₁⟩ := activate_of_load hw hload codeHash pinned
  obtain ⟨l', hload', ha, -, hview⟩ := gives_activate hactivate
  obtain rfl : l = l' := Except.ok.inj (hload.symm.trans hload')
  have haccount : w₁.ledger.account = w.ledger.account := congrArg View.account hview
  have hfunds : a.fee ≤ (w₁.ledger.account payer).balance := by
    rw [haccount, ha]
    exact hfee
  obtain ⟨w', hcharge⟩ := chargeFee_of_funds hw₁ hfunds
  exact ⟨a, w', atomically_of_gives (hactivate.bind (hcharge.bind (gives_pure.mpr ⟨rfl, rfl⟩)))⟩

/-- A program that is not active and can be activated as things stand: its module can be loaded, and
so much would be due. -/
structure Awaits (w : World) (a : Address) (wasm : Octets) (l : Loaded) (fee : Word) : Prop where
  healthy : w.ledger.Healthy
  module : Package.module? w.ledger.view.params.maxWasmSize.toNat (w.ledger.account a).code =
    .ok (some wasm)
  inactive : ∀ r, ¬ w.ledger.view.Current w.now (keccak (w.ledger.account a).code) r
  loads : (w.cache.load compile wasm (w.settings w.ledger.view.params) w.config.autoCache).1 = .ok l
  due : fee = (w.ledger.view.activation (keccak (w.ledger.account a).code) w.ledger.view.params w.block
    (w.ledger.view.pinned (keccak (w.ledger.account a).code)) l.artifact).fee

theorem Awaits.of_same {a : Address} {l : Loaded} {w' : World} (h : w.Awaits a wasm l fee)
    (hw : w'.ledger.Healthy) (hslot : w'.ledger.view.slot = w.ledger.view.slot)
    (hcode : (w'.ledger.account a).code = (w.ledger.account a).code)
    (hkept : w'.cache.artifacts = w.cache.artifacts) (hblock : w'.block = w.block)
    (hconfig : w'.config = w.config) : w'.Awaits a wasm l fee where
  healthy := hw
  module := by
    rw [View.params_of_slot hslot, hcode]
    exact h.module
  inactive r hr := by
    have hcurrent := hr.of_slot hslot.symm
    rw [hcode, now, hblock] at hcurrent
    exact h.inactive r hcurrent
  loads := by
    unfold settings
    rw [View.params_of_slot hslot, Cache.load_of_artifacts hkept, hconfig]
    exact h.loads
  due := by
    rw [View.params_of_slot hslot, View.pinned_of_slot hslot, View.activation_of_slot hslot, hcode,
      hblock]
    exact h.due

theorem Awaits.of_reading {a : Address} {l : Loaded} {w' : World} (h : w.Awaits a wasm l fee)
    (hr : w.Reading w') : w'.Awaits a wasm l fee :=
  h.of_same (h.healthy.of_reads hr.ledger) hr.slot
    (congrArg (fun v : View => (v.account a).code) hr.view) (congrArg Cache.artifacts hr.cache)
    hr.block hr.config

end World
end Inkwell

namespace Inkwell.SystemContract

variable {c : Call} {f : Frame} {α : Type} {fee value : Word} {program : Address} {wasm : Octets}

theorem onLedger_of_gives {m : LedgerM α} {a : α} {l : Ledger} (h : Gives m f.world.ledger a l) :
    Gives (onLedger m) f a { f with world := { f.world with ledger := l } } := by
  unfold Gives at h ⊢
  rw [outcome_onLedger, h]
  rfl

theorem moduleAt_of_loadable {p : Params} (hload : f.world.ledger.Loadable program)
    (hmodule : Package.module? p.maxWasmSize.toNat (f.world.ledger.account program).code =
      .ok (some wasm)) : ∃ g, Gives (moduleAt program p) f wasm g ∧ g.gas = f.gas := by
  obtain ⟨code, l, hl⟩ := Ledger.holdCode_of_loadable hload
  have hcode : code = (f.world.ledger.account program).code := Ledger.gives_holdCode hl
  have hfound : Gives (moduleAt program p) f wasm { f with world := { f.world with ledger := l } } := by
    refine (onLedger_of_gives hl).bind ?_
    rw [hcode, hmodule]
    exact gives_pure.mpr ⟨rfl, rfl⟩
  exact ⟨_, hfound, rfl⟩

theorem payOut_of_funds (hf : f.world.ledger.Healthy)
    (hfunds : value ≤ (f.world.ledger.account c.target).balance) (dest : Address) :
    ∃ g, Gives (payOut c dest value) f ⟨⟩ g ∧ g.gas = f.gas ∧ g.world.ledger.Healthy := by
  obtain ⟨l, hl⟩ := hf.transfer hfunds dest
  have hreaches : f.world.ledger.Reaches .any l := Ledger.keeps_transfer.of_gives hl
  have hpaid : Gives (payOut c dest value) f ⟨⟩ { f with world := { f.world with ledger := l } } :=
    (onLedger_of_gives hl).bind (gives_pure.mpr ⟨rfl, rfl⟩)
  exact ⟨_, hpaid, rfl, hf.reaches hreaches⟩

theorem gives_emit_of_le {e : Log} (hgas : Gas.log e ≤ f.gas) : Gives (emit e) f ⟨⟩
    { world := { f.world with ledger := f.world.ledger.addLog e }, gas := f.gas - Gas.log e } :=
  (gives_pay_of_le hgas).bind (gives_modify.mpr rfl)

theorem settleFee_of_funds (hf : f.world.ledger.Healthy) (hfee : fee ≤ c.value)
    (hfunds : c.value ≤ (f.world.ledger.account c.target).balance) (hgas : Gas.read ≤ f.gas) :
    ∃ g, Gives (settleFee c fee) f ⟨⟩ g ∧ g.gas = f.gas - Gas.read := by
  obtain ⟨f₁, h₁, hleft⟩ := Programs.onState_of_answers (c := c) (hf.account stateAccount)
    (State.answers_feeAccount (hf.known _)) hgas
  have hreads : f.world.Reading f₁.world := (reading_onState State.keeps_feeAccount).of_gives h₁
  have hf₁ := hf.of_reads hreads.ledger
  have hcharged : fee ≤ (f₁.world.ledger.account c.target).balance := by
    rw [hreads.account]
    exact BitVec.le_trans hfee hfunds
  obtain ⟨f₂, h₂, hleft₂, hf₂⟩ := payOut_of_funds (c := c) hf₁ hcharged f.world.ledger.view.feeAccount
  have hrest : c.value - fee ≤ (f₂.world.ledger.account c.target).balance := by
    have hpaid : f₂.world.ledger.account = Accounts.move c.target f.world.ledger.view.feeAccount fee
        f.world.ledger.account := by
      rw [← hreads.account]
      exact congrArg View.account (gives_payOut h₂).paid
    have hless : (c.value - fee).toNat = c.value.toNat - fee.toNat := BitVec.toNat_sub_of_le hfee
    have hvalue : c.value.toNat ≤ (f.world.ledger.account c.target).balance.toNat := hfunds
    change (c.value - fee).toNat ≤ _
    rw [hpaid]
    -- the fee account may be the contract itself, which then keeps the fee
    by_cases hreceiver : c.target = f.world.ledger.view.feeAccount
    · rw [← hreceiver, Accounts.move_self]
      omega
    · rw [Accounts.move_apply hreceiver, if_neg hreceiver, if_pos rfl]
      dsimp only
      rw [BitVec.toNat_sub_of_le (BitVec.le_trans hfee hfunds)]
      omega
  obtain ⟨f₃, h₃, hleft₃, -⟩ := payOut_of_funds (c := c) hf₂ hrest c.caller
  refine ⟨f₃, ?_, by rw [hleft₃, hleft₂, hleft]⟩
  unfold settleFee
  exact gives_guard.mpr ⟨BitVec.not_lt.mpr hfee, h₁.bind (h₂.bind h₃)⟩

namespace Programs

variable {out : Octets} {x : Inspected} {arg : Word} {l : Loaded}

def eventGas : Nat := 375 + 375 * 2 + 8 * 128

theorem log_activated (h : Word) (a : Activation) : Gas.log (activated c program h a) = eventGas := by
  have hdata : (activated c program h a).data.length = 128 := by
    simp [activated, Abi.words, Word.length_octets]
  rw [Gas.log, hdata]
  rfl

theorem length_activation (version : UInt16) (fee : Word) : (activation version fee).length = 64 := by
  simp [activation, Abi.words, Word.length_octets]

theorem enterProgram_of_funds (hf : f.world.ledger.Healthy)
    (hmodule : Package.module? x.params.maxWasmSize.toNat (f.world.ledger.account x.program).code =
      .ok (some wasm))
    (hload : (f.world.cache.load compile wasm (f.world.settings f.world.ledger.view.params)
      f.world.config.autoCache).1 = .ok l)
    (hfee : (f.world.ledger.view.activation x.codeHash f.world.ledger.view.params f.world.block
      ((x.existing.map Record.pinned).getD false) l.artifact).fee ≤ c.value)
    (hfunds : c.value ≤ (f.world.ledger.account c.target).balance)
    (hgas : Gas.read + eventGas ≤ f.gas) :
    ∃ out g, Gives (enterProgram c x) f out g ∧ out.length = 64 ∧
      g.gas = f.gas - (Gas.read + eventGas) := by
  obtain ⟨f₁, h₁, hleft₁⟩ := moduleAt_of_loadable (hf.loadable x.program) hmodule
  have hreads : f.world.Reading f₁.world := (reading_moduleAt x.program x.params).of_gives h₁
  have hsettings : f₁.world.settings = f.world.settings := by
    unfold World.settings
    rw [hreads.config]
  rw [← hreads.view, ← hreads.block] at hfee
  rw [← hreads.view, ← hreads.cache, ← hreads.config, ← hsettings] at hload
  obtain ⟨a, w, hactivate, hw⟩ := World.activate_of_load (hf.of_reads hreads.ledger) hload x.codeHash
    ((x.existing.map Record.pinned).getD false)
  obtain ⟨l', hload', ha, -, hview⟩ := World.gives_activate hactivate
  obtain rfl : l = l' := Except.ok.inj (hload.symm.trans hload')
  have hkept : w.ledger.account = f.world.ledger.account :=
    (congrArg View.account hview).trans hreads.account
  have hcovered : a.fee ≤ c.value := ha ▸ hfee
  obtain ⟨f₃, h₃, hleft₃⟩ := settleFee_of_funds (f := { f₁ with world := w }) hw hcovered
    (hkept ▸ hfunds) (by dsimp only; omega)
  have hgas₃ : f₃.gas = f.gas - Gas.read := hleft₃.trans (congrArg (· - Gas.read) hleft₁)
  have henough : Gas.log (activated c x.program x.codeHash a) ≤ f₃.gas := by
    rw [log_activated]
    omega
  have hentered : Gives (enterProgram c x) f (activation a.version a.fee) _ :=
    h₁.bind ((onWorld_of_gives hactivate).bind (h₃.bind ((gives_emit_of_le henough).bind
      (gives_pure.mpr ⟨rfl, rfl⟩))))
  refine ⟨activation a.version a.fee, _, hentered, length_activation _ _, ?_⟩
  · dsimp only
    rw [log_activated, hgas₃]
    omega

theorem codeHash_of_loadable {a : Address} {d : Desk} {gas : Nat} (hload : d.ledger.Loadable a)
    (hgas : d.gas = some gas) (henough : Gas.readCodeHash ≤ gas) : ∃ l,
      Gives (Access.codeHash a) d (d.ledger.view.codeHash a)
          { d with ledger := l, gas := some (gas - Gas.readCodeHash) } ∧ d.ledger.Reads l := by
  obtain ⟨h, l, hl⟩ := Ledger.codeHash_of_loadable hload
  have hhash : h = d.ledger.view.codeHash a := Ledger.gives_codeHash hl
  have hpaid : Gives (Access.pay Gas.readCodeHash) d ⟨⟩
      { d with gas := some (gas - Gas.readCodeHash) } := by
    unfold Gives
    rw [Access.outcome_pay, hgas]
    dsimp only
    rw [if_neg (Nat.not_lt.mpr henough)]
  rw [← hhash]
  exact ⟨l, hpaid.bind (Access.onLedger_gives (d := { d with gas := some (gas - Gas.readCodeHash) })
    hl), Ledger.keeps_codeHash.of_gives hl⟩

def activationCost : Nat := Gas.readParams + activationGas + State.recordGas + (Gas.read + eventGas)

/-- An activation that is asked for goes through. -/
theorem activateProgram_of_awaits {args : Octets} (harg : Abi.firstWord? args = some arg)
    (hf : f.world.Awaits (Address.ofWord arg) wasm l fee) (hfee : fee ≤ c.value)
    (hfunds : c.value ≤ (f.world.ledger.account c.target).balance) (hgas : activationCost ≤ f.gas) :
    ∃ out g, Gives (activateProgram c args) f out g ∧ out.length = 64 ∧
      f.gas ≤ g.gas + activationCost := by
  unfold activationCost at hgas
  have hhash := codeHash_of_module (v := f.world.ledger.view) hf.module
  obtain ⟨n, hn, hrecord⟩ := State.answers_existing hf.healthy
    (f.world.ledger.view.codeHash (Address.ofWord arg))
  obtain ⟨x, f₁, h₁, hleft₁⟩ := inspect_of_answers (c := c) harg (hf.healthy.loadable _)
    hf.healthy.knowsParams hrecord (by omega)
  have hreads : f.world.Reading f₁.world := reading_inspect.of_gives h₁
  obtain ⟨⟨arg', harg', hprogram⟩, hparams, hcode, hexisting, hcurrent⟩ := gives_inspect h₁
  obtain rfl := Option.some.inj (harg.symm.trans harg')
  have hnone : x.current = none := by
    cases hx : x.current with
    | none => rfl
    | some r =>
      have hr := (hcurrent r).mp hx
      rw [hcode, hprogram, hhash] at hr
      exact absurd hr (hf.inactive r)
  have hf₁ := hf.of_reading hreads
  rw [hprogram, hhash] at hcode
  have hdue : (f₁.world.ledger.view.activation x.codeHash f₁.world.ledger.view.params f₁.world.block
      ((x.existing.map Record.pinned).getD false) l.artifact).fee ≤ c.value := by
    have hfee₁ := hf₁.due
    have hcode₁ : x.codeHash = keccak (f₁.world.ledger.account (Address.ofWord arg)).code := by
      rw [hcode, hreads.account]
      rfl
    have hpinned : f₁.world.ledger.view.pinned x.codeHash =
        (x.existing.map Record.pinned).getD false := by
      rw [hexisting, hreads.view]
      rfl
    rw [← hcode₁, hpinned] at hfee₁
    rwa [← hfee₁]
  obtain ⟨out, g, h₂, hlength, hleft₂⟩ := enterProgram_of_funds (x := x) hf₁.healthy
    (by rw [hprogram, hparams, ← hreads.view]; exact hf₁.module) hf₁.loads hdue
    (hreads.account ▸ hfunds) (by omega)
  refine ⟨out, g, ?_, hlength, ?_⟩
  · rw [activateProgram_eq]
    refine h₁.bind ?_
    rw [hnone]
    exact h₂
  · unfold activationCost
    omega

end Programs

variable {w : World} {arg : Word} {l : Loaded}

/-- What a call costs before its method runs: the words of its arguments, and a read. -/
def callGas (c : Call) : Nat := Gas.words (c.input.drop 4).length + Gas.read

def activationCallGas (c : Call) : Nat := callGas c + (Programs.activationCost + Gas.words 64)

/-- A call returns what its method answers, if the method may be run and there is gas for the words of
the arguments, for a read, for the method and for the words of the answer. -/
theorem call_of_method {ms : List Method} {m : Method} {out : Octets}
    (hmethods : methodsAt? c.codeAt = some ms) (hown : c.frozen = false → c.target = c.codeAt)
    (hfind : ms.find? (·.selector = c.input.take 4) = some m) (hreads : m.mutability ≠ .pure)
    (hruns : ¬ (c.frozen ∧ (m.mutability = .nonpayable ∨ m.mutability = .payable)))
    (hfree : ¬ (m.mutability ≠ .payable ∧ c.value ≠ 0)) (hgas : callGas c ≤ c.gas)
    (hrun : Gives (m.run c (c.input.drop 4)) ⟨w, c.gas - callGas c⟩ out f)
    (hleft : Gas.words out.length ≤ f.gas) :
    (call c).run w = (some ⟨.returned, out, c.gas, f.gas - Gas.words out.length⟩, f.world) := by
  unfold callGas at hgas hrun
  have hanswer : Gives (m.answer c) ⟨w, c.gas - (Gas.words (c.input.drop 4).length + Gas.read)⟩ out
      f := by
    unfold Method.answer
    exact gives_guard.mpr ⟨hruns, gives_guard.mpr ⟨hfree, hrun⟩⟩
  have hdispatch : Gives (dispatch ms c) ⟨w, c.gas⟩ out f := by
    rw [dispatch_eq, hfind]
    dsimp only
    rw [if_pos hreads]
    rw [← Nat.sub_sub] at hanswer
    have hargs : Gas.words (c.input.drop 4).length ≤ c.gas := by omega
    have hread : Gas.read ≤ c.gas - Gas.words (c.input.drop 4).length := by omega
    exact (gives_pay_of_le (f := ⟨w, c.gas⟩) hargs).bind ((gives_pay_of_le hread).bind hanswer)
  have hlong : ¬ c.input.length < 4 := by
    have hselector : m.selector = c.input.take 4 := by simpa using List.find?_some hfind
    exact Nat.not_lt.mpr (long_of_selector hselector.symm)
  have hforeign : ¬ (!c.frozen ∧ c.target ≠ c.codeAt) := by
    rintro ⟨hthawed, hne⟩
    exact hne (hown (by simpa using hthawed))
  have hinvoke : (invoke ms c).run w =
      (⟨.returned, out, c.gas, f.gas - Gas.words out.length⟩, f.world) := by
    rw [run_invoke, if_neg hlong, hdispatch]
    change ((if f.gas < Gas.words out.length then _ else _ : CallResult), f.world) = _
    rw [if_neg (Nat.not_lt.mpr hleft)]
    rfl
  unfold call
  rw [hmethods]
  dsimp only
  rw [if_neg hforeign]
  change (some ((Call.keepIfReturned (invoke ms c)).run w).1,
    ((Call.keepIfReturned (invoke ms c)).run w).2) = _
  rw [Call.run_keepIfReturned, hinvoke]
  rfl

theorem call_of_asks {ms : List Method} {m : Method} {out : Octets} {a : Address}
    (hasks : Asks c a m.signature) (hmethods : methodsAt? a = some ms)
    (hfind : ms.find? (·.selector = c.input.take 4) = some m) (hmutates : m.Mutates)
    (hfree : m.mutability ≠ .payable → c.value = 0) (hgas : callGas c ≤ c.gas)
    (hrun : Gives (m.run c (c.input.drop 4)) ⟨w, c.gas - callGas c⟩ out f)
    (hleft : Gas.words out.length ≤ f.gas) :
    ∃ r, (call c).run w = (some r, f.world) ∧ r.succeeded = true := by
  have hreads : m.mutability ≠ .pure := by
    rcases hmutates with h | h <;> simp [h]
  exact ⟨_, call_of_method (hasks.codeAt ▸ hmethods)
    (fun _ => hasks.target.trans hasks.codeAt.symm) hfind hreads (by simp [hasks.thawed])
    (fun h => h.2 (hfree h.1)) hgas hrun hleft, rfl⟩

theorem call_of_awaits (hasks : Asks c programsAddress "activateProgram(address)")
    (harg : argument? c = some arg) (hw : w.Awaits (Address.ofWord arg) wasm l fee)
    (hfee : fee ≤ c.value) (hfunds : c.value ≤ (w.ledger.account c.target).balance)
    (hgas : activationCallGas c ≤ c.gas) :
    ∃ r w', (call c).run w = (some r, w') ∧ r.succeeded = true := by
  unfold activationCallGas at hgas
  have hcost : Programs.activationCost ≤ c.gas - callGas c := by omega
  obtain ⟨out, g, hrun, hlength, hleft⟩ :=
    Programs.activateProgram_of_awaits (f := ⟨w, c.gas - callGas c⟩) harg hw hfee hfunds hcost
  dsimp only at hleft
  obtain ⟨r, hr⟩ := call_of_asks (m := ⟨"activateProgram(address)", .payable, Programs.activateProgram⟩)
    hasks rfl (Programs.find_activateProgram hasks.selector) (.inr rfl) (fun h => absurd rfl h)
    (by omega) hrun (by rw [hlength]; omega)
  exact ⟨r, _, hr⟩

end Inkwell.SystemContract

namespace Inkwell.Call

variable {w : World} {c : Call} {codeHash fee : Word} {wasm : Octets} {l : Loaded}

theorem lookup_of_inactive (hw : w.ledger.Healthy)
    (hinactive : ∀ r, ¬ w.ledger.view.Current w.now codeHash r) :
    ∃ e, lookup w w.ledger.view.params codeHash = .error e ∧ remediable e = true := by
  obtain ⟨n, -, hanswers⟩ := State.answers_existing hw codeHash
  obtain ⟨d, hd, -⟩ := hanswers ⟨w.ledger, none, true⟩ (.refl _) (by simp)
  unfold lookup State.activeRecord
  rw [hd.outcome_bind]
  cases hr : w.ledger.view.record? codeHash with
  | none => exact ⟨_, rfl, rfl⟩
  | some r =>
    dsimp only
    by_cases hactivated : r.version = 0
    · rw [if_pos hactivated]
      exact ⟨_, rfl, rfl⟩
    rw [if_neg hactivated]
    by_cases hversion : r.version ≠ w.ledger.view.params.version
    · rw [if_pos hversion]
      exact ⟨_, rfl, rfl⟩
    rw [if_neg hversion]
    by_cases hexpired : r.isExpired w.now = true
    · rw [if_pos hexpired]
      exact ⟨_, rfl, rfl⟩
    · exact absurd ⟨hr, not_not.mp hversion, by simpa using hexpired⟩ (hinactive r)

theorem findRecord_of_awaits (hw : w.Awaits c.codeAt wasm l fee) (hthawed : c.frozen = false)
    (hauto : w.config.autoActivate = true) (hfee : fee ≤ (w.ledger.account c.caller).balance) :
    ∃ (a : Activation) (w' : World), Gives (findRecord c w.ledger.view.params
      (keccak (w.ledger.account c.codeAt).code) wasm) w (a.record, some a.artifact) w' := by
  have hfree := hfee
  rw [hw.due] at hfree
  obtain ⟨e, hlookup, hremediable⟩ := lookup_of_inactive hw.healthy hw.inactive
  generalize keccak (w.ledger.account c.codeAt).code = codeHash at hfree hlookup ⊢
  -- the record is looked for as an active one, which fails, and then as any, for whether it is pinned
  obtain ⟨m₁, hreads₁, hactive⟩ := World.outcome_reading
    (m := State.activeRecord w.ledger.view.params w.now codeHash) State.keeps_activeRecord true w
  change outcome _ _ = (lookup w w.ledger.view.params codeHash, _) at hactive
  rw [hlookup] at hactive
  obtain ⟨n, -, hanswers⟩ := State.answers_existing (hw.healthy.of_reads hreads₁) codeHash
  obtain ⟨m₂, hreads₂, hexisting⟩ := World.gives_of_answers (w := { w with ledger := m₁ }) hanswers
    State.keeps_record? true
  have hreading : w.Reading { w with ledger := m₂ } := ⟨hreads₁.trans hreads₂, rfl, rfl, rfl⟩
  have hw₂ := hw.of_reading hreading
  have hview : m₂.view = w.ledger.view := hreading.view
  have hpinned : ((m₁.view.record? codeHash).map Record.pinned).getD false =
      w.ledger.view.pinned codeHash := by
    rw [hreads₁.view]
    rfl
  have haccount : m₂.account = w.ledger.account := congrArg View.account hview
  rw [← hview, ← haccount] at hfree
  obtain ⟨a, w', hcharge⟩ := World.activateAndCharge_of_load (w := { w with ledger := m₂ })
    hw₂.healthy hw₂.loads hfree
  refine ⟨a, w', (gives_get.mpr ⟨rfl, rfl⟩).bind ((gives_lift.mpr hactive).bind ?_)⟩
  refine (gives_adapt.mpr hexisting).bind (gives_guard.mpr ⟨by simp [hremediable, hthawed, hauto], ?_⟩)
  rw [hpinned, ← hview]
  exact (gives_adapt.mpr hcharge).bind (gives_pure.mpr ⟨rfl, rfl⟩)

theorem prepare_of_awaits (hw : w.Awaits c.codeAt wasm l fee) (hthawed : c.frozen = false)
    (hauto : w.config.autoActivate = true) (hfee : fee ≤ (w.ledger.account c.caller).balance)
    (hgas : max64 ≤ c.gas) :
    ∃ x w', Gives (prepare c w.ledger.view.params (keccak (w.ledger.account c.codeAt).code) wasm) w x
      w' := by
  let k := (w.cache.touchRecent w.block.height (keccak wasm)
    w.ledger.view.params.blockCacheSize.toNat).2
  obtain ⟨warm, htouch⟩ : ∃ warm, Gives (touchModule w.ledger.view.params (keccak wasm)) w warm
      { w with cache := k } := ⟨_, rfl⟩
  have hw' : World.Awaits { w with cache := k } c.codeAt wasm l fee :=
    hw.of_same hw.healthy rfl rfl rfl rfl rfl
  obtain ⟨a, w', hfound⟩ := findRecord_of_awaits hw' hthawed hauto hfee
  obtain ⟨x, hcharged⟩ : ∃ x, Gives (chargeStart c w.ledger.view.params warm a.record a.artifact) w' x
      w' := by
    refine ⟨_, (gives_get.mpr ⟨rfl, rfl⟩).bind (gives_guard.mpr ⟨?_, gives_pure.mpr ⟨rfl, rfl⟩⟩)⟩
    exact Nat.not_lt.mpr ((clamp64_le _).trans hgas)
  exact ⟨x, w', htouch.bind (hfound.bind ((gives_pure.mpr ⟨rfl, rfl⟩).bind hcharged))⟩

/-- A call of a program that has to be activated returns, if the caller can pay for that, the gas is
enough whatever the entry costs, and the program ends well without output. -/
theorem run_of_awaits {runner : Runner} (hw : w.Awaits c.codeAt wasm l fee)
    (hthawed : c.frozen = false) (hauto : w.config.autoActivate = true)
    (hfee : fee ≤ (w.ledger.account c.caller).balance) (hgas : max64 ≤ c.gas)
    (hends : ∀ a env m, (runner a env m).1 = ⟨.success, []⟩) :
    ∃ r, ((run runner c).run w).1 = some r ∧ r.succeeded = true := by
  let w₀ : World := { w with cache := w.cache.startBlock w.block.height }
  have hw₀ : w₀.Awaits c.codeAt wasm l fee := hw.of_same hw.healthy rfl rfl rfl rfl rfl
  obtain ⟨l₁, l₂, hreads, hcode, hp⟩ := World.code_and_params (hw₀.healthy.loadable c.codeAt)
    hw₀.healthy.knowsParams
  have hw₂ : World.Awaits { w₀ with ledger := l₂ } c.codeAt wasm l fee :=
    hw₀.of_reading ⟨hreads, rfl, rfl, rfl⟩
  have hparams : w₀.ledger.view.params = l₂.view.params := by rw [hreads.view]
  have haccount : l₂.account = w.ledger.account := hreads.account
  obtain ⟨x, w', hprepare⟩ := prepare_of_awaits (w := { w₀ with ledger := l₂ }) hw₂ hthawed hauto
    (haccount ▸ hfee) hgas
  have hreturned : ((finish (execute runner c w.ledger.view.params
      (keccak (w.ledger.account c.codeAt).code) wasm)).run { w₀ with ledger := l₂ }).1.succeeded =
        true := by
    rw [run_finish, execute_eq, outcome_bind]
    dsimp only at hprepare
    rw [haccount, ← hparams] at hprepare
    rw [hprepare]
    dsimp only
    rw [outcome_runProgram, hends]
    cases w'.config.chargesOutput <;> rfl
  refine ⟨_, ?_, hreturned⟩
  rw [run_of_read hcode hp, hw.module]
  change some ((keepIfReturned (finish (execute runner c w.ledger.view.params
    (keccak (w.ledger.account c.codeAt).code) wasm))).run { w₀ with ledger := l₂ }).1 = _
  rw [run_keepIfReturned]

end Inkwell.Call

namespace Inkwell.World

open SystemContract

variable {w : World} {c : Call} {arg fee : Word} {wasm : Octets} {y : Loaded} {callee : Callee}
  {r : CallResult}

theorem invoke_of_returned {l : Ledger} {w' : World}
    (hpaid : Gives (Ledger.transfer c.caller c.target c.value) w.ledger none l)
    (hcall : (callee.run c).run { w with ledger := l } = (some r, w')) (hr : r.succeeded = true) :
    w.invoke (some true) callee c = (some r, w') := by
  have hbare : w.bare (Ledger.transfer c.caller c.target c.value) =
      (.ok none, { w with ledger := l }) := by
    change ((outcome (Ledger.transfer c.caller c.target c.value) w.ledger).1,
      ({ w with ledger := (outcome (Ledger.transfer c.caller c.target c.value) w.ledger).2 } : World))
        = _
    rw [hpaid]
  unfold invoke frame
  simp only [if_true, hbare, hcall, if_pos hr]
  rfl

/-- A frame moves the value from a caller who has it, and ends as the callee does then. -/
theorem returns_of_paid {P : World → Prop} (hw : w.ledger.Healthy)
    (hfunds : c.value ≤ (w.ledger.account c.caller).balance)
    (hcall : ∀ l : Ledger, l.Healthy → View.Pays c.caller c.target c.value w.ledger.view l.view →
      ∃ r w', (callee.run c).run { w with ledger := l } = (some r, w') ∧ r.succeeded = true ∧ P w') :
    ∃ r w', w.invoke (some true) callee c = (some r, w') ∧ r.succeeded = true ∧ P w' := by
  obtain ⟨l, hl⟩ := hw.transfer hfunds c.target
  have hreaches : w.ledger.Reaches .any l := Ledger.keeps_transfer.of_gives hl
  obtain ⟨r, w', hr, hreturned, hw'⟩ := hcall l (hw.reaches hreaches) (Ledger.gives_transfer hl)
  exact ⟨r, w', invoke_of_returned hl hr hreturned, hreturned, hw'⟩

theorem succeeds_of_paid (hw : w.ledger.Healthy)
    (hfunds : c.value ≤ (w.ledger.account c.caller).balance)
    (hcall : ∀ l : Ledger, l.Healthy → View.Pays c.caller c.target c.value w.ledger.view l.view →
      ∃ r w', (callee.run c).run { w with ledger := l } = (some r, w') ∧ r.succeeded = true) :
    ∃ r, (w.invoke (some true) callee c).1 = some r ∧ r.succeeded = true := by
  have hpaid : ∃ r w', w.invoke (some true) callee c = (some r, w') ∧ r.succeeded = true ∧ True :=
    returns_of_paid hw hfunds fun l hl hpays => by
      obtain ⟨r, w', hr, hreturned⟩ := hcall l hl hpays
      exact ⟨r, w', hr, hreturned, trivial⟩
  obtain ⟨r, w', hr, hreturned, -⟩ := hpaid
  exact ⟨r, congrArg Prod.fst hr, hreturned⟩

theorem funds_of_paid {l : Ledger} (hne : c.caller ≠ c.target)
    (hpays : View.Pays c.caller c.target c.value w.ledger.view l.view) :
    c.value ≤ (l.account c.target).balance := by
  have hgot := (hpays.moves hne).got
  change (l.account c.target).balance.toNat = _ at hgot
  change c.value.toNat ≤ _
  omega

theorem returns_asked (hasks : Asks c programsAddress "activateProgram(address)")
    (harg : argument? c = some arg) (hw : w.Awaits (Address.ofWord arg) wasm y fee)
    (hne : c.caller ≠ c.target) (hfee : fee ≤ c.value)
    (hfunds : c.value ≤ (w.ledger.account c.caller).balance) (hgas : activationCallGas c ≤ c.gas) :
    ∃ r, (w.invoke (some true) .system c).1 = some r ∧ r.succeeded = true := by
  refine succeeds_of_paid hw.healthy hfunds fun l hl hpays => ?_
  have hw' : Awaits { w with ledger := l } (Address.ofWord arg) wasm y fee :=
    hw.of_same hl hpays.slot (hpays.code _) rfl rfl rfl
  exact call_of_awaits hasks harg hw' hfee (funds_of_paid hne hpays) hgas

end Inkwell.World

namespace Inkwell.World

variable {w : World} {a : Address} {wasm : Octets} {y : Loaded} {fee : Word}

theorem Awaits.fee_le (h : w.Awaits a wasm y fee) : fee.toNat ≤ max64 := by
  rw [h.due]
  change (BitVec.ofNat 256 (clamp64 _)).toNat ≤ _
  rw [BitVec.toNat_ofNat]
  exact (Nat.mod_le _ _).trans (clamp64_le _)

theorem params_of_blank {v : View} (h : ∀ slot, v.state slot = 0) : v.params = {} := by
  unfold View.params View.stateNat
  rw [h, h]
  decide

theorem module?_smallPackage : Package.module? 131072 smallPackage = .ok (some smallModule) := by
  decide +kernel

theorem awaits_of_unrecorded (hw : w.ledger.Healthy) (hparams : w.ledger.view.params = {})
    (hnone : w.ledger.view.record? smallHash = none)
    (hcode : (w.ledger.account a).code = smallPackage)
    (hkept : w.cache.artifacts = (Cache.ofCapacity 1).artifacts) (hconfig : w.config = {}) :
    ∃ y fee, w.Awaits a smallModule y fee ∧
      compile smallModule ⟨2, false, 128, 131072⟩ = .ok y.artifact := by
  obtain ⟨artifact, hartifact⟩ := compile_smallModule
  refine ⟨⟨artifact, false⟩, _, ⟨hw, ?_, fun r hr => ?_, ?_, rfl⟩, hartifact⟩
  · rw [hparams, hcode]
    exact module?_smallPackage
  · have hrecord := hr.record
    rw [hcode, keccak_smallPackage, hnone] at hrecord
    cases hrecord
  · unfold settings
    rw [hparams, Cache.load_of_artifacts hkept, Cache.load_eq, hconfig]
    change (compile smallModule ⟨2, false, 128, 131072⟩).map _ = _
    rw [hartifact]
    rfl

end Inkwell.World

namespace Inkwell.World

open SystemContract

variable {rich : Address}

def quiet : Runner := fun _ _ m => (⟨.success, []⟩, m)

/-- One account with a program, and one with money. -/
def furnished (rich : Address) : World where
  ledger := { store := {
    accounts := (Table.empty.insert rich { balance := 0x20000000000000000 }).insert 1
      { code := smallPackage } } }
  cache := .ofCapacity 1

theorem account_furnished (rich a : Address) : (furnished rich).ledger.account a =
    if a = 1 then { code := smallPackage }
    else if a = rich then { balance := 0x20000000000000000 } else {} := by
  have hstored : (furnished rich).ledger.account a = (furnished rich).ledger.store.account a := rfl
  rw [hstored]
  unfold Store.account furnished
  simp only [Table.get?_insert]
  split_ifs <;> rfl

theorem balance_furnished (h : rich ≠ 1) :
    ((furnished rich).ledger.account rich).balance = 0x20000000000000000 := by
  rw [account_furnished, if_neg h, if_pos rfl]

theorem supply_of_single {f : Accounts} {a : Address} (h : ∀ b, b ≠ a → (f b).balance = 0) :
    Accounts.supply f = (f a).balance.toNat := by
  unfold Accounts.supply
  refine Finset.sum_eq_single a (fun b _ hb => ?_) fun hnot => absurd (Finset.mem_univ a) hnot
  rw [h b hb]
  rfl

theorem healthy_furnished (rich : Address) : (furnished rich).ledger.Healthy := by
  refine ⟨rfl, ?_⟩
  have hrest : ∀ a, a ≠ rich → ((furnished rich).ledger.account a).balance = 0 := by
    intro a ha
    rw [account_furnished, if_neg ha]
    split <;> rfl
  unfold Ledger.Bounded Ledger.supply
  rw [supply_of_single hrest]
  exact BitVec.isLt _

theorem awaits_furnished (rich : Address) : ∃ y fee, (furnished rich).Awaits 1 smallModule y fee := by
  have hparams : (furnished rich).ledger.view.params = {} := params_of_blank fun _ => rfl
  obtain ⟨y, fee, hw, -⟩ := awaits_of_unrecorded (a := 1) (healthy_furnished rich) hparams rfl
    (by rw [account_furnished, if_pos rfl]) rfl rfl
  exact ⟨y, fee, hw⟩

theorem hashed_furnished (rich : Address) : (furnished rich).Hashed (· = smallHash) := by
  intro a
  rw [account_furnished]
  split_ifs with hone hrich
  · intro limit wasm _
    exact keccak_smallPackage
  · exact hashes_nil
  · exact hashes_nil

theorem record_furnished (rich : Address) (h : Word) :
    (furnished rich).ledger.view.record? h = none := rfl

/-- Account two asks for the program in account one to be activated. -/
def furnishedAsk : Call where
  target := 0x71
  codeAt := 0x71
  caller := 2
  value := 0x10000000000000000
  input := [0x58, 0xc7, 0x80, 0xc2] ++ (1 : Word).octets
  gas := 2000000

theorem asks_furnishedAsk : Asks furnishedAsk programsAddress "activateProgram(address)" :=
  ⟨rfl, rfl, rfl, Abi.selectorOf_activateProgram.symm⟩

theorem argument_furnishedAsk : argument? furnishedAsk = some 1 := by decide

end Inkwell.World
