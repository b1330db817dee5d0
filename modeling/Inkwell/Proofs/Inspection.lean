import Inkwell.Proofs.SystemContract
set_option autoImplicit false

/-! What a method of a system contract looks at before it decides whether there is anything to do, and
what is left to do then. -/

namespace Inkwell

namespace View

def codeHash (v : View) (a : Address) : Word :=
  if (v.account a).isEmpty then 0 else keccak (v.account a).code

theorem codeHash_of_account {u v : View} (h : u.account = v.account) (a : Address) :
    u.codeHash a = v.codeHash a := by
  unfold codeHash
  rw [h]

def Manages (v : View) (a : Address) : Prop := v.stateNat 64 (State.managers.indexSlot a) ≠ 0

structure Current (v : View) (now : Nat) (codeHash : Word) (r : Record) : Prop where
  record : v.record? codeHash = some r
  version : r.version = v.params.version
  live : r.isExpired now = false

theorem Current.of_slot {u v : View} {now : Nat} {h : Word} {r : Record}
    (hcurrent : v.Current now h r) (hslot : u.slot = v.slot) : u.Current now h r where
  record := (record?_of_slot hslot h).trans hcurrent.record
  version := by rw [params_of_slot hslot, hcurrent.version]
  live := hcurrent.live

end View

namespace SystemContract

variable {c : Call} {f g : Frame} {args : Octets}

theorem gives_addressArgument {a : Address} (h : Gives (addressArgument args) f a g) :
    ∃ arg, Abi.firstWord? args = some arg ∧ a = Address.ofWord arg := by
  obtain ⟨arg, t, harg, h⟩ := gives_bind.mp h
  obtain ⟨rfl, rfl⟩ := gives_pure.mp h
  exact ⟨arg, gives_argument harg, rfl⟩

theorem codeHash_of_module {v : View} {program : Address} {limit : Nat} {wasm : Octets}
    (hmodule : Package.module? limit (v.account program).code = .ok (some wasm)) :
    v.codeHash program = keccak (v.account program).code := by
  have hcode : (v.account program).code ≠ [] := by
    intro hnone
    rw [hnone] at hmodule
    cases hmodule
  have hfull : (v.account program).isEmpty = false := by
    simp [Account.isEmpty, hcode]
  unfold View.codeHash
  rw [hfull]
  rfl

namespace Programs

/-- What an activation looks at before it decides whether there is anything to do. -/
structure Inspected where
  program : Address
  params : Params
  codeHash : Word
  existing : Option Record
  /-- The record, if it is of the current version and has not expired. -/
  current : Option Record

def inspect (c : Call) (args : Octets) : MethodM Inspected := do
  let program ← addressArgument args
  let params ← onState c State.params
  pay activationGas
  let codeHash ← onWorld (World.onLedger (Ledger.codeHash program))
  let existing ← onState c (State.record? codeHash)
  let now := (← get).world.now
  return ⟨program, params, codeHash, existing,
    existing.filter fun r => r.version = params.version && !r.isExpired now⟩

def handBack (c : Call) (r : Record) : MethodM Octets := do
  payOut c c.caller c.value
  return activation r.version r.dataFee

def enterProgram (c : Call) (x : Inspected) : MethodM Octets := do
  let wasm ← moduleAt x.program x.params
  let a ← onWorld (World.activate x.codeHash wasm ((x.existing.map Record.pinned).getD false))
  settleFee c a.fee
  emit (activated c x.program x.codeHash a)
  return activation a.version a.fee

theorem activateProgram_eq (c : Call) (args : Octets) : activateProgram c args = (do
    let x ← inspect c args
    x.current.elim (enterProgram c x) (handBack c)) := by
  unfold activateProgram inspect
  simp only [bind_assoc, pure_bind]
  refine congrArg _ (funext fun program => congrArg _ (funext fun p => congrArg _ (funext fun _ =>
    congrArg _ (funext fun codeHash => congrArg _ (funext fun existing => congrArg _
      (funext fun g => ?_))))))
  cases existing.filter fun r => r.version = p.version && !r.isExpired g.world.now <;> rfl

theorem reading_inspect : Keeps (Frame.Over World.Reading) (inspect c args) := by
  have hhash : ∀ program, Keeps World.Reading (World.onLedger (Ledger.codeHash program)) :=
    fun _ => World.reading_onLedger Ledger.keeps_codeHash
  refine (reading_addressArgument args).bind fun program => ?_
  refine (reading_onState State.keeps_params).bind fun p => (reading_pay _).bind fun _ => ?_
  refine (keeps_onWorld (hhash program)).bind fun codeHash => ?_
  exact (reading_onState State.keeps_record?).bind fun _ => keeps_get.bind fun _ => keeps_pure _

theorem gives_inspect {x : Inspected} (h : Gives (inspect c args) f x g) :
    (∃ arg, Abi.firstWord? args = some arg ∧ x.program = Address.ofWord arg) ∧
      x.params = f.world.ledger.view.params ∧
      x.codeHash = f.world.ledger.view.codeHash x.program ∧
      x.existing = f.world.ledger.view.record? x.codeHash ∧
      ∀ r, x.current = some r ↔ f.world.ledger.view.Current f.world.now x.codeHash r := by
  obtain ⟨program, f₁, harg, h⟩ := gives_bind.mp h
  obtain ⟨p, f₂, hp, h⟩ := gives_bind.mp h
  obtain ⟨u, f₃, hpay, h⟩ := gives_bind.mp h
  obtain ⟨codeHash, f₄, hhash, h⟩ := gives_bind.mp h
  obtain ⟨existing, f₅, hexisting, h⟩ := gives_bind.mp h
  obtain ⟨f₅', t, hget, h⟩ := gives_bind.mp h
  obtain ⟨rfl, rfl⟩ := gives_get.mp hget
  obtain ⟨rfl, rfl⟩ := gives_pure.mp h
  have hr₁ : f.world.Reading f₁.world := (reading_addressArgument _).of_gives harg
  have hr₂ : f₁.world.Reading f₂.world := (reading_onState State.keeps_params).of_gives hp
  have hr₃ : f₂.world.Reading f₃.world := (reading_pay _).of_gives hpay
  have hr₄ : f₃.world.Reading f₄.world :=
    (keeps_onWorld (World.reading_onLedger Ledger.keeps_codeHash)).of_gives hhash
  have hr₅ : f₄.world.Reading f₅.world := (reading_onState State.keeps_record?).of_gives hexisting
  obtain ⟨arg, hword, rfl⟩ := gives_addressArgument harg
  obtain ⟨l₂, d₂, hv₂, hd₂, -⟩ := gives_onState hp
  obtain ⟨l₄, hl₄, -⟩ := World.gives_onLedger (gives_onWorld hhash)
  obtain ⟨l₅, d₅, hv₅, hd₅, -⟩ := gives_onState hexisting
  have hparams : p = f₁.world.ledger.view.params := hv₂ ▸ State.gives_params hd₂
  have hcode : codeHash = f₃.world.ledger.view.codeHash (Address.ofWord arg) :=
    Ledger.gives_codeHash hl₄
  have hrecord : existing = f₄.world.ledger.view.record? codeHash := hv₅ ▸ State.gives_record? hd₅
  have hr : f.world.Reading f₃.world := (hr₁.trans hr₂).trans hr₃
  have hnow : f₅.world.now = f.world.now := ((hr.trans hr₄).trans hr₅).now
  rw [hr₁.view] at hparams
  rw [hr.view] at hcode
  rw [(hr.trans hr₄).view] at hrecord
  refine ⟨⟨arg, hword, rfl⟩, hparams, hcode, hrecord, fun r => ?_⟩
  dsimp only
  rw [hnow, hparams, hrecord, Option.filter_eq_some_iff, Bool.and_eq_true, decide_eq_true_eq,
    Bool.not_eq_true']
  exact ⟨fun h => ⟨h.1, h.2.1, h.2.2⟩, fun h => ⟨h.record, h.version, h.live⟩⟩

end Programs

namespace Pinning

theorem reading_requireManager : Keeps (Frame.Over World.Reading) (requireManager c) :=
  (reading_onState State.keeps_contains).bind fun _ =>
    keeps_ite (fun _ => keeps_throw _) fun _ => keeps_pure _

theorem gives_requireManager {u : Unit} (h : Gives (requireManager c) f u g) :
    f.world.ledger.view.Manages c.caller := by
  obtain ⟨b, t, hcontains, h⟩ := gives_bind.mp h
  obtain ⟨l, d, hview, hd, -⟩ := gives_onState hcontains
  obtain ⟨n, d', hn, hd⟩ := gives_bind.mp hd
  obtain ⟨hb, -⟩ := gives_pure.mp hd
  cases hmanages : b with
  | false =>
    rw [hmanages] at h
    exact absurd h not_gives_throw
  | true =>
    rw [hmanages] at hb
    have hindex := (Access.gives_loadNat hn).1
    have hne : n ≠ 0 := by simpa using hb
    rwa [hindex, hview] at hne

/-- What is looked at before a program is pinned. -/
structure Inspected where
  program : Address
  params : Params
  codeHash : Word
  record : Record

def inspect (c : Call) (args : Octets) : MethodM Inspected := do
  let program ← addressArgument args
  requireManager c
  let params ← onState c State.params
  let codeHash ← onState c (Access.codeHash program)
  let now := (← get).world.now
  let record ← onState c (State.activeRecord params now codeHash)
  return ⟨program, params, codeHash, record⟩

/-- Tells that a program is pinned, or no longer pinned, and pays for a start of it. -/
def announce (c : Call) (codeHash : Word) (r : Record) (pinned : Bool) : MethodM Unit := do
  emit (cacheUpdated c codeHash pinned)
  pay r.initCost.toNat

def pin (c : Call) (x : Inspected) : MethodM Octets := do
  announce c x.codeHash x.record true
  let wasm ← moduleAt x.program x.params
  let _ ← onWorld do World.load wasm ((← get).settings x.params) true
  onState c (State.setRecord x.codeHash { x.record with pinned := true })
  return []

theorem cacheProgram_eq (c : Call) (args : Octets) : cacheProgram c args = (do
    let x ← inspect c args
    if x.record.pinned then return [] else pin c x) := by
  simp only [cacheProgram, inspect, pin, announce, bind_assoc, pure_bind]

def findPinned (c : Call) (args : Octets) : MethodM (Word × Option Record) := do
  let codeHash ← argument args
  requireManager c
  let existing ← onState c (State.record? codeHash)
  return (codeHash, existing.filter (·.pinned))

def unpin (c : Call) (codeHash : Word) (r : Record) : MethodM Octets := do
  announce c codeHash r false
  let module ← onState c (State.moduleHash codeHash)
  onState c (State.setRecord codeHash { r with pinned := false })
  modify fun f => { f with world := { f.world with cache := (f.world.cache.evict module).2 } }
  return []

theorem evictCodehash_eq (c : Call) (args : Octets) : evictCodehash c args = (do
    let x ← findPinned c args
    x.2.elim (return []) (unpin c x.1)) := by
  simp only [evictCodehash, findPinned, bind_assoc, pure_bind]
  refine congrArg _ (funext fun codeHash => congrArg _ (funext fun _ => congrArg _ (funext fun r? => ?_)))
  cases r?.filter (·.pinned) with
  | none => rfl
  | some r => simp only [unpin, announce, bind_assoc, Option.elim_some]

theorem reading_inspect : Keeps (Frame.Over World.Reading) (inspect c args) := by
  refine (reading_addressArgument args).bind fun program => reading_requireManager.bind fun _ => ?_
  refine (reading_onState State.keeps_params).bind fun p => ?_
  refine (reading_onState Access.keeps_codeHash).bind fun codeHash => keeps_get.bind fun _ => ?_
  exact (reading_onState State.keeps_activeRecord).bind fun _ => keeps_pure _

theorem reading_findPinned : Keeps (Frame.Over World.Reading) (findPinned c args) :=
  (reading_argument args).bind fun _ => reading_requireManager.bind fun _ =>
    (reading_onState State.keeps_record?).bind fun _ => keeps_pure _

theorem gives_inspect {x : Inspected} (h : Gives (inspect c args) f x g) :
    (∃ arg, Abi.firstWord? args = some arg ∧ x.program = Address.ofWord arg) ∧
      f.world.ledger.view.Manages c.caller ∧ x.params = f.world.ledger.view.params ∧
      x.codeHash = f.world.ledger.view.codeHash x.program ∧
      f.world.ledger.view.Current f.world.now x.codeHash x.record ∧ x.record.version ≠ 0 := by
  obtain ⟨program, f₁, harg, h⟩ := gives_bind.mp h
  obtain ⟨u, f₂, hmanager, h⟩ := gives_bind.mp h
  obtain ⟨p, f₃, hp, h⟩ := gives_bind.mp h
  obtain ⟨codeHash, f₄, hhash, h⟩ := gives_bind.mp h
  obtain ⟨f₄', t, hget, h⟩ := gives_bind.mp h
  obtain ⟨rfl, rfl⟩ := gives_get.mp hget
  obtain ⟨r, f₅, hr, h⟩ := gives_bind.mp h
  obtain ⟨rfl, rfl⟩ := gives_pure.mp h
  have hr₁ : f.world.Reading f₁.world := (reading_addressArgument _).of_gives harg
  have hr₂ : f.world.Reading f₂.world := hr₁.trans (reading_requireManager.of_gives hmanager)
  have hr₃ : f.world.Reading f₃.world := hr₂.trans ((reading_onState State.keeps_params).of_gives hp)
  have hr₄ : f.world.Reading f₄.world :=
    hr₃.trans ((reading_onState Access.keeps_codeHash).of_gives hhash)
  obtain ⟨arg, hword, rfl⟩ := gives_addressArgument harg
  obtain ⟨l₃, d₃, hv₃, hd₃, -⟩ := gives_onState hp
  obtain ⟨l₄, d₄, hv₄, hd₄, -⟩ := gives_onState hhash
  obtain ⟨l₅, d₅, hv₅, hd₅, -⟩ := gives_onState hr
  have hmanages := gives_requireManager hmanager
  have hparams : p = f₂.world.ledger.view.params := hv₃ ▸ State.gives_params hd₃
  have hcode : codeHash = f₃.world.ledger.view.codeHash (Address.ofWord arg) :=
    hv₄ ▸ Access.gives_codeHash hd₄
  obtain ⟨hrecord, hactivated, hversion, hlive⟩ := State.gives_activeRecord hd₅
  rw [hr₁.view] at hmanages
  rw [hr₂.view] at hparams
  rw [hr₃.view] at hcode
  dsimp only at hrecord
  rw [hv₅, hr₄.view] at hrecord
  rw [hparams] at hversion
  rw [hr₄.now] at hlive
  exact ⟨⟨arg, hword, rfl⟩, hmanages, hparams, hcode, ⟨hrecord, hversion, hlive⟩, hactivated⟩

theorem gives_findPinned {x : Word × Option Record} (h : Gives (findPinned c args) f x g) :
    Abi.firstWord? args = some x.1 ∧ f.world.ledger.view.Manages c.caller ∧
      ∀ r, x.2 = some r ↔ f.world.ledger.view.record? x.1 = some r ∧ r.pinned = true := by
  obtain ⟨codeHash, f₁, harg, h⟩ := gives_bind.mp h
  obtain ⟨u, f₂, hmanager, h⟩ := gives_bind.mp h
  obtain ⟨existing, f₃, hexisting, h⟩ := gives_bind.mp h
  obtain ⟨rfl, rfl⟩ := gives_pure.mp h
  have hr₁ : f.world.Reading f₁.world := (reading_argument _).of_gives harg
  have hr₂ : f.world.Reading f₂.world := hr₁.trans (reading_requireManager.of_gives hmanager)
  obtain ⟨l, d, hview, hd, -⟩ := gives_onState hexisting
  have hmanages := gives_requireManager hmanager
  have hrecord : existing = f₂.world.ledger.view.record? codeHash := hview ▸ State.gives_record? hd
  rw [hr₁.view] at hmanages
  rw [hr₂.view] at hrecord
  refine ⟨gives_argument harg, hmanages, fun r => ?_⟩
  dsimp only
  rw [hrecord, Option.filter_eq_some_iff]

end Pinning

end SystemContract
end Inkwell
