import Inkwell.Proofs.Access
import Inkwell.State
set_option autoImplicit false

/-! The state of programs as the view of a ledger shows it, and that the work on the state reads
and writes just that. -/

namespace Inkwell

namespace View

variable (v : View)

def stateNat (bits : Nat) (slot : Word) : Nat := min (v.state slot).toNat (2 ^ bits - 1)

def feeAccount : Address := Address.ofWord (v.state Layout.feeAccount)

def params : Params :=
  let p := Params.ofWord (v.state Layout.paramsWord)
  let ramp := v.stateNat 64 Layout.pageRamp
  if ramp = 0 then p else { p with pageRamp := UInt64.ofNat ramp }

def pricer : Pricer := ({
  demand := UInt32.ofNat (v.stateNat 32 Layout.demand)
  bytesPerSecond := UInt32.ofNat (v.stateNat 32 Layout.bytesPerSecond)
  lastUpdate := UInt64.ofNat (v.stateNat 64 Layout.lastUpdate)
  minPrice := UInt32.ofNat (v.stateNat 32 Layout.minPrice)
  inertia := UInt32.ofNat (v.stateNat 32 Layout.inertia) } : Pricer).orDefault

def moduleHash (codeHash : Word) : Word := v.state (Layout.moduleHash codeHash)

def record? (codeHash : Word) : Option Record :=
  let data := v.state (Layout.recordData codeHash)
  if data = 0 then none
  else some (Record.ofWords data (v.state (Layout.recordLifetime codeHash))
    (v.state (Layout.recordFee codeHash)))

def pinned (codeHash : Word) : Bool := ((v.record? codeHash).map Record.pinned).getD false

def setPricer (p : Pricer) : View :=
  ((((v.setState Layout.demand (BitVec.ofNat 256 p.demand.toNat)).setState
    Layout.bytesPerSecond (BitVec.ofNat 256 p.bytesPerSecond.toNat)).setState
    Layout.lastUpdate (BitVec.ofNat 256 p.lastUpdate.toNat)).setState
    Layout.minPrice (BitVec.ofNat 256 p.minPrice.toNat)).setState
    Layout.inertia (BitVec.ofNat 256 p.inertia.toNat)

def setRecord (codeHash : Word) (r : Record) : View :=
  ((v.setState (Layout.recordData codeHash) r.dataWord).setState
    (Layout.recordLifetime codeHash) r.lifetimeWord).setState (Layout.recordFee codeHash) r.dataFee

def setModuleHash (codeHash module : Word) : View := v.setState (Layout.moduleHash codeHash) module

end View

theorem View.state_setState {v : View} {slot other w : Word} :
    (v.setState slot w).state other = if other = slot then w else v.state other := by
  simp only [state, setState, write, Function.update_apply, Prod.mk.injEq, true_and]

theorem View.state_setState_of_ne {v : View} {slot other w : Word} (hne : slot ≠ other) :
    (v.setState slot w).state other = v.state other := by
  rw [state_setState, if_neg hne.symm]

theorem View.record?_of_slot {u v : View} (h : u.slot = v.slot) (codeHash : Word) :
    u.record? codeHash = v.record? codeHash := by
  unfold record? state
  rw [h]

theorem View.pinned_of_slot {u v : View} (h : u.slot = v.slot) (codeHash : Word) :
    u.pinned codeHash = v.pinned codeHash := by
  unfold pinned
  rw [record?_of_slot h]

theorem View.params_of_slot {u v : View} (h : u.slot = v.slot) : u.params = v.params := by
  unfold params stateNat state
  rw [h]

theorem View.pricer_of_slot {u v : View} (h : u.slot = v.slot) : u.pricer = v.pricer := by
  unfold pricer stateNat state
  rw [h]

theorem View.feeAccount_of_slot {u v : View} (h : u.slot = v.slot) : u.feeAccount = v.feeAccount := by
  unfold feeAccount state
  rw [h]

/-! What is written leaves the same slots, if they were the same before. -/

theorem View.slot_setState_congr {u v : View} (h : u.slot = v.slot) (slot w : Word) :
    (u.setState slot w).slot = (v.setState slot w).slot :=
  congrArg (fun f : SlotKey → Word => Function.update f (stateAccount, slot) w) h

theorem View.slot_setModuleHash_congr {u v : View} (h : u.slot = v.slot) (codeHash module : Word) :
    (u.setModuleHash codeHash module).slot = (v.setModuleHash codeHash module).slot :=
  slot_setState_congr h _ _

theorem View.slot_setPricer_congr {u v : View} (h : u.slot = v.slot) (p : Pricer) :
    (u.setPricer p).slot = (v.setPricer p).slot :=
  slot_setState_congr (slot_setState_congr (slot_setState_congr (slot_setState_congr
    (slot_setState_congr h _ _) _ _) _ _) _ _) _ _

theorem View.slot_setRecord_congr {u v : View} (h : u.slot = v.slot) (codeHash : Word) (r : Record) :
    (u.setRecord codeHash r).slot = (v.setRecord codeHash r).slot :=
  slot_setState_congr (slot_setState_congr (slot_setState_congr h _ _) _ _) _ _

theorem View.state_setModuleHash (v : View) (codeHash module : Word) :
    (v.setModuleHash codeHash module).state (Layout.moduleHash codeHash) = module := by
  simp only [state, setModuleHash, setState, write, Function.update_self]

theorem View.stateNat_of_state {v : View} {slot : Word} {bits n : Nat} (hbits : bits ≤ 256)
    (hn : n < 2 ^ bits) (h : v.state slot = BitVec.ofNat 256 n) : v.stateNat bits slot = n := by
  have hword : n < 2 ^ 256 := Nat.lt_of_lt_of_le hn (Nat.pow_le_pow_right (by decide) hbits)
  unfold stateNat
  rw [h, BitVec.toNat_ofNat, Nat.mod_eq_of_lt hword]
  omega

def Layout.pricerSlots : List Word := [demand, bytesPerSecond, lastUpdate, minPrice, inertia]

def Writes.Open (W : Writes) (slot : Word) : Prop := ∀ f w, W.slot f (stateAccount, slot) w

def Writes.sparing (slots : List Word) : Writes :=
  ⟨fun _ k _ => ∀ slot ∈ slots, k ≠ (stateAccount, slot), fun _ => True⟩

theorem Writes.sparing_of_notMem {slots : List Word} {slot w : Word} {f : SlotKey → Word}
    (h : slot ∉ slots) : (Writes.sparing slots).slot f (stateAccount, slot) w := by
  rintro other hother heq
  obtain ⟨-, rfl⟩ := Prod.mk.inj heq
  exact h hother

theorem Ledger.Reaches.spares {slots : List Word} {l m : Ledger} (h : l.Reaches (.sparing slots) m) :
    ∀ slot ∈ slots, m.view.state slot = l.view.state slot := by
  intro slot hslot
  refine h.slot_inv (I := fun f => f (stateAccount, slot) = l.slot (stateAccount, slot)) ?_ rfl
  intro f k w hk hf
  rw [Function.update_of_ne (hk slot hslot).symm, hf]

namespace State

open Access

variable {R : Ledger → Ledger → Prop} {W : Writes} {d e : Desk} {h : Word}

/-! ### Reading -/

theorem keeps_feeAccount : Keeps (Desk.Over Ledger.Reads) feeAccount := keeps_loadAddress

theorem keeps_params : Keeps (Desk.Over Ledger.Reads) params :=
  (keeps_pay _).bind fun _ => keeps_free (keeps_load.bind fun _ => keeps_loadNat.bind fun _ =>
    keeps_pure _)

theorem keeps_pricer : Keeps (Desk.Over Ledger.Reads) pricer :=
  keeps_loadNat.bind fun _ => keeps_loadNat.bind fun _ => keeps_loadNat.bind fun _ =>
    keeps_loadNat.bind fun _ => keeps_loadNat.bind fun _ => keeps_pure _

theorem keeps_moduleHash : Keeps (Desk.Over Ledger.Reads) (moduleHash h) := keeps_load

theorem keeps_record? : Keeps (Desk.Over Ledger.Reads) (record? h) := by
  refine keeps_load.bind fun data => keeps_ite (fun _ => keeps_pure _) fun _ => ?_
  exact keeps_load.bind fun _ => keeps_load.bind fun _ => keeps_pure _

theorem keeps_activeRecord {p : Params} {now : Nat} :
    Keeps (Desk.Over Ledger.Reads) (activeRecord p now h) := by
  refine keeps_record?.bind fun r => ?_
  cases r with
  | none => exact keeps_throw _
  | some r => exact keeps_guard (keeps_guard (keeps_guard (keeps_pure _)))

theorem keeps_contains {s : AddressSet} {a : Address} :
    Keeps (Desk.Over Ledger.Reads) (s.contains a) := keeps_loadNat.bind fun _ => keeps_pure _

theorem keeps_elements (s : AddressSet) (i count : Nat) :
    Keeps (Desk.Over Ledger.Reads) (s.elements i count) := by
  induction count generalizing i with
  | zero => exact keeps_pure _
  | succ count ih => exact keeps_loadAddress.bind fun _ => (ih (i + 1)).bind fun _ => keeps_pure _

theorem keeps_all {s : AddressSet} : Keeps (Desk.Over Ledger.Reads) s.all :=
  keeps_loadNat.bind fun _ => keeps_elements _ _ _

theorem view_of_reads {α : Type} {m : Access α} {a : α} (hm : Keeps (Desk.Over Ledger.Reads) m)
    (hg : Gives m d a e) : e.ledger.view = d.ledger.view := Ledger.Reads.view (hm.of_gives hg)

theorem gives_feeAccount {a : Address} (hg : Gives feeAccount d a e) :
    a = d.ledger.view.feeAccount := (gives_loadAddress hg).1

theorem gives_params {p : Params} (hg : Gives params d p e) : p = d.ledger.view.params := by
  obtain ⟨u, t, hpay, hg⟩ := gives_bind.mp hg
  obtain ⟨hledger, -⟩ := gives_pay hpay
  obtain ⟨e', hfree, rfl⟩ := gives_free hg
  obtain ⟨w, t', hw, hfree⟩ := gives_bind.mp hfree
  obtain ⟨n, t'', hn, hfree⟩ := gives_bind.mp hfree
  have hview := view_of_reads keeps_load hw
  have hw' := (gives_load hw).1
  dsimp only at hview hw'
  rw [hledger] at hview hw'
  rw [← (gives_pure.mp hfree).1, (gives_loadNat hn).1, hview, hw']
  rfl

theorem gives_pricer {p : Pricer} (hg : Gives pricer d p e) :
    p = d.ledger.view.pricer ∧ e.frozen = d.frozen := by
  obtain ⟨n₁, d₁, h₁, hg⟩ := gives_bind.mp hg
  obtain ⟨n₂, d₂, h₂, hg⟩ := gives_bind.mp hg
  obtain ⟨n₃, d₃, h₃, hg⟩ := gives_bind.mp hg
  obtain ⟨n₄, d₄, h₄, hg⟩ := gives_bind.mp hg
  obtain ⟨n₅, d₅, h₅, hg⟩ := gives_bind.mp hg
  have hv₁ : d₁.ledger.view = d.ledger.view := view_of_reads keeps_loadNat h₁
  have hv₂ : d₂.ledger.view = d.ledger.view := (view_of_reads keeps_loadNat h₂).trans hv₁
  have hv₃ : d₃.ledger.view = d.ledger.view := (view_of_reads keeps_loadNat h₃).trans hv₂
  have hv₄ : d₄.ledger.view = d.ledger.view := (view_of_reads keeps_loadNat h₄).trans hv₃
  obtain ⟨e₁, hf₁⟩ := gives_loadNat h₁
  obtain ⟨e₂, hf₂⟩ := gives_loadNat h₂
  obtain ⟨e₃, hf₃⟩ := gives_loadNat h₃
  obtain ⟨e₄, hf₄⟩ := gives_loadNat h₄
  obtain ⟨e₅, hf₅⟩ := gives_loadNat h₅
  obtain ⟨hp, rfl⟩ := gives_pure.mp hg
  rw [hv₁] at e₂
  rw [hv₂] at e₃
  rw [hv₃] at e₄
  rw [hv₄] at e₅
  refine ⟨?_, by rw [hf₅, hf₄, hf₃, hf₂, hf₁]⟩
  rw [← hp, e₁, e₂, e₃, e₄, e₅]
  rfl

theorem gives_record? {r : Option Record} (hg : Gives (record? h) d r e) :
    r = d.ledger.view.record? h := by
  obtain ⟨data, d₁, hdata, hg⟩ := gives_bind.mp hg
  have hv₁ : d₁.ledger.view = d.ledger.view := view_of_reads keeps_load hdata
  have hstate := (gives_load hdata).1
  unfold View.record?
  dsimp only
  rw [← hstate]
  by_cases hzero : data = 0
  · rw [if_pos hzero] at hg ⊢
    exact (gives_pure.mp hg).1.symm
  · rw [if_neg hzero] at hg ⊢
    obtain ⟨lifetime, d₂, hlifetime, hg⟩ := gives_bind.mp hg
    obtain ⟨fee, d₃, hfee, hg⟩ := gives_bind.mp hg
    have hv₂ : d₂.ledger.view = d.ledger.view := (view_of_reads keeps_load hlifetime).trans hv₁
    rw [← (gives_pure.mp hg).1, (gives_load hlifetime).1, (gives_load hfee).1, hv₁, hv₂]

theorem gives_activeRecord {p : Params} {now : Nat} {r : Record}
    (hg : Gives (activeRecord p now h) d r e) : d.ledger.view.record? h = some r ∧
      r.version ≠ 0 ∧ r.version = p.version ∧ r.isExpired now = false := by
  obtain ⟨r', d₁, hr', hg⟩ := gives_bind.mp hg
  have hrecord := gives_record? hr'
  cases r' with
  | none => exact absurd hg not_gives_throw
  | some r' =>
    obtain ⟨hactivated, hg⟩ := gives_guard.mp hg
    obtain ⟨hversion, hg⟩ := gives_guard.mp hg
    obtain ⟨hlive, hg⟩ := gives_guard.mp hg
    obtain ⟨rfl, -⟩ := gives_pure.mp hg
    exact ⟨hrecord.symm, hactivated, not_not.mp hversion, by simpa using hlive⟩

/-! ### Writing -/

theorem keeps_store {slot w : Word} (hw : ∀ f, W.slot f (stateAccount, slot) w) :
    Keeps (Desk.Over (Ledger.Reaches W)) (store slot w) :=
  fun d => keepsFrom_store fun _ => hw d.ledger.slot

theorem keeps_reads {α : Type} {m : Access α} (hm : Keeps (Desk.Over Ledger.Reads) m) :
    Keeps (Desk.Over (Ledger.Reaches W)) m := hm.mono fun _ _ => Ledger.Reads.reaches

theorem keeps_setPricer {p : Pricer} (hW : ∀ slot ∈ Layout.pricerSlots, W.Open slot) :
    Keeps (Desk.Over (Ledger.Reaches W)) (setPricer p) := by
  have hopen : ∀ slot ∈ Layout.pricerSlots, ∀ n,
      Keeps (Desk.Over (Ledger.Reaches W)) (storeNat slot n) :=
    fun slot hslot n => keeps_store fun f => hW slot hslot f _
  unfold setPricer
  refine (hopen _ (by simp [Layout.pricerSlots]) _).bind fun _ => ?_
  refine (hopen _ (by simp [Layout.pricerSlots]) _).bind fun _ => ?_
  refine (hopen _ (by simp [Layout.pricerSlots]) _).bind fun _ => ?_
  refine (hopen _ (by simp [Layout.pricerSlots]) _).bind fun _ => ?_
  exact hopen _ (by simp [Layout.pricerSlots]) _

theorem gives_setPricer {p : Pricer} {u : Unit} (hg : Gives (setPricer p) d u e) :
    e.ledger.view = d.ledger.view.setPricer p := by
  obtain ⟨u₁, d₁, h₁, hg⟩ := gives_bind.mp hg
  obtain ⟨u₂, d₂, h₂, hg⟩ := gives_bind.mp hg
  obtain ⟨u₃, d₃, h₃, hg⟩ := gives_bind.mp hg
  obtain ⟨u₄, d₄, h₄, hg⟩ := gives_bind.mp hg
  rw [(gives_store hg).1, (gives_store h₄).1, (gives_store h₃).1, (gives_store h₂).1,
    (gives_store h₁).1]
  rfl

theorem keeps_priceData {bytes : UInt32} {now : Nat}
    (hW : ∀ slot ∈ Layout.pricerSlots, W.Open slot) :
    Keeps (Desk.Over (Ledger.Reaches W)) (priceData bytes now) :=
  (keeps_reads keeps_pricer).bind fun _ => (keeps_setPricer hW).bind fun _ => keeps_pure _

theorem gives_priceData {bytes : UInt32} {now fee : Nat} (hg : Gives (priceData bytes now) d fee e) :
    fee = (d.ledger.view.pricer.update bytes (UInt64.ofNat now)).2 ∧ e.ledger.view =
      d.ledger.view.setPricer (d.ledger.view.pricer.update bytes (UInt64.ofNat now)).1 := by
  obtain ⟨p, d₁, hp, hg⟩ := gives_bind.mp hg
  obtain ⟨u, d₂, hset, hg⟩ := gives_bind.mp hg
  obtain ⟨rfl, rfl⟩ := gives_pure.mp hg
  rw [gives_setPricer hset, view_of_reads keeps_pricer hp, (gives_pricer hp).1]
  exact ⟨rfl, rfl⟩

theorem gives_setModuleHash {w : Word} {u : Unit} (hg : Gives (setModuleHash h w) d u e) :
    e.ledger.view = d.ledger.view.setModuleHash h w := (gives_store hg).1

theorem keepsFrom_setRecord {r : Record}
    (hdata : W.slot d.ledger.slot (stateAccount, Layout.recordData h) r.dataWord)
    (hlifetime : W.Open (Layout.recordLifetime h)) (hfee : W.Open (Layout.recordFee h)) :
    KeepsFrom (Desk.Over (Ledger.Reaches W)) (setRecord h r) d := by
  refine (keepsFrom_store fun _ => hdata).bind fun u t _ => ?_
  exact ((keeps_store fun f => hlifetime f _).bind fun _ => keeps_store fun f => hfee f _) t

theorem gives_setRecord {r : Record} {u : Unit} (hg : Gives (setRecord h r) d u e) :
    e.ledger.view = d.ledger.view.setRecord h r := by
  obtain ⟨u₁, d₁, h₁, hg⟩ := gives_bind.mp hg
  obtain ⟨u₂, d₂, h₂, hg⟩ := gives_bind.mp hg
  rw [(gives_store hg).1, (gives_store h₂).1, (gives_store h₁).1]
  rfl

end State
end Inkwell
