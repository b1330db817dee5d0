import Inkwell.Proofs.Provenance
set_option autoImplicit false

/-! The parts of the state beside each other: what is written to one is read back from it, and the
others stay as they are while their slots lie apart. -/

namespace Inkwell

namespace Layout

inductive Part where
  | data
  | lifetime
  | fee
  | moduleHash
  deriving DecidableEq, Repr

def Part.slot : Part → Word → Word
  | .data => recordData
  | .lifetime => recordLifetime
  | .fee => recordFee
  | .moduleHash => Layout.moduleHash

/-- What is kept once, for all programs. -/
def shared : List Word := pricerSlots ++ [paramsWord, pageRamp, feeAccount]

/-- The slots of these code hashes lie apart, from each other and from what is kept once. -/
structure Apart (hash : Word → Prop) : Prop where
  inj {p p' : Part} {h h' : Word} : hash h → hash h' → p.slot h = p'.slot h' → p = p' ∧ h = h'
  shared {p : Part} {h slot : Word} : hash h → slot ∈ shared → p.slot h ≠ slot

theorem nodup_shared : shared.Nodup := by
  simp only [shared, pricerSlots, kept_eq]
  decide

theorem shared_mod : ∀ slot ∈ shared, slot.toNat % 256 < 5 := by
  simp only [shared, pricerSlots, kept_eq]
  simp

theorem slot_mod (p : Part) (h : Word) : (p.slot h).toNat % 256 = h.toNat % 256 := by
  cases p <;> exact Slot.ofKey_mod _ _

/-- A slot that holds no part of the price of data, and nothing that is kept of these code hashes. -/
structure Beside (hash : Word → Prop) (slot : Word) : Prop where
  priced : slot ∉ pricerSlots
  kept : ∀ h, hash h → ∀ p : Part, p.slot h ≠ slot

theorem apart_smallHash : Apart (· = smallHash) where
  inj := by
    rintro p p' h h' rfl rfl heq
    refine ⟨?_, rfl⟩
    cases p <;> cases p' <;> simp only [Part.slot, recordData_smallHash, recordLifetime_smallHash,
      recordFee_smallHash, moduleHash_smallHash] at heq
    all_goals first | rfl | (revert heq; decide)
  shared := by
    rintro p h slot rfl hslot heq
    have hmod := slot_mod p smallHash
    have hshared := shared_mod slot hslot
    rw [heq] at hmod
    have hsmall : smallHash.toNat % 256 = 67 := by decide
    omega

/-- Any slot but those that end like the slots of the package, or like those that are kept once. -/
theorem beside_smallHash {slot : Word} (hshared : 5 ≤ slot.toNat % 256)
    (hother : slot.toNat % 256 ≠ 67) : Beside (· = smallHash) slot where
  priced hslot := by
    have hfirst := shared_mod slot (List.mem_append_left _ hslot)
    omega
  kept := by
    rintro h rfl p rfl
    have hsmall : smallHash.toNat % 256 = 67 := by decide
    exact hother ((slot_mod p smallHash).trans hsmall)

section
variable {hash : Word → Prop} (hA : Apart hash) {h h' : Word}
include hA

theorem Apart.beside_rest {slot : Word} (hslot : slot ∈ [paramsWord, pageRamp, feeAccount]) :
    Beside hash slot where
  priced hpriced := (List.nodup_append.mp nodup_shared).2.2 _ hpriced _ hslot rfl
  kept _ hh _ := hA.shared hh (List.mem_append_right _ hslot)

theorem Apart.slot_ne {p p' : Part} (hh : hash h) (hh' : hash h') (hne : h ≠ h') :
    p.slot h ≠ p'.slot h' := fun heq => hne (hA.inj hh hh' heq).2

theorem Apart.part_ne {p p' : Part} (hh : hash h) (hh' : hash h') (hne : p ≠ p') :
    p.slot h ≠ p'.slot h' := fun heq => hne (hA.inj hh hh' heq).1

theorem Apart.record_ne (hh : hash h) : recordData h ≠ recordLifetime h ∧
    recordFee h ≠ recordLifetime h ∧ recordFee h ≠ recordData h := by
  have hne : ∀ p p' : Part, p ≠ p' → p.slot h ≠ p'.slot h := fun _ _ => hA.part_ne hh hh
  exact ⟨hne .data .lifetime (by decide), hne .fee .lifetime (by decide), hne .fee .data (by decide)⟩

end

end Layout

namespace View

variable {hash : Word → Prop} {v u : View} {slot other w h h' : Word} {r : Record} {p : Pricer}

/-! ### What stays -/

theorem state_setModuleHash_of_ne (hne : Layout.moduleHash h ≠ other) :
    (v.setModuleHash h w).state other = v.state other := state_setState_of_ne hne

theorem state_setPricer_of_ne (hother : ∀ slot ∈ Layout.pricerSlots, slot ≠ other) :
    (v.setPricer p).state other = v.state other := by
  simp only [Layout.pricerSlots, List.forall_mem_cons] at hother
  obtain ⟨h₁, h₂, h₃, h₄, h₅, -⟩ := hother
  unfold setPricer
  rw [state_setState_of_ne h₅, state_setState_of_ne h₄, state_setState_of_ne h₃,
    state_setState_of_ne h₂, state_setState_of_ne h₁]

theorem state_setRecord_of_ne (hother : ∀ p : Layout.Part, p ≠ .moduleHash → p.slot h ≠ other) :
    (v.setRecord h r).state other = v.state other := by
  have hdata : Layout.recordData h ≠ other := hother .data (by decide)
  have hlifetime : Layout.recordLifetime h ≠ other := hother .lifetime (by decide)
  have hfee : Layout.recordFee h ≠ other := hother .fee (by decide)
  unfold setRecord
  rw [state_setState_of_ne hfee, state_setState_of_ne hlifetime, state_setState_of_ne hdata]

/-! ### What is read depends on -/

theorem record?_congr (hsame : ∀ p : Layout.Part, p ≠ .moduleHash →
    u.state (p.slot h) = v.state (p.slot h)) : u.record? h = v.record? h := by
  have hdata : u.state (Layout.recordData h) = _ := hsame .data (by decide)
  have hlifetime : u.state (Layout.recordLifetime h) = _ := hsame .lifetime (by decide)
  have hfee : u.state (Layout.recordFee h) = _ := hsame .fee (by decide)
  unfold record?
  rw [hdata, hlifetime, hfee]
  rfl

theorem pricer_of_pricerSlots (hsame : ∀ slot ∈ Layout.pricerSlots, u.state slot = v.state slot) :
    u.pricer = v.pricer := by
  simp only [Layout.pricerSlots, List.forall_mem_cons] at hsame
  obtain ⟨h₁, h₂, h₃, h₄, h₅, -⟩ := hsame
  unfold pricer stateNat
  rw [h₁, h₂, h₃, h₄, h₅]

section
variable (hsame : ∀ slot ∈ Layout.shared, u.state slot = v.state slot)
include hsame

theorem params_congr : u.params = v.params := by
  unfold params stateNat
  rw [hsame Layout.paramsWord (by simp [Layout.shared]),
    hsame Layout.pageRamp (by simp [Layout.shared])]

theorem feeAccount_congr : u.feeAccount = v.feeAccount := by
  unfold feeAccount
  rw [hsame Layout.feeAccount (by simp [Layout.shared])]

theorem pricer_congr : u.pricer = v.pricer :=
  pricer_of_pricerSlots fun slot hslot => hsame slot (List.mem_append_left _ hslot)

end

/-! ### Parts beside each other -/

theorem record?_setRecord (h₁ : Layout.recordFee h ≠ Layout.recordLifetime h)
    (h₂ : Layout.recordFee h ≠ Layout.recordData h)
    (h₃ : Layout.recordLifetime h ≠ Layout.recordData h) :
    (v.setRecord h r).record? h = if r.dataWord = 0 then none else some r.kept := by
  have hfee : (v.setRecord h r).state (Layout.recordFee h) = r.dataFee := by
    unfold setRecord
    rw [state_setState, if_pos rfl]
  have hlifetime : (v.setRecord h r).state (Layout.recordLifetime h) = r.lifetimeWord := by
    unfold setRecord
    rw [state_setState_of_ne h₁, state_setState, if_pos rfl]
  have hdata : (v.setRecord h r).state (Layout.recordData h) = r.dataWord := by
    unfold setRecord
    rw [state_setState_of_ne h₂, state_setState_of_ne h₃, state_setState, if_pos rfl]
  unfold record?
  dsimp only
  rw [hdata, hlifetime, hfee, Record.ofWords_words]

theorem record?_setRecord_self (hA : Layout.Apart hash) (hh : hash h) :
    (v.setRecord h r).record? h = if r.dataWord = 0 then none else some r.kept := by
  obtain ⟨hdata, hfee, hfee'⟩ := hA.record_ne hh
  exact record?_setRecord hfee hfee' hdata.symm

theorem asmKb_le_of_record (hr : v.record? h = some r) : r.asmKb.toNat ≤ 0xffffff := by
  unfold record? at hr
  dsimp only at hr
  split at hr
  · cases hr
  · rw [← Option.some.inj hr]
    exact Record.asmKb_ofWords_le _ _ _

theorem record?_setRecord_sized (hA : Layout.Apart hash) (hh : hash h) (hsize : r.asmKb ≠ 0)
    (hfits : r.asmKb.toNat ≤ 0xffffff) : (v.setRecord h r).record? h = some r := by
  rw [record?_setRecord_self hA hh, if_neg (Record.dataWord_ne_zero hsize hfits),
    Record.kept_of_le hfits]

theorem pricer_setPricer : (v.setPricer p).pricer = p.orDefault := by
  have hnodup : Layout.pricerSlots.Nodup := (List.nodup_append.mp Layout.nodup_shared).1
  simp only [Layout.pricerSlots, List.nodup_cons, List.mem_cons, List.not_mem_nil, or_false,
    not_or] at hnodup
  obtain ⟨⟨h₁, h₂, h₃, h₄⟩, ⟨h₅, h₆, h₇⟩, ⟨h₈, h₉⟩, h₁₀, -⟩ := hnodup
  have hdemand : (v.setPricer p).stateNat 32 Layout.demand = p.demand.toNat :=
    stateNat_of_state (by decide) p.demand.toNat_lt (by
      simp only [setPricer, state_setState, h₁, h₂, h₃, h₄, if_true, if_false])
  have hbytes : (v.setPricer p).stateNat 32 Layout.bytesPerSecond = p.bytesPerSecond.toNat :=
    stateNat_of_state (by decide) p.bytesPerSecond.toNat_lt (by
      simp only [setPricer, state_setState, h₅, h₆, h₇, if_true, if_false])
  have hlast : (v.setPricer p).stateNat 64 Layout.lastUpdate = p.lastUpdate.toNat :=
    stateNat_of_state (by decide) p.lastUpdate.toNat_lt (by
      simp only [setPricer, state_setState, h₈, h₉, if_true, if_false])
  have hmin : (v.setPricer p).stateNat 32 Layout.minPrice = p.minPrice.toNat :=
    stateNat_of_state (by decide) p.minPrice.toNat_lt (by
      simp only [setPricer, state_setState, h₁₀, if_true, if_false])
  have hinertia : (v.setPricer p).stateNat 32 Layout.inertia = p.inertia.toNat :=
    stateNat_of_state (by decide) p.inertia.toNat_lt (by
      simp only [setPricer, state_setState, if_true])
  unfold pricer
  rw [hdemand, hbytes, hlast, hmin, hinertia]
  simp only [UInt32.ofNat_toNat, UInt64.ofNat_toNat]

theorem pricer_setPricer_update (bytes : UInt32) (now : UInt64) :
    (u.setPricer (v.pricer.update bytes now).1).pricer = (v.pricer.update bytes now).1 := by
  rw [pricer_setPricer]
  unfold Pricer.orDefault
  refine if_neg ?_
  change ¬ (v.pricer.inertia = 0 ∧ v.pricer.minPrice = 0)
  unfold pricer Pricer.orDefault
  split
  · decide
  · assumption

theorem toNat_price (bytes : UInt32) (now : UInt64) :
    (BitVec.ofNat 256 (p.update bytes now).2).toNat = (p.update bytes now).2 := by
  have hprice : (p.update bytes now).2 ≤ max64 := clamp64_le _
  rw [BitVec.toNat_ofNat]
  exact Nat.mod_eq_of_lt (Nat.lt_of_le_of_lt hprice (by decide))

section
variable (hA : Layout.Apart hash) (hh : hash h)
include hA hh

theorem record?_setPricer : (v.setPricer p).record? h = v.record? h :=
  record?_congr fun _ _ => state_setPricer_of_ne fun _ hslot =>
    (hA.shared hh (List.mem_append_left _ hslot)).symm

theorem record?_setModuleHash (hh' : hash h') :
    (v.setModuleHash h' w).record? h = v.record? h :=
  record?_congr fun _ hp => state_setModuleHash_of_ne (hA.part_ne (p := .moduleHash) hh' hh hp.symm)

theorem record?_setRecord_of_ne (hh' : hash h') (hne : h ≠ h') :
    (v.setRecord h' r).record? h = v.record? h :=
  record?_congr fun _ _ => state_setRecord_of_ne fun _ _ => hA.slot_ne hh' hh hne.symm

theorem state_setModuleHash_shared : ∀ slot ∈ Layout.shared,
    (v.setModuleHash h w).state slot = v.state slot :=
  fun _ hslot => state_setModuleHash_of_ne (hA.shared (p := .moduleHash) hh hslot)

theorem state_setRecord_shared : ∀ slot ∈ Layout.shared,
    (v.setRecord h r).state slot = v.state slot :=
  fun _ hslot => state_setRecord_of_ne fun _ _ => hA.shared hh hslot

theorem pricer_setRecord : (v.setRecord h r).pricer = v.pricer :=
  pricer_congr (state_setRecord_shared hA hh)

theorem pricer_setModuleHash {w : Word} : (v.setModuleHash h w).pricer = v.pricer :=
  pricer_congr (state_setModuleHash_shared hA hh)

end

theorem state_setPricer_rest (hslot : slot ∈ [Layout.paramsWord, Layout.pageRamp, Layout.feeAccount]) :
    (v.setPricer p).state slot = v.state slot :=
  state_setPricer_of_ne fun _ hpriced =>
    (List.nodup_append.mp Layout.nodup_shared).2.2 _ hpriced _ hslot

theorem params_setPricer : (v.setPricer p).params = v.params := by
  unfold params stateNat
  rw [state_setPricer_rest (by simp), state_setPricer_rest (by simp)]

theorem feeAccount_setPricer : (v.setPricer p).feeAccount = v.feeAccount := by
  unfold feeAccount
  rw [state_setPricer_rest (by simp)]

/-! ### Beside -/

/-- The slots beside what is sold and what is kept of these code hashes are as they were. -/
def Rests (hash : Word → Prop) (v u : View) : Prop :=
  ∀ slot, Layout.Beside hash slot → u.state slot = v.state slot

theorem rests_setPricer : v.Rests hash (v.setPricer p) := fun _ hslot =>
  state_setPricer_of_ne fun _ hpriced heq => hslot.priced (heq ▸ hpriced)

theorem rests_setRecord (hh : hash h) : v.Rests hash (v.setRecord h r) := fun _ hslot =>
  state_setRecord_of_ne fun p _ => hslot.kept h hh p

theorem rests_setModuleHash (hh : hash h) : v.Rests hash (v.setModuleHash h w) := fun _ hslot =>
  state_setModuleHash_of_ne (hslot.kept h hh .moduleHash)

theorem Rests.trans {t : View} (h : v.Rests hash u) (h' : u.Rests hash t) : v.Rests hash t :=
  fun slot hslot => (h' slot hslot).trans (h slot hslot)

theorem rests_renewed (hh : hash h) : v.Rests hash ((v.setPricer p).setRecord h r) :=
  rests_setPricer.trans (rests_setRecord hh)

theorem rests_activated {b : Block} {a : Activation} (hh : hash h) :
    v.Rests hash (v.activated h b a) := (rests_setModuleHash hh).trans (rests_renewed hh)

theorem Rests.of_slot (h : v.Rests hash u) {u' : View} (hslot : u'.slot = u.slot) :
    v.Rests hash u' := fun slot hbeside => by
  rw [← h slot hbeside, state, hslot, state]

section
variable (hA : Layout.Apart hash) (hrests : v.Rests hash u)
include hA hrests

theorem Rests.params : u.params = v.params := by
  unfold View.params stateNat
  rw [hrests _ (hA.beside_rest (by simp)), hrests _ (hA.beside_rest (by simp))]

theorem Rests.feeAccount : u.feeAccount = v.feeAccount := by
  unfold View.feeAccount
  rw [hrests _ (hA.beside_rest (by simp))]

end

/-! ### Activation -/

section
variable (hA : Layout.Apart hash) (hh : hash h) {b : Block} {a : Activation}
include hA hh

theorem record?_activated_self : (v.activated h b a).record? h =
    if a.record.dataWord = 0 then none else some a.record.kept := record?_setRecord_self hA hh

theorem record?_activated_of_ne (hh' : hash h') (hne : h ≠ h') :
    (v.activated h' b a).record? h = v.record? h := by
  unfold activated
  rw [record?_setRecord_of_ne hA hh hh' hne, record?_setPricer hA hh,
    record?_setModuleHash hA hh hh']

theorem params_activated : (v.activated h b a).params = v.params := (rests_activated hh).params hA

theorem feeAccount_activated : (v.activated h b a).feeAccount = v.feeAccount :=
  (rests_activated hh).feeAccount hA

end

end View
end Inkwell
