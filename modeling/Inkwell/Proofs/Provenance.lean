import Inkwell.Proofs.Bounds
import Inkwell.Proofs.Layout
import Inkwell.Proofs.World
set_option autoImplicit false

/-! Where records and artifacts come from. While Keccak tells apart all that is hashed, what the
state says of a code hash was made from the code that has it, and every artifact that is kept from
its module. -/

namespace Inkwell

def Layout.besides (codeHash : Word) : List Word :=
  pricerSlots ++ [paramsWord, pageRamp, feeAccount, recordLifetime codeHash, recordFee codeHash]

/-- The packages, the modules and the code hashes that a run is about. Keccak tells them apart, and
so their slots lie apart. -/
structure Involved where
  package : Octets → Prop
  module : Octets → Prop
  hash : Word → Prop
  unpacked {code wasm : Octets} : package code → Package.unpack code = .ok wasm → module wasm
  hashed {code : Octets} : package code → hash (keccak code)
  package_inj {code code' : Octets} : package code → package code' → keccak code = keccak code' →
    code = code'
  module_inj {wasm wasm' : Octets} : module wasm → module wasm' → keccak wasm = keccak wasm' →
    wasm = wasm'
  record_inj {h h' : Word} : hash h → hash h' → Layout.recordData h = Layout.recordData h' → h = h'
  moduleHash_inj {h h' : Word} : hash h → hash h' → Layout.moduleHash h = Layout.moduleHash h' →
    h = h'
  record_ne {h h' : Word} : hash h → hash h' → Layout.recordData h ≠ Layout.moduleHash h'
  besides {h h' slot : Word} : hash h → hash h' → slot ∈ Layout.besides h' →
    Layout.recordData h ≠ slot ∧ Layout.moduleHash h ≠ slot

namespace Involved

/-- An artifact of the module in the package that has a code hash. -/
def Makes (E : Involved) (h : Word) (a : Artifact) : Prop := ∃ code wasm s,
  E.package code ∧ h = keccak code ∧ Package.unpack code = .ok wasm ∧ compile wasm s = .ok a

/-- What the slots say of a code hash was made from the code that has it. -/
def Tells (E : Involved) (f : SlotKey → Word) (h : Word) : Prop :=
  f (stateAccount, Layout.recordData h) ≠ 0 → ∃ a, E.Makes h a ∧
    (Record.ofWords (f (stateAccount, Layout.recordData h)) 0 0).Describes a ∧
    f (stateAccount, Layout.moduleHash h) = a.moduleHash

def Genuine (E : Involved) (f : SlotKey → Word) : Prop := ∀ h, E.hash h → E.Tells f h

def Allows (E : Involved) (code : Octets) : Prop :=
  ∀ limit wasm, Package.module? limit code = .ok (some wasm) → E.package code

/-- Writes after which the slots still tell what was made. -/
def writes (E : Involved) : Writes where
  slot f k w := E.Genuine f → E.Genuine (Function.update f k w)
  code := E.Allows

variable {E : Involved} {f : SlotKey → Word} {h h' slot w : Word} {a a' : Artifact}
  {code wasm : Octets} {s s' : CompileSettings}

/-- Two artifacts of one code hash differ in their settings at most. -/
theorem Makes.same (ha : E.Makes h a) (ha' : E.Makes h a') :
    a.moduleHash = a'.moduleHash ∧ a.estimate = a'.estimate := by
  obtain ⟨code, wasm, s, hpackage, rfl, hunpack, hcompile⟩ := ha
  obtain ⟨code', wasm', s', hpackage', hhash, hunpack', hcompile'⟩ := ha'
  cases E.package_inj hpackage hpackage' hhash
  cases hunpack.symm.trans hunpack'
  exact ⟨(compile_ok hcompile).moduleHash.trans (compile_ok hcompile').moduleHash.symm,
    estimate_unique hcompile hcompile'⟩

theorem Makes.describes {r : Record} (ha : E.Makes h a) (ha' : E.Makes h a') (hr : r.Describes a) :
    r.Describes a' := by
  unfold Record.Describes at hr ⊢
  rwa [← (ha.same ha').2]

theorem tells_update (hrecord : Layout.recordData h ≠ slot) (hmodule : Layout.moduleHash h ≠ slot)
    (hf : E.Tells f h) : E.Tells (Function.update f (stateAccount, slot) w) h := by
  unfold Tells
  have hr : (stateAccount, Layout.recordData h) ≠ (stateAccount, slot) := by simpa using hrecord
  have hm : (stateAccount, Layout.moduleHash h) ≠ (stateAccount, slot) := by simpa using hmodule
  rw [Function.update_of_ne hr, Function.update_of_ne hm]
  exact hf

def Beside (E : Involved) (slot : Word) : Prop :=
  ∀ h, E.hash h → Layout.recordData h ≠ slot ∧ Layout.moduleHash h ≠ slot

theorem open_of_beside (hslot : E.Beside slot) : E.writes.Open slot :=
  fun _ _ hf h hh => tells_update (hslot h hh).1 (hslot h hh).2 (hf h hh)

theorem open_besides (hh : E.hash h) (hslot : slot ∈ Layout.besides h) : E.writes.Open slot :=
  open_of_beside fun _ hh' => E.besides hh' hh hslot

theorem plain (hh : E.hash h) : E.writes.Plain h where
  pricer _ hslot := open_besides hh (List.mem_append_left _ hslot)
  lifetime := open_besides hh (List.mem_append_right _ (by simp))
  fee := open_besides hh (List.mem_append_right _ (by simp))

theorem genuine_record {r : Record} (ha : E.Makes h a) (hr : r.Describes a) (hh : E.hash h)
    (hmodule : f (stateAccount, Layout.moduleHash h) = a.moduleHash) (hf : E.Genuine f) :
    E.Genuine (Function.update f (stateAccount, Layout.recordData h) r.dataWord) := by
  intro h' hh'
  by_cases hsame : h' = h
  · subst hsame
    have hne : (stateAccount, Layout.moduleHash h') ≠ (stateAccount, Layout.recordData h') := by
      simpa using (E.record_ne hh' hh').symm
    intro _
    rw [Function.update_self, Function.update_of_ne hne]
    exact ⟨a, ha, (Record.describes_dataWord _ _).mpr hr, hmodule⟩
  · refine tells_update (fun heq => hsame (E.record_inj hh' hh heq)) ?_ (hf h' hh')
    exact (E.record_ne hh hh').symm

theorem genuine_moduleHash (ha : E.Makes h a) (hh : E.hash h) (hf : E.Genuine f) :
    E.Genuine (Function.update f (stateAccount, Layout.moduleHash h) a.moduleHash) := by
  intro h' hh'
  by_cases hsame : h' = h
  · subst hsame
    have hne : (stateAccount, Layout.recordData h') ≠ (stateAccount, Layout.moduleHash h') := by
      simpa using E.record_ne hh' hh'
    unfold Tells
    rw [Function.update_self, Function.update_of_ne hne]
    intro hzero
    obtain ⟨a', ha', hdescribes, -⟩ := hf h' hh' hzero
    exact ⟨a, ha, ha'.describes ha hdescribes, rfl⟩
  · refine tells_update (E.record_ne hh' hh) ?_ (hf h' hh')
    exact fun heq => hsame (E.moduleHash_inj hh' hh heq)

/-- What is found of a code hash describes what was made. -/
theorem makes_of_record {v : View} {r : Record} (hf : E.Genuine f) (hh : E.hash h)
    (hr : v.record? h = some r)
    (hdata : f (stateAccount, Layout.recordData h) = v.state (Layout.recordData h)) :
    ∃ a, E.Makes h a ∧ r.Describes a ∧ f (stateAccount, Layout.moduleHash h) = a.moduleHash := by
  unfold View.record? at hr
  dsimp only at hr
  rw [← hdata] at hr
  by_cases hzero : f (stateAccount, Layout.recordData h) = 0
  · rw [if_pos hzero] at hr
    cases hr
  · rw [if_neg hzero] at hr
    cases hr
    exact hf h hh hzero

theorem genuine_renewed {v : View} {r r' : Record} (hf : E.Genuine f) (hh : E.hash h)
    (hr : v.record? h = some r) (hcontinues : r.Continues r')
    (hdata : f (stateAccount, Layout.recordData h) = v.state (Layout.recordData h)) :
    E.Genuine (Function.update f (stateAccount, Layout.recordData h) r'.dataWord) := by
  obtain ⟨a, ha, hdescribes, hmodule⟩ := makes_of_record hf hh hr hdata
  exact genuine_record ha (hcontinues.describes hdescribes) hh hmodule hf

theorem slot_setPricer (hh : E.hash h) (v : View) (p : Pricer) (hslot : slot = Layout.recordData h ∨
    slot = Layout.moduleHash h) : (v.setPricer p).state slot = v.state slot := by
  have hne : ∀ other ∈ Layout.pricerSlots, (stateAccount, slot) ≠ (stateAccount, other) := by
    intro other hother heq
    have hbesides := E.besides hh hh (List.mem_append_left _ hother)
    rcases hslot with rfl | rfl
    · exact hbesides.1 (Prod.mk.inj heq).2
    · exact hbesides.2 (Prod.mk.inj heq).2
  simp only [Layout.pricerSlots, List.forall_mem_cons] at hne
  obtain ⟨h₁, h₂, h₃, h₄, h₅, -⟩ := hne
  simp only [View.state, View.setPricer, View.setState, View.write]
  rw [Function.update_of_ne h₅, Function.update_of_ne h₄, Function.update_of_ne h₃,
    Function.update_of_ne h₂, Function.update_of_ne h₁]

theorem renews (hh : E.hash h) : E.writes.Renews h where
  toPlain := plain hh
  data _ _ _ hr hcontinues hf := genuine_renewed hf hh hr hcontinues rfl
  priced v p _ _ hr hcontinues hf :=
    genuine_renewed hf hh hr hcontinues (slot_setPricer hh v p (.inl rfl))

theorem enters (ha : E.Makes h a) (hh : E.hash h) : E.writes.Enters h a where
  toPlain := plain hh
  moduleHash _ := genuine_moduleHash ha hh
  data v p _ hdescribes hf := by
    refine genuine_record ha hdescribes hh ?_ hf
    have hpriced := slot_setPricer hh (v.setModuleHash h a.moduleHash) p (.inr rfl)
    exact hpriced.trans (View.state_setModuleHash v h a.moduleHash)

theorem package_of_runs (hrun : E.writes.Runs h wasm) :
    ∃ code, E.package code ∧ h = keccak code ∧ Package.unpack code = .ok wasm := by
  obtain ⟨code, limit, hcode, hhash, hmodule⟩ := hrun
  exact ⟨code, hcode limit wasm hmodule, hhash, Package.unpack_of_module? hmodule⟩

theorem hash_of_runs (hrun : E.writes.Runs h wasm) : E.hash h := by
  obtain ⟨code, hpackage, rfl, -⟩ := package_of_runs hrun
  exact E.hashed hpackage

theorem module_of_runs (hrun : E.writes.Runs h wasm) : E.module wasm := by
  obtain ⟨code, hpackage, -, hunpack⟩ := package_of_runs hrun
  exact E.unpacked hpackage hunpack

/-- What a cache serves for the module of a program is an artifact of the program. -/
theorem makes_of_load {c : Cache} {keep : Bool} {l : Loaded} (hrun : E.writes.Runs h wasm)
    (hc : Cache.Genuine E.module c) (hl : (c.load compile wasm s keep).1 = .ok l) :
    E.Makes h l.artifact := by
  obtain ⟨code, hpackage, hhash, hunpack⟩ := package_of_runs hrun
  obtain ⟨s', hcompile, -⟩ := hc.load_compiled (E.unpacked hpackage hunpack)
    (fun _ _ => E.module_inj) hl
  exact ⟨code, wasm, s', hpackage, hhash, hunpack, hcompile⟩

/-- The rules under which nothing is kept but what was made. -/
def rules (E : Involved) : Rules where
  writes := E.writes
  cache := Cache.Genuine E.module
  none _ _ h := by cases h
  startBlock block hc := hc.startBlock block
  touchRecent block module retain hc := hc.touchRecent block module retain
  evict module hc := hc.evict module
  load _ keep hrun hc := hc.load (module_of_runs hrun) keep
  enters hrun hc hl := enters (makes_of_load hrun hc hl) (hash_of_runs hrun)
  renews hrun := renews (hash_of_runs hrun)

end Involved
/-! ### A single package -/

def smallPackage : Octets := Package.pack smallModule

def smallHash : Word := 0x2a881fd7e0e5f25b66600fe29ccfc247bf1dfc3fb463754704cb09062c15ca43

theorem keccak_smallPackage : keccak smallPackage = smallHash := by
  rw [keccak, Keccak.digest_eq]
  decide +kernel

theorem recordData_smallHash : Layout.recordData smallHash =
    0x243d1613ede0417aa2343ab00306882b9923afc045995b45c6610c9447afab43 := by
  simp only [Layout.recordData, Layout.names_eq, Slot.ofKey, Keccak.digest_eq]
  decide +kernel

theorem moduleHash_smallHash : Layout.moduleHash smallHash =
    0x905f7abceeed640a0c9b5e719baaeb56eef61cf2536fc46390e62946457e6743 := by
  simp only [Layout.moduleHash, Layout.names_eq, Slot.ofKey, Keccak.digest_eq]
  decide +kernel

theorem recordLifetime_smallHash : Layout.recordLifetime smallHash =
    0x87d6ef0ad7004db3794a624d5e77d05b64795120d4aa78a8e94efecc0e3a0e43 := by
  simp only [Layout.recordLifetime, Layout.names_eq, Slot.ofKey, Keccak.digest_eq]
  decide +kernel

theorem recordFee_smallHash : Layout.recordFee smallHash =
    0x36aabcda1671eab01d3334c2d6dcd4923ef3d5b7f07bd0f5a76cd64c06525c43 := by
  simp only [Layout.recordFee, Layout.names_eq, Slot.ofKey, Keccak.digest_eq]
  decide +kernel

theorem besides_smallHash {slot : Word} (h : slot ∈ Layout.besides smallHash) :
    Layout.recordData smallHash ≠ slot ∧ Layout.moduleHash smallHash ≠ slot := by
  have hlast : ∀ space key : Word, key.toNat % 256 < 5 →
      Layout.recordData smallHash ≠ Slot.ofKey space key ∧
        Layout.moduleHash smallHash ≠ Slot.ofKey space key := by
    intro space key hkey
    have hmod := Slot.ofKey_mod space key
    refine ⟨fun heq => ?_, fun heq => ?_⟩
    · rw [← heq, recordData_smallHash] at hmod
      simp at hmod
      omega
    · rw [← heq, moduleHash_smallHash] at hmod
      simp at hmod
      omega
  simp only [Layout.besides, Layout.pricerSlots, List.cons_append, List.nil_append, List.mem_cons,
    List.not_mem_nil, or_false] at h
  rcases h with rfl | rfl | rfl | rfl | rfl | rfl | rfl | rfl | rfl | rfl
  · exact hlast _ _ (by decide)
  · exact hlast _ _ (by decide)
  · exact hlast _ _ (by decide)
  · exact hlast _ _ (by decide)
  · exact hlast _ _ (by decide)
  · exact hlast _ _ (by decide)
  · exact hlast _ _ (by decide)
  · exact hlast _ _ (by decide)
  · rw [recordData_smallHash, moduleHash_smallHash, recordLifetime_smallHash]
    exact ⟨by decide, by decide⟩
  · rw [recordData_smallHash, moduleHash_smallHash, recordFee_smallHash]
    exact ⟨by decide, by decide⟩

def Involved.small : Involved where
  package code := code = smallPackage
  module wasm := Package.unpack smallPackage = .ok wasm
  hash h := h = smallHash
  unpacked hcode hunpack := hcode ▸ hunpack
  hashed hcode := hcode ▸ keccak_smallPackage
  package_inj hcode hcode' _ := hcode.trans hcode'.symm
  module_inj hwasm hwasm' _ := Except.ok.inj (hwasm.symm.trans hwasm')
  record_inj hh hh' _ := hh.trans hh'.symm
  moduleHash_inj hh hh' _ := hh.trans hh'.symm
  record_ne := by
    rintro h h' rfl rfl
    rw [recordData_smallHash, moduleHash_smallHash]
    decide
  besides := by
    rintro h h' slot rfl rfl hslot
    exact besides_smallHash hslot

end Inkwell
