import Inkwell.Proofs.Cells
set_option autoImplicit false

/-! What the state is installed with is what it tells, but for the values that its words have no room
for and those that stand for the defaults. -/

namespace Inkwell

namespace Params

def fields (p : Params) : List (Nat × Nat) :=
  [(2, p.version.toNat), (3, min p.inkPrice.toNat maxInkPrice), (4, p.maxStackDepth.toNat),
   (2, p.freePages.toNat), (2, p.pageGas.toNat), (2, p.pageLimit.toNat), (1, p.minInitGas.toNat),
   (1, p.minCachedInitGas.toNat), (1, p.initCostScalar.toNat), (1, p.cachedCostScalar.toNat),
   (2, p.expiryDays.toNat), (2, p.keepaliveDays.toNat), (2, p.blockCacheSize.toNat),
   (4, p.maxWasmSize.toNat)]

theorem toWord_eq (p : Params) : p.toWord = Word.pack p.fields := rfl

def widths : List Nat := [2, 3, 4, 2, 2, 2, 1, 1, 1, 1, 2, 2, 2, 4]

theorem width_take_fields (p : Params) (i : Nat) :
    Word.width (p.fields.take i) = (widths.take i).sum := by
  have hwidths : p.fields.map (·.1) = widths := rfl
  rw [Word.width, List.map_take, hwidths]

theorem field_toWord {p : Params} (i : Nat) {offset w n : Nat} {after : List (Nat × Nat)}
    (h : p.fields.drop i = (w, n) :: after) (hoffset : (widths.take i).sum = offset)
    (hn : n < 256 ^ w) : p.toWord.field offset w = n := by
  have hfields : p.fields = p.fields.take i ++ (w, n) :: after := by
    rw [← h, List.take_append_drop]
  have hwidth : Word.width p.fields ≤ 32 := (width_take_fields p 14).trans_le (by decide)
  rw [hfields] at hwidth
  rw [toWord_eq, ← hoffset, ← width_take_fields]
  nth_rewrite 1 [hfields]
  rw [Word.field_pack _ _ _ _ hwidth, Nat.mod_eq_of_lt hn]

/-- What the packed word says: there is room for three bytes of the price of ink, and zero stands for
the defaults. -/
def packed (p : Params) : Params :=
  if p.toWord = 0 then {}
  else { p with
    inkPrice := UInt32.ofNat (min p.inkPrice.toNat maxInkPrice)
    pageRamp := ({} : Params).pageRamp }

theorem ofWord_toWord (p : Params) : ofWord p.toWord = p.packed := by
  have hink : min p.inkPrice.toNat maxInkPrice < 256 ^ 3 :=
    (Nat.min_le_right _ _).trans_lt (by decide)
  have h₀ : p.toWord.field 0 2 = _ := field_toWord 0 rfl (by decide) p.version.toNat_lt
  have h₁ : p.toWord.field 2 3 = _ := field_toWord 1 rfl (by decide) hink
  have h₂ : p.toWord.field 5 4 = _ := field_toWord 2 rfl (by decide) p.maxStackDepth.toNat_lt
  have h₃ : p.toWord.field 9 2 = _ := field_toWord 3 rfl (by decide) p.freePages.toNat_lt
  have h₄ : p.toWord.field 11 2 = _ := field_toWord 4 rfl (by decide) p.pageGas.toNat_lt
  have h₅ : p.toWord.field 13 2 = _ := field_toWord 5 rfl (by decide) p.pageLimit.toNat_lt
  have h₆ : p.toWord.field 15 1 = _ := field_toWord 6 rfl (by decide) p.minInitGas.toNat_lt
  have h₇ : p.toWord.field 16 1 = _ := field_toWord 7 rfl (by decide) p.minCachedInitGas.toNat_lt
  have h₈ : p.toWord.field 17 1 = _ := field_toWord 8 rfl (by decide) p.initCostScalar.toNat_lt
  have h₉ : p.toWord.field 18 1 = _ := field_toWord 9 rfl (by decide) p.cachedCostScalar.toNat_lt
  have h₁₀ : p.toWord.field 19 2 = _ := field_toWord 10 rfl (by decide) p.expiryDays.toNat_lt
  have h₁₁ : p.toWord.field 21 2 = _ := field_toWord 11 rfl (by decide) p.keepaliveDays.toNat_lt
  have h₁₂ : p.toWord.field 23 2 = _ := field_toWord 12 rfl (by decide) p.blockCacheSize.toNat_lt
  have h₁₃ : p.toWord.field 25 4 = _ := field_toWord 13 rfl (by decide) p.maxWasmSize.toNat_lt
  rw [ofWord, packed, h₀, h₁, h₂, h₃, h₄, h₅, h₆, h₇, h₈, h₉, h₁₀, h₁₁, h₁₂, h₁₃]
  simp only [UInt8.ofNat_toNat, UInt16.ofNat_toNat, UInt32.ofNat_toNat]

/-- The parameters as they are read back: a ramp of zero stands for the default. -/
def kept (p : Params) : Params :=
  if p.pageRamp = 0 then p.packed else { p.packed with pageRamp := p.pageRamp }

theorem kept_of_fits {p : Params} (hink : p.inkPrice.toNat ≤ maxInkPrice) (hword : p.toWord ≠ 0)
    (hramp : p.pageRamp ≠ 0) : p.kept = p := by
  unfold kept packed
  rw [if_neg hramp, if_neg hword, Nat.min_eq_left hink, UInt32.ofNat_toNat]

end Params

theorem AddressSet.eraseDups_of_nodup {as : List Address} (h : as.Nodup) : as.eraseDups = as := by
  induction as with
  | nil => rfl
  | cons a as ih =>
    obtain ⟨ha, h⟩ := List.nodup_cons.mp h
    have hfilter : (as.filter fun b => !b == a) = as := by
      refine List.filter_eq_self.mpr fun b hb => ?_
      have hne : b ≠ a := fun heq => ha (heq ▸ hb)
      simp [hne]
    rw [List.eraseDups_cons, hfilter, ih h]

namespace StateParams

/-- What the state tells after it was installed: a manager that is named again is kept where it was
named first. -/
def kept (p : StateParams) : StateParams where
  feeAccount := p.feeAccount
  params := p.params.kept
  pricer := p.pricer.orDefault
  managers := p.managers.eraseDups

theorem kept_of_fits {p : StateParams} (hink : p.params.inkPrice.toNat ≤ Params.maxInkPrice)
    (hword : p.params.toWord ≠ 0) (hramp : p.params.pageRamp ≠ 0)
    (hpricer : ¬ (p.pricer.inertia = 0 ∧ p.pricer.minPrice = 0)) (hmanagers : p.managers.Nodup) :
    p.kept = p := by
  unfold kept Pricer.orDefault
  rw [Params.kept_of_fits hink hword hramp, if_neg hpricer, AddressSet.eraseDups_of_nodup hmanagers]

end StateParams

/-! ### What is kept once -/

namespace View

variable {v : View} {p : Params} {q : Pricer} {s : StateParams} {a : Address} {slot : Word}

def setFeeAccount (v : View) (a : Address) : View := v.setState Layout.feeAccount a.toWord

def setParams (v : View) (p : Params) : View :=
  (v.setState Layout.paramsWord p.toWord).setState Layout.pageRamp
    (BitVec.ofNat 256 p.pageRamp.toNat)

def installed (v : View) (s : StateParams) : View :=
  ((v.setFeeAccount s.feeAccount).setParams s.params).setPricer s.pricer

theorem params_setParams : (v.setParams p).params = p.kept := by
  have hne : Layout.pageRamp ≠ Layout.paramsWord := by
    rw [Layout.kept_eq.1, Layout.kept_eq.2.1]
    decide
  have hword : (v.setParams p).state Layout.paramsWord = p.toWord := by
    rw [setParams, state_setState_of_ne hne, state_setState, if_pos rfl]
  have hramp : (v.setParams p).stateNat 64 Layout.pageRamp = p.pageRamp.toNat := by
    refine stateNat_of_state (by decide) p.pageRamp.toNat_lt ?_
    rw [setParams, state_setState, if_pos rfl]
  have hzero : p.pageRamp.toNat = 0 ↔ p.pageRamp = 0 := UInt64.toNat_inj (b := 0)
  unfold params Params.kept
  dsimp only
  rw [hword, hramp, UInt64.ofNat_toNat, Params.ofWord_toWord]
  exact if_congr hzero rfl rfl

/-- What is kept for all programs is what was installed. -/
theorem installed_eq : (v.installed s).feeAccount = s.feeAccount ∧
    (v.installed s).params = s.params.kept ∧ (v.installed s).pricer = s.pricer.orDefault := by
  have hfee : ((v.setFeeAccount s.feeAccount).setParams s.params).feeAccount = s.feeAccount := by
    have hword : Layout.paramsWord ≠ Layout.feeAccount := by
      rw [Layout.kept_eq.1, Layout.kept_eq.2.2.1]
      decide
    have hramp : Layout.pageRamp ≠ Layout.feeAccount := by
      rw [Layout.kept_eq.2.1, Layout.kept_eq.2.2.1]
      decide
    unfold feeAccount setParams setFeeAccount
    rw [state_setState_of_ne hramp, state_setState_of_ne hword, state_setState, if_pos rfl,
      Address.ofWord_toWord]
  unfold installed
  rw [feeAccount_setPricer, params_setPricer]
  exact ⟨hfee, params_setParams, pricer_setPricer⟩

theorem state_installed_of_notMem (h : slot ∉ Layout.shared) :
    (v.installed s).state slot = v.state slot := by
  have hne : ∀ other ∈ Layout.shared, other ≠ slot := fun _ hother heq => h (heq ▸ hother)
  have hword : Layout.paramsWord ≠ slot := hne _ (by simp [Layout.shared])
  have hramp : Layout.pageRamp ≠ slot := hne _ (by simp [Layout.shared])
  have hfee : Layout.feeAccount ≠ slot := hne _ (by simp [Layout.shared])
  unfold installed
  rw [state_setPricer_of_ne fun other hother => hne other (List.mem_append_left _ hother)]
  unfold setParams setFeeAccount
  rw [state_setState_of_ne hramp, state_setState_of_ne hword, state_setState_of_ne hfee]

end View

namespace State

open Access Layout

def fixedKeys : List Key := feeKeys ++ paramsKeys ++ pricerKeys

def installKeys (s : StateParams) : List Key :=
  fixedKeys ++ managerKeys s.managers.length s.managers

theorem slotOf_shared : ∀ slot ∈ shared, SlotOf fixedKeys slot := by
  have hfixed : ∀ k ∈ fixedKeys, SlotOf fixedKeys k.slot := fun k hk => ⟨k, hk, rfl⟩
  simp only [fixedKeys, feeKeys, paramsKeys, pricerKeys, List.cons_append, List.nil_append,
    List.forall_mem_cons] at hfixed
  obtain ⟨hfee, hword, hramp, hdemand, hbytes, hlast, hmin, hinertia, -⟩ := hfixed
  simp only [shared, pricerSlots, List.cons_append, List.nil_append, List.forall_mem_cons]
  exact ⟨hdemand, hbytes, hlast, hmin, hinertia, hword, hramp, hfee, by simp⟩

section
variable {n : Nat} {as : List Address}

theorem cell_of_managerKeys {k : Key} (h : k ∈ managerKeys n as) : k.cell = .managers := by
  rcases List.mem_append.mp h with h | h <;> obtain ⟨x, -, rfl⟩ := List.mem_map.mp h <;> rfl

theorem notMem_shared {slot : Word} (hsep : Distinct (fixedKeys ++ managerKeys n as))
    (hslot : managers.Uses n (· ∈ as) slot) : slot ∉ shared := by
  intro hshared
  obtain ⟨k, hk, rfl⟩ := slotOf_shared _ hshared
  obtain ⟨k', hk', heq⟩ := slotOf_uses hslot
  have hsame := hsep k' (List.mem_append_right _ hk') k (List.mem_append_left _ hk) heq
  subst hsame
  have hcell : ∀ k ∈ fixedKeys, k.cell ≠ .managers := by decide
  exact hcell k' hk (cell_of_managerKeys hk')

end

variable {s : StateParams} {d e : Desk} {l : Ledger} {u : Unit} {rest : Nat}

/-! ### Installing -/

theorem gives_install (hg : Gives (install s) d u e) :
    ∃ d', d.ledger.Reaches .any d'.ledger ∧ d'.ledger.view = d.ledger.view.installed s ∧
      Gives (managers.performs (s.managers.map .add)) d' u e := by
  obtain ⟨u₁, d₁, h₁, hg⟩ := gives_bind.mp hg
  obtain ⟨u₂, d₂, h₂, hg⟩ := gives_bind.mp hg
  obtain ⟨u₃, d₃, h₃, hg⟩ := gives_bind.mp hg
  obtain ⟨u₄, d₄, h₄, h₂⟩ := gives_bind.mp h₂
  have hstore : ∀ {slot w d u e}, Gives (store slot w) d u e → d.ledger.Reaches .any e.ledger :=
    fun hstore => (keeps_store (W := .any) fun _ => trivial).of_gives hstore
  have hpricer : d₂.ledger.Reaches .any d₃.ledger :=
    (keeps_setPricer (W := .any) fun _ _ _ _ => trivial).of_gives h₃
  refine ⟨d₃, (((hstore h₁).trans (hstore h₄)).trans (hstore h₂)).trans hpricer, ?_, ?_⟩
  · rw [gives_setPricer h₃, (gives_store h₂).1, (gives_store h₄).1, (gives_store h₁).1]
    rfl
  · rwa [AddressSet.performs_adds]

def installGas (s : StateParams) : Nat :=
  8 * Gas.write + ((s.managers.map AddressSet.Op.add).map AddressSet.Op.gas).sum

theorem ready_setPricer {S : Word → Prop} {p : Pricer} (hS : ∀ k ∈ pricerKeys, S k.slot)
    (hd : d.Ready S (5 * Gas.write + rest)) : ∃ e, Gives (setPricer p) d ⟨⟩ e ∧ e.Ready S rest := by
  simp only [pricerKeys, List.forall_mem_cons] at hS
  obtain ⟨h₁, h₂, h₃, h₄, h₅, -⟩ := hS
  have hd : d.Ready S (Gas.write + (Gas.write + (Gas.write + (Gas.write + (Gas.write + rest))))) :=
    hd.mono (by omega)
  obtain ⟨d₁, hg₁, hd₁⟩ := ready_write hd h₁
  obtain ⟨d₂, hg₂, hd₂⟩ := ready_write hd₁ h₂
  obtain ⟨d₃, hg₃, hd₃⟩ := ready_write hd₂ h₃
  obtain ⟨d₄, hg₄, hd₄⟩ := ready_write hd₃ h₄
  obtain ⟨d₅, hg₅, hd₅⟩ := ready_write hd₄ h₅
  exact ⟨d₅, hg₁.bind (hg₂.bind (hg₃.bind (hg₄.bind hg₅))), hd₅⟩

section
variable (hshort : s.managers.length < 2 ^ 64) (hsep : Distinct (installKeys s))
  (hempty : ∀ slot, managers.Uses s.managers.length (· ∈ s.managers) slot →
    d.ledger.view.state slot = 0)
include hshort hsep hempty

theorem managers_fresh : managers.Apart s.managers.length (· ∈ s.managers) ∧
    (∀ o ∈ s.managers.map AddressSet.Op.add, o.address ∈ s.managers) ∧
    (([] ++ s.managers.map AddressSet.Op.add).map AddressSet.Op.address).dedup.length ≤
      s.managers.length ∧
    (d.ledger.view.installed s).Lists managers s.managers.length (· ∈ s.managers)
      (AddressSet.listed []) := by
  refine ⟨?_, ?_, ?_, AddressSet.lists_nil fun slot hslot => ?_⟩
  · exact managers_apart (hshort.trans (by decide)) (hsep.mono (List.subset_append_right _ _))
  · rintro o ho
    obtain ⟨a, ha, rfl⟩ := List.mem_map.mp ho
    exact ha
  · have hlength := (List.dedup_sublist ((s.managers.map AddressSet.Op.add).map
      AddressSet.Op.address)).length_le
    simpa using hlength
  · rw [View.state_installed_of_notMem (notMem_shared hsep hslot), hempty slot hslot]

theorem ready_install (hd : d.Ready (SlotOf (installKeys s)) (installGas s)) :
    ∃ e, Gives (install s) d ⟨⟩ e := by
  obtain ⟨hapart, hops, hfits, hnil⟩ := managers_fresh hshort hsep hempty
  have hfixed : ∀ k ∈ fixedKeys, SlotOf (installKeys s) k.slot :=
    fun k hk => ⟨k, List.mem_append_left _ hk, rfl⟩
  simp only [fixedKeys, feeKeys, paramsKeys, List.cons_append, List.nil_append,
    List.forall_mem_cons] at hfixed
  obtain ⟨hfee, hword, hramp, hpricer⟩ := hfixed
  have hd : d.Ready (SlotOf (installKeys s)) (Gas.write + (Gas.write + (Gas.write +
      (5 * Gas.write + ((s.managers.map AddressSet.Op.add).map AddressSet.Op.gas).sum)))) :=
    hd.mono (by unfold installGas; omega)
  obtain ⟨d₁, h₁, hd₁⟩ := ready_write hd hfee
  obtain ⟨d₂, h₂, hd₂⟩ := ready_write hd₁ hword
  obtain ⟨d₃, h₃, hd₃⟩ := ready_write hd₂ hramp
  obtain ⟨d₄, h₄, hd₄⟩ := ready_setPricer hpricer hd₃
  have hview : d₄.ledger.view = d.ledger.view.installed s := by
    rw [gives_setPricer h₄, (gives_store h₃).1, (gives_store h₂).1, (gives_store h₁).1]
    rfl
  have hset : d₄.Ready (managers.Uses s.managers.length (· ∈ s.managers))
      ((s.managers.map AddressSet.Op.add).map AddressSet.Op.gas).sum := by
    refine ⟨hd₄.thawed, hd₄.gas, fun slot hslot => hd₄.known slot ?_⟩
    obtain ⟨k, hk, heq⟩ := slotOf_uses hslot
    exact ⟨k, List.mem_append_right _ hk, heq⟩
  rw [← hview] at hnil
  obtain ⟨e, he⟩ := AddressSet.ready_performs [] hapart hops hfits (hfits.trans_lt hshort) hnil hset
  rw [AddressSet.performs_adds] at he
  exact ⟨e, h₁.bind ((h₂.bind h₃).bind (h₄.bind he))⟩

theorem view_install (hg : Gives (install s) d u e) :
    d.ledger.Reaches .any e.ledger ∧ e.ledger.view.feeAccount = s.kept.feeAccount ∧
      e.ledger.view.params = s.kept.params ∧ e.ledger.view.pricer = s.kept.pricer ∧
      e.ledger.view.Lists managers s.managers.length (· ∈ s.managers) s.kept.managers := by
  obtain ⟨hapart, hops, hfits, hnil⟩ := managers_fresh hshort hsep hempty
  obtain ⟨d', hreaches, hview, hg⟩ := gives_install hg
  obtain ⟨hfee, hparams, hpricer⟩ := d.ledger.view.installed_eq (s := s)
  rw [← hview] at hnil hfee hparams hpricer
  have hsame : ∀ slot ∈ shared, e.ledger.view.state slot = d'.ledger.view.state slot :=
    fun slot hslot => AddressSet.state_performs [] hapart hops hfits (hfits.trans_lt hshort) hnil
      (fun huse => notMem_shared hsep huse hslot) hg
  have hlists := AddressSet.lists_performs [] hapart hops hfits (hfits.trans_lt hshort) hnil hg
  rw [List.nil_append, AddressSet.listed_adds] at hlists
  exact ⟨hreaches.trans ((AddressSet.reaches_performs _ _).of_gives hg),
    (View.feeAccount_congr hsame).trans hfee, (View.params_congr hsame).trans hparams,
    (View.pricer_congr hsame).trans hpricer, hlists⟩

end

/-! ### Telling -/

theorem answers_pricer (hl : ∀ slot ∈ pricerSlots, l.Known slot) :
    Answers pricer l (5 * Gas.read) l.view.pricer := by
  simp only [pricerSlots, List.forall_mem_cons] at hl
  obtain ⟨h₁, h₂, h₃, h₄, h₅, -⟩ := hl
  have hread : ∀ n, (n + 1) * Gas.read = Gas.read + n * Gas.read := fun n => by
    rw [Nat.add_mul, Nat.one_mul, Nat.add_comm]
  unfold pricer View.pricer
  rw [hread 4]
  refine (answers_loadNat h₁).bind keeps_loadNat ?_
  rw [hread 3]
  refine (answers_loadNat h₂).bind keeps_loadNat ?_
  rw [hread 2]
  refine (answers_loadNat h₃).bind keeps_loadNat ?_
  rw [hread 1]
  refine (answers_loadNat h₄).bind keeps_loadNat ?_
  rw [hread 0, Nat.zero_mul]
  exact (answers_loadNat h₅).bind keeps_loadNat (answers_pure _)

/-- What is told of the state costs a read for each slot but those of the parameters. -/
def summaryGas (managers : List Address) : Nat :=
  Gas.readParams + (7 + managers.length) * Gas.read

theorem answers_summary {n : Nat} {A : Address → Prop} {as : List Address}
    (hshared : ∀ slot ∈ shared, l.Known slot) (hknown : ∀ slot, managers.Uses n A slot → l.Known slot)
    (h : l.view.Lists managers n A as) : Answers summary l (summaryGas as)
      ⟨l.view.feeAccount, l.view.params, l.view.pricer, as⟩ := by
  have hparams : l.KnowsParams :=
    ⟨hshared _ (by simp [shared]), hshared _ (by simp [shared])⟩
  have hcost : summaryGas as = Gas.read + (Gas.readParams + (5 * Gas.read +
      ((Gas.read + as.length * Gas.read) + 0))) := by
    rw [summaryGas, Nat.add_mul]
    omega
  have hfee : Answers feeAccount l Gas.read l.view.feeAccount :=
    answers_feeAccount (hshared _ (by simp [shared]))
  have hpricer : Answers pricer l (5 * Gas.read) l.view.pricer :=
    answers_pricer fun slot hslot => hshared slot (List.mem_append_left _ hslot)
  rw [hcost]
  exact hfee.bind keeps_feeAccount ((answers_params hparams).bind keeps_params
    (hpricer.bind keeps_pricer
      ((AddressSet.answers_all h hknown).bind keeps_all (answers_pure _))))

/-- The state tells what it was installed with, while its keys share no slots and nothing is kept yet
where the managers will be: but a price of ink that the word has no room for is the largest it has room
for, a zero word, a zero ramp and a pricer without inertia and least price are the defaults, and who
manages twice does so once. So whatever is none of these is told as it is. Who has enough to pay with
gets to the end. -/
theorem installed_told {s : StateParams} {d : Desk} (hshort : s.managers.length < 2 ^ 64)
    (hsep : Distinct (installKeys s))
    (hempty : ∀ slot, SlotOf (managerKeys s.managers.length s.managers) slot →
      d.ledger.view.state slot = 0)
    (hknown : ∀ slot, SlotOf (installKeys s) slot → d.ledger.Known slot) :
    (d.frozen = false → (∀ left ∈ d.gas, installGas s ≤ left) → ∃ e, Gives (install s) d ⟨⟩ e) ∧
    (∀ e, Gives (install s) d ⟨⟩ e →
      Answers summary e.ledger (summaryGas s.kept.managers) s.kept) ∧
    (s.params.inkPrice.toNat ≤ Params.maxInkPrice → s.params.toWord ≠ 0 → s.params.pageRamp ≠ 0 →
      ¬ (s.pricer.inertia = 0 ∧ s.pricer.minPrice = 0) → s.managers.Nodup → s.kept = s) := by
  have hfresh : ∀ slot, managers.Uses s.managers.length (· ∈ s.managers) slot →
      d.ledger.view.state slot = 0 := fun slot hslot => hempty slot (slotOf_uses hslot)
  refine ⟨fun hthawed hgas => ready_install hshort hsep hfresh ⟨hthawed, hgas, hknown⟩,
    fun e he => ?_, StateParams.kept_of_fits⟩
  obtain ⟨hreaches, hfee, hparams, hpricer, hlists⟩ := view_install hshort hsep hfresh he
  have hends : ∀ k ∈ installKeys s, e.ledger.Known k.slot :=
    fun k hk => (hknown _ ⟨k, hk, rfl⟩).reaches hreaches
  have hshared : ∀ slot ∈ shared, e.ledger.Known slot := by
    intro slot hslot
    obtain ⟨k, hk, rfl⟩ := slotOf_shared slot hslot
    exact hends k (List.mem_append_left _ hk)
  have huses : ∀ slot, managers.Uses s.managers.length (· ∈ s.managers) slot →
      e.ledger.Known slot := by
    intro slot hslot
    obtain ⟨k, hk, rfl⟩ := slotOf_uses hslot
    exact hends k (List.mem_append_right _ hk)
  have hanswer := answers_summary hshared huses hlists
  rwa [hfee, hparams, hpricer] at hanswer

/-- Parameters that are kept otherwise in each of the ways there are. -/
def smallState : StateParams where
  feeAccount := 7
  params := { inkPrice := 0x1000000, pageRamp := 0 }
  pricer := { inertia := 0, minPrice := 0 }
  managers := [5, 6, 5]

theorem managerSlots_eq :
    [0, 1, 2, 3].map managers.elementSlot ++ [5, 6].map managers.indexSlot =
      [0xc3feb5bda5de37f032af420c09aac98a021186010eb68d237141a37b0bcb1100,
       0xc3feb5bda5de37f032af420c09aac98a021186010eb68d237141a37b0bcb1101,
       0xc3feb5bda5de37f032af420c09aac98a021186010eb68d237141a37b0bcb1102,
       0xc3feb5bda5de37f032af420c09aac98a021186010eb68d237141a37b0bcb1103,
       0x349483ea858de5f7d616b5ea159cdc226cc1693f42f95922489a7bc8f4bdf805,
       0x349483ea858de5f7d616b5ea159cdc226cc1693f42f95922489a7bc8f4bdf806] := by
  have hindex : ∀ a, managers.indexSlot a = Slot.ofKey managerIndex a.toWord := fun _ => rfl
  have helement : ∀ i, managers.elementSlot i = Slot.ofKey Layout.managers (BitVec.ofNat 256 i) :=
    fun _ => rfl
  simp only [List.map_cons, List.map_nil, hindex, helement, managerIndex_eq, names_eq, Slot.ofKey,
    Keccak.digest_eq]
  decide +kernel

theorem distinct_small : Distinct (installKeys smallState) := by
  have hslots : (fixedKeys ++ managerKeys 3 [5, 6]).map Key.slot =
      [Layout.feeAccount, paramsWord, pageRamp, demand, bytesPerSecond, lastUpdate, minPrice,
        inertia] ++ ([0, 1, 2, 3].map managers.elementSlot ++ [5, 6].map managers.indexSlot) := rfl
  have hnodup : ((fixedKeys ++ managerKeys 3 [5, 6]).map Key.slot).Nodup := by
    rw [hslots, managerSlots_eq]
    simp only [kept_eq]
    decide
  exact Distinct.mono (fun _ hk _ hk' => List.inj_on_of_nodup_map hnodup hk hk') (by decide)

theorem installed_told_small : Distinct (installKeys smallState) ∧
    ∃ e, Gives (install smallState) AddressSet.blankDesk ⟨⟩ e ∧
      Answers summary e.ledger (summaryGas [5, 6])
        { feeAccount := 7, params := { inkPrice := 0xffffff }, managers := [5, 6] } := by
  have hempty : ∀ slot, AddressSet.blankDesk.ledger.view.state slot = 0 := fun _ => rfl
  obtain ⟨hends, htold, -⟩ := installed_told (s := smallState) (by decide) distinct_small
    (fun slot _ => hempty slot) fun slot _ => AddressSet.known_blank slot
  obtain ⟨e, he⟩ := hends rfl fun _ hleft => by cases hleft
  have hkept : smallState.kept =
      { feeAccount := 7, params := { inkPrice := 0xffffff }, managers := [5, 6] } := by decide
  have hanswer := htold e he
  rw [hkept] at hanswer
  exact ⟨distinct_small, e, he, hanswer⟩

end State
end Inkwell
