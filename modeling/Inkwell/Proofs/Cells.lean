import Inkwell.Proofs.AddressSets
import Inkwell.Proofs.Spaces
set_option autoImplicit false

/-! The state as separate maps: a change to one of its parts, whether it succeeds or not, changes
nothing that is read of the others. -/

namespace Inkwell

namespace Layout

/-- The parts of the state, each a map of its own. -/
inductive Cell where
  | feeAccount
  | params
  | pricer
  | managers
  | record (codeHash : Word)
  | moduleHash (codeHash : Word)
  deriving DecidableEq, Repr

namespace Key

def cell (k : Key) : Cell :=
  match k.space with
  | .root => .feeAccount
  | .params => .params
  | .pricer => .pricer
  | .managers | .managerIndex => .managers
  | .records | .lifetimes | .fees => .record k.word
  | .moduleHashes => .moduleHash k.word

def place (i : Nat) : Key := ⟨.managers, BitVec.ofNat 256 i⟩

def standing (a : Address) : Key := ⟨.managerIndex, a.toWord⟩

theorem slot_place (i : Nat) : (place i).slot = State.managers.elementSlot i := rfl

theorem slot_standing (a : Address) : (standing a).slot = State.managers.indexSlot a := rfl

end Key

def feeKeys : List Key := [⟨.root, 3⟩]

def paramsKeys : List Key := [⟨.params, 0⟩, ⟨.params, 1⟩]

def pricerKeys : List Key :=
  [⟨.pricer, 0⟩, ⟨.pricer, 1⟩, ⟨.pricer, 2⟩, ⟨.pricer, 3⟩, ⟨.pricer, 4⟩]

def recordKeys (codeHash : Word) : List Key :=
  [⟨.records, codeHash⟩, ⟨.lifetimes, codeHash⟩, ⟨.fees, codeHash⟩]

def SlotOf (ks : List Key) (slot : Word) : Prop := ∃ k ∈ ks, k.slot = slot

end Layout

/-! ### Sets of addresses -/

namespace AddressSet

open Access Ledger

variable {S : Word → Prop} {s : AddressSet} {a : Address} {i count : Nat} {d e : Desk}

/-- To add leaves all alone but for the size, the place behind the last and where the new one
stands. -/
theorem agree_add (hsize : ¬ S s.sizeSlot)
    (hplace : ¬ S (s.elementSlot (d.ledger.view.count s + 1))) (hstanding : ¬ S (s.indexSlot a)) :
    KeepsFrom (Desk.Over (Agree S)) (s.add a) d := by
  refine (agree_reads State.keeps_contains d).bind fun b d₁ hb => ?_
  refine keepsFrom_ite (fun _ => keepsFrom_pure _ _) fun _ => ?_
  refine (agree_reads keeps_loadNat d₁).bind fun n d₂ hn => ?_
  have hn' : n = d.ledger.view.count s := by
    rw [(gives_size hn).1, (gives_contains hb).2]
  subst hn'
  exact ((agree_store hsize).bind fun _ => (agree_store hplace).bind fun _ =>
    agree_store hstanding) d₂

/-- To remove leaves all alone but for the size, the last place and the one that becomes free, and
where the one that leaves and the last one stand. -/
theorem agree_remove (hsize : ¬ S s.sizeSlot)
    (hend : ¬ S (s.elementSlot (d.ledger.view.count s)))
    (hplace : ¬ S (s.elementSlot (d.ledger.view.standing s a))) (hstanding : ¬ S (s.indexSlot a))
    (hlast : ¬ S (s.indexSlot (d.ledger.view.elementAt s (d.ledger.view.count s))))
    (hapart : s.indexSlot a ≠ s.sizeSlot)
    (hapart' : s.indexSlot a ≠ s.elementSlot (d.ledger.view.count s)) :
    KeepsFrom (Desk.Over (Agree S)) (s.remove a) d := by
  rw [remove_eq]
  refine (agree_reads keeps_loadNat d).bind fun i d₁ hi => ?_
  have hi' : i = d.ledger.view.standing s a := (gives_loadNat hi).1
  subst hi'
  refine keepsFrom_ite (fun _ => keepsFrom_pure _ _) fun _ => ?_
  refine (agree_store hstanding d₁).bind fun u d₂ h₂ => ?_
  refine (agree_reads keeps_loadNat d₂).bind fun n d₃ hn => ?_
  have hv₂ : d₂.ledger.view = d.ledger.view.setState (s.indexSlot a) 0 := by
    rw [(gives_store h₂).1, State.view_of_reads keeps_loadNat hi]
    rfl
  have hn' : n = d.ledger.view.count s := by
    rw [(gives_size hn).1, hv₂]
    unfold View.count View.stateNat
    rw [View.state_setState_of_ne hapart]
  subst hn'
  have hv₃ : d₃.ledger.view = d.ledger.view.setState (s.indexSlot a) 0 :=
    (State.view_of_reads keeps_loadNat hn).trans hv₂
  refine KeepsFrom.bind (keepsFrom_ite (fun _ => ?_) fun _ => keepsFrom_pure _ _) fun u d₄ _ => ?_
  · refine (agree_reads keeps_loadAddress d₃).bind fun last d₄ h₄ => ?_
    have hlast' : last = d.ledger.view.elementAt s (d.ledger.view.count s) := by
      rw [(gives_loadAddress h₄).1, hv₃, View.state_setState_of_ne hapart']
      rfl
    subst hlast'
    exact ((agree_store hplace).bind fun _ => agree_store hlast) d₄
  · exact ((agree_store hend).bind fun _ => agree_store hsize) d₄

theorem told_elements (s : AddressSet)
    (hS : ∀ j, i ≤ j → j < i + count → S (s.elementSlot j)) :
    ToldOver (Agree S) (s.elements i count) := by
  induction count generalizing i with
  | zero => exact toldOver_pure _
  | succ count ih =>
    have hrest := ih (i := i + 1) fun j hj hlt => hS j (by omega) (by omega)
    refine (toldOver_loadAddress (hS i (by omega) (by omega))).bind keeps_loadAddress fun a => ?_
    exact hrest.bind (State.keeps_elements s _ _) fun _ => toldOver_pure _

theorem told_all (hS : ∀ j, j ≤ d.ledger.view.count s → S (s.elementSlot j))
    (hagree : d.ledger.Agree S e.ledger) (hgas : d.gas = e.gas) :
    (outcome s.all d).1 = (outcome s.all e).1 := by
  have hsize : ToldOver (Agree S) s.size := toldOver_loadNat (hS 0 (Nat.zero_le _))
  refine (hsize.bind_gives keeps_loadNat hagree hgas fun n t hn => ?_).1
  have hn' := (gives_size hn).1
  exact told_elements s fun j _ hlt => hS j (by omega)

end AddressSet

namespace State

open Access Layout

variable {S : Word → Prop} {d e : Desk} {h : Word} {r : Record}

/-- The keys of so many places, and of where these managers stand. -/
def managerKeys (n : Nat) (as : List Address) : List Key :=
  (List.range (n + 1)).map .place ++ as.map .standing

section
variable {n i : Nat} {as : List Address} {a : Address}

theorem place_mem (hi : i ≤ n) : Key.place i ∈ managerKeys n as :=
  List.mem_append_left _ (List.mem_map_of_mem (List.mem_range.mpr (Nat.lt_succ_of_le hi)))

theorem standing_mem (ha : a ∈ as) : Key.standing a ∈ managerKeys n as :=
  List.mem_append_right _ (List.mem_map_of_mem ha)

theorem managers_apart (hn : n < 2 ^ 256) (hsep : Distinct (managerKeys n as)) :
    managers.Apart n (· ∈ as) where
  place {i j} hi hj heq := by
    have hword := congrArg (·.word.toNat) (hsep _ (place_mem hi) _ (place_mem hj) heq)
    simp only [Key.place, BitVec.toNat_ofNat] at hword
    rwa [Nat.mod_eq_of_lt (by omega), Nat.mod_eq_of_lt (by omega)] at hword
  standing {a b} ha hb heq := by
    have hkeys := hsep _ (standing_mem ha) _ (standing_mem hb) heq
    have hword := congrArg (Address.ofWord ·.word) hkeys
    simpa only [Key.standing, Address.ofWord_toWord] using hword
  between {a i} ha hi heq := by
    cases congrArg Key.space (hsep _ (standing_mem ha) _ (place_mem hi) heq)

theorem slotOf_uses {slot : Word} (h : managers.Uses n (· ∈ as) slot) :
    SlotOf (managerKeys n as) slot := by
  cases h with
  | place hi => exact ⟨_, place_mem hi, rfl⟩
  | standing ha => exact ⟨_, standing_mem ha, rfl⟩

end

/-! ### Changes -/

inductive Edit where
  | feeAccount (a : Address)
  | params (p : Params)
  | pricer (p : Pricer)
  | price (bytes : UInt32) (now : Nat)
  | addManager (a : Address)
  | removeManager (a : Address)
  | record (codeHash : Word) (r : Record)
  | moduleHash (codeHash module : Word)

namespace Edit

def run : Edit → Access Unit
  | feeAccount a => setFeeAccount a
  | params p => setParams p
  | pricer p => setPricer p
  | price bytes now => do let _ ← priceData bytes now
  | addManager a => managers.add a
  | removeManager a => managers.remove a
  | record h r => setRecord h r
  | moduleHash h module => setModuleHash h module

def cell : Edit → Cell
  | feeAccount _ => .feeAccount
  | params _ => .params
  | pricer _ | price _ _ => .pricer
  | addManager _ | removeManager _ => .managers
  | record h _ => .record h
  | moduleHash h _ => .moduleHash h

def keys (v : View) : Edit → List Key
  | feeAccount _ => feeKeys
  | params _ => paramsKeys
  | pricer _ | price _ _ => pricerKeys
  | addManager a => [.place 0, .place (v.count managers + 1), .standing a]
  | removeManager a => [.place 0, .place (v.count managers), .place (v.standing managers a),
      .standing a, .standing (v.elementAt managers (v.count managers))]
  | record h _ => recordKeys h
  | moduleHash h _ => [⟨.moduleHashes, h⟩]

theorem cell_of_keys (v : View) (s : Edit) : ∀ k ∈ s.keys v, k.cell = s.cell := by
  cases s <;> simp [keys, cell, feeKeys, paramsKeys, pricerKeys, recordKeys, Key.cell, Key.place,
    Key.standing]

theorem agree_setPricer {p : Pricer} (hS : ∀ k ∈ pricerKeys, ¬ S k.slot) :
    Keeps (Desk.Over (Ledger.Agree S)) (setPricer p) := by
  simp only [pricerKeys, List.forall_mem_cons] at hS
  obtain ⟨h₁, h₂, h₃, h₄, h₅, -⟩ := hS
  exact (agree_store h₁).bind fun _ => (agree_store h₂).bind fun _ => (agree_store h₃).bind fun _ =>
    (agree_store h₄).bind fun _ => agree_store h₅

theorem agree (s : Edit) (hsep : Separate (s.keys d.ledger.view))
    (hS : ∀ k ∈ s.keys d.ledger.view, ¬ S k.slot) :
    KeepsFrom (Desk.Over (Ledger.Agree S)) s.run d := by
  cases s with
  | feeAccount a => exact agree_store (hS ⟨.root, 3⟩ (List.mem_singleton_self _)) d
  | moduleHash h module => exact agree_store (hS ⟨.moduleHashes, h⟩ (List.mem_singleton_self _)) d
  | params p =>
    simp only [keys, paramsKeys, List.forall_mem_cons] at hS
    obtain ⟨h₁, h₂, -⟩ := hS
    exact ((agree_store h₁).bind fun _ => agree_store h₂) d
  | pricer p => exact agree_setPricer hS d
  | price bytes now =>
    refine Keeps.bind ?_ (fun _ => keeps_pure _) d
    exact (agree_reads keeps_pricer).bind fun _ => (agree_setPricer hS).bind fun _ => keeps_pure _
  | record h r =>
    simp only [keys, recordKeys, List.forall_mem_cons] at hS
    obtain ⟨h₁, h₂, h₃, -⟩ := hS
    exact ((agree_store h₁).bind fun _ => (agree_store h₂).bind fun _ => agree_store h₃) d
  | addManager a =>
    simp only [keys, List.forall_mem_cons] at hS
    obtain ⟨h₁, h₂, h₃, -⟩ := hS
    exact AddressSet.agree_add h₁ h₂ h₃
  | removeManager a =>
    have hne : ∀ i, Key.place i ∈ (removeManager a).keys d.ledger.view →
        managers.indexSlot a ≠ managers.elementSlot i := by
      intro i hi
      have hkeys : Key.standing a ≠ Key.place i := by simp [Key.standing, Key.place]
      rw [← Key.slot_standing, ← Key.slot_place]
      exact hsep.slot_ne (by simp [keys]) hi hkeys
    have hsize := hne 0 (by simp [keys])
    have hend := hne (d.ledger.view.count managers) (by simp [keys])
    simp only [keys, List.forall_mem_cons] at hS
    obtain ⟨h₁, h₂, h₃, h₄, h₅, -⟩ := hS
    exact AddressSet.agree_remove h₁ h₂ h₃ h₄ h₅ hsize hend

end Edit

/-! ### Questions -/

inductive Query where
  | feeAccount
  | params
  | pricer
  | managers
  | managerCount
  | manages (a : Address)
  | record (codeHash : Word)
  | moduleHash (codeHash : Word)

namespace Query

def Answer : Query → Type
  | feeAccount => Address
  | params => Params
  | pricer => Pricer
  | managers => List Address
  | managerCount => Nat
  | manages _ => Bool
  | record _ => Option Record
  | moduleHash _ => Word

def run : (q : Query) → Access q.Answer
  | feeAccount => State.feeAccount
  | params => State.params
  | pricer => State.pricer
  | managers => State.managers.all
  | managerCount => State.managers.size
  | manages a => State.managers.contains a
  | record h => record? h
  | moduleHash h => State.moduleHash h

def cell : Query → Cell
  | feeAccount => .feeAccount
  | params => .params
  | pricer => .pricer
  | managers | managerCount | manages _ => .managers
  | record h => .record h
  | moduleHash h => .moduleHash h

def keys (v : View) : Query → List Key
  | feeAccount => feeKeys
  | params => paramsKeys
  | pricer => pricerKeys
  | managers => (List.range (v.count State.managers + 1)).map .place
  | managerCount => [.place 0]
  | manages a => [.standing a]
  | record h => recordKeys h
  | moduleHash h => [⟨.moduleHashes, h⟩]

theorem cell_of_keys (v : View) (q : Query) : ∀ k ∈ q.keys v, k.cell = q.cell := by
  cases q <;> simp [keys, cell, feeKeys, paramsKeys, pricerKeys, recordKeys, Key.cell, Key.place,
    Key.standing]

theorem told (q : Query) (hS : ∀ k ∈ q.keys d.ledger.view, S k.slot)
    (hagree : d.ledger.Agree S e.ledger) (hgas : d.gas = e.gas) :
    (outcome q.run d).1 = (outcome q.run e).1 := by
  have hover : ∀ {α : Type} {m : Access α}, ToldOver (Ledger.Agree S) m →
      (outcome m d).1 = (outcome m e).1 := fun hm => (hm d e hagree hgas).1
  cases q with
  | feeAccount => exact hover (toldOver_loadAddress (hS ⟨.root, 3⟩ (List.mem_singleton_self _)))
  | moduleHash h => exact hover (toldOver_load (hS ⟨.moduleHashes, h⟩ (List.mem_singleton_self _)))
  | params =>
    simp only [keys, paramsKeys, List.forall_mem_cons] at hS
    obtain ⟨h₁, h₂, -⟩ := hS
    refine hover ((toldOver_pay _).bind (keeps_pay _) fun _ => ToldOver.free ?_)
    exact (toldOver_load h₁).bind keeps_load fun _ =>
      (toldOver_loadNat h₂).bind keeps_loadNat fun _ => toldOver_pure _
  | pricer =>
    simp only [keys, pricerKeys, List.forall_mem_cons] at hS
    obtain ⟨h₁, h₂, h₃, h₄, h₅, -⟩ := hS
    exact hover ((toldOver_loadNat h₁).bind keeps_loadNat fun _ =>
      (toldOver_loadNat h₂).bind keeps_loadNat fun _ =>
      (toldOver_loadNat h₃).bind keeps_loadNat fun _ =>
      (toldOver_loadNat h₄).bind keeps_loadNat fun _ =>
      (toldOver_loadNat h₅).bind keeps_loadNat fun _ => toldOver_pure _)
  | record h =>
    simp only [keys, recordKeys, List.forall_mem_cons] at hS
    obtain ⟨h₁, h₂, h₃, -⟩ := hS
    refine hover ((toldOver_load h₁).bind keeps_load fun data => ?_)
    refine toldOver_ite (toldOver_pure _) ((toldOver_load h₂).bind keeps_load fun _ => ?_)
    exact (toldOver_load h₃).bind keeps_load fun _ => toldOver_pure _
  | managers =>
    refine AddressSet.told_all (fun j hj => ?_) hagree hgas
    exact hS (.place j) (List.mem_map_of_mem (List.mem_range.mpr (by omega)))
  | managerCount => exact hover (toldOver_loadNat (hS (.place 0) (List.mem_singleton_self _)))
  | manages a =>
    have hload : ToldOver (Ledger.Agree S) (State.managers.index a) :=
      toldOver_loadNat (hS (.standing a) (List.mem_singleton_self _))
    exact hover (hload.bind keeps_loadNat fun _ => toldOver_pure _)

end Query

/-! ### Independence -/

theorem answers_setRecord (hsep : Separate (recordKeys h)) (hfits : r.asmKb.toNat ≤ 0xffffff)
    (hdata : r.dataWord ≠ 0) {u : Unit} (hg : Gives (setRecord h r) d u e) :
    Answers (record? h) e.ledger recordGas (some r) := by
  have hne : ∀ k ∈ recordKeys h, ∀ k' ∈ recordKeys h, k ≠ k' → k.slot ≠ k'.slot :=
    fun k hk k' hk' => hsep.slot_ne hk hk'
  have hrecord := View.record?_setRecord (v := d.ledger.view) (r := r)
    (hne ⟨.fees, h⟩ (by simp [recordKeys]) ⟨.lifetimes, h⟩ (by simp [recordKeys]) (by simp))
    (hne ⟨.fees, h⟩ (by simp [recordKeys]) ⟨.records, h⟩ (by simp [recordKeys]) (by simp))
    (hne ⟨.lifetimes, h⟩ (by simp [recordKeys]) ⟨.records, h⟩ (by simp [recordKeys]) (by simp))
  refine answers_record? (known_of_setRecord hg) ?_
  rw [gives_setRecord hg, hrecord, if_neg hdata, Record.kept_of_le hfits]

def saveGas : Nat := Gas.write + (Gas.write + (Gas.write + 0))

theorem ready_setRecord (hd : d.Ready (SlotOf (recordKeys h)) saveGas) :
    ∃ e, Gives (setRecord h r) d ⟨⟩ e := by
  have hslots : ∀ k ∈ recordKeys h, SlotOf (recordKeys h) k.slot := fun k hk => ⟨k, hk, rfl⟩
  simp only [recordKeys, List.forall_mem_cons] at hslots
  obtain ⟨h₁, h₂, h₃, -⟩ := hslots
  obtain ⟨d₁, hg₁, hd₁⟩ := ready_write hd h₁
  obtain ⟨d₂, hg₂, hd₂⟩ := ready_write hd₁ h₂
  obtain ⟨d₃, hg₃, -⟩ := ready_write hd₂ h₃
  exact ⟨d₃, hg₁.bind (hg₂.bind hg₃)⟩

/-- A change to one part changes no answer about another. -/
theorem same_answer {s : Edit} {q : Query} (hcell : s.cell ≠ q.cell)
    (hsep : Separate (s.keys d.ledger.view ++ q.keys d.ledger.view)) (gas : Option Nat)
    (frozen : Bool) : (outcome q.run ⟨(outcome s.run d).2.ledger, gas, frozen⟩).1 =
      (outcome q.run ⟨d.ledger, gas, frozen⟩).1 := by
  have hS : ∀ k ∈ s.keys d.ledger.view, ¬ SlotOf (q.keys d.ledger.view) k.slot := by
    rintro k hk ⟨k', hk', heq⟩
    have hsame := hsep.slot_inj (List.mem_append_right _ hk') (List.mem_append_left _ hk) heq
    subst hsame
    exact hcell ((s.cell_of_keys _ k' hk).symm.trans (q.cell_of_keys _ k' hk'))
  have hagree : d.ledger.Agree (SlotOf (q.keys d.ledger.view)) (outcome s.run d).2.ledger :=
    s.agree (hsep.mono (List.subset_append_left _ _)) hS
  exact (q.told (d := ⟨d.ledger, gas, frozen⟩) (e := ⟨_, gas, frozen⟩) (fun k hk => ⟨k, hk, rfl⟩)
    hagree rfl).symm

/-- The state is a tuple of separate maps while no digests of what is hashed collide: a record that was
saved is read back, and whatever is changed, from whichever desk, answers about all other parts are
the ones given before. -/
theorem parts_independent :
    (∀ (d : Desk) (h : Word) (r : Record), r.asmKb.toNat ≤ 0xffffff → r.dataWord ≠ 0 →
      Separate (recordKeys h) →
      (d.Ready (SlotOf (recordKeys h)) saveGas → ∃ e, Gives (setRecord h r) d ⟨⟩ e) ∧
      ∀ e, Gives (setRecord h r) d ⟨⟩ e → Answers (record? h) e.ledger recordGas (some r)) ∧
    ∀ (d : Desk) (s : Edit) (q : Query) (gas : Option Nat) (frozen : Bool), s.cell ≠ q.cell →
      Separate (s.keys d.ledger.view ++ q.keys d.ledger.view) →
      (outcome q.run ⟨(outcome s.run d).2.ledger, gas, frozen⟩).1 =
        (outcome q.run ⟨d.ledger, gas, frozen⟩).1 :=
  ⟨fun _ _ _ hfits hdata hsep =>
    ⟨ready_setRecord, fun _ hg => answers_setRecord hsep hfits hdata hg⟩,
    fun _ _ _ gas frozen hcell hsep => same_answer hcell hsep gas frozen⟩

theorem separate_small : Separate (recordKeys smallHash ++ paramsKeys) := by
  refine Separate.of_slots fun k hk k' hk' hne heq => ?_
  have hparams : (Key.mk .params 0).input = (Key.mk .params 1).input :=
    congrArg (Slot.scope Layout.params ++ ·)
      (by decide : (0 : Word).octets.take 31 = (1 : Word).octets.take 31)
  have hslots : (Key.mk .records smallHash).slot = Layout.recordData smallHash ∧
      (Key.mk .lifetimes smallHash).slot = Layout.recordLifetime smallHash ∧
      (Key.mk .fees smallHash).slot = Layout.recordFee smallHash ∧
      (Key.mk .params 0).slot = Layout.paramsWord ∧ (Key.mk .params 1).slot = Layout.pageRamp :=
    ⟨rfl, rfl, rfl, rfl, rfl⟩
  rw [recordData_smallHash, recordLifetime_smallHash, recordFee_smallHash, kept_eq.1,
    kept_eq.2.1] at hslots
  obtain ⟨h₁, h₂, h₃, h₄, h₅⟩ := hslots
  simp only [recordKeys, paramsKeys, List.cons_append, List.nil_append, List.mem_cons,
    List.not_mem_nil, or_false] at hk hk'
  rcases hk with rfl | rfl | rfl | rfl | rfl <;> rcases hk' with rfl | rfl | rfl | rfl | rfl <;>
    first
    | exact absurd rfl hne
    | (exfalso; simp only [h₁, h₂, h₃, h₄, h₅] at heq; revert heq; decide)
    | exact hparams

def smallRecord : Record := { version := 1, asmKb := 1, expiresAt := 86400 }

theorem parts_independent_small : Separate (recordKeys smallHash ++ paramsKeys) ∧
    ∃ e, Gives (setRecord smallHash smallRecord) AddressSet.blankDesk ⟨⟩ e ∧
      Answers (record? smallHash) e.ledger recordGas (some smallRecord) ∧
      (outcome params ⟨e.ledger, none, false⟩).1 = (outcome params AddressSet.blankDesk).1 := by
  have hready : AddressSet.blankDesk.Ready (SlotOf (recordKeys smallHash)) saveGas := by
    refine ⟨rfl, fun left hleft => ?_, fun slot _ => AddressSet.known_blank slot⟩
    cases hleft
  obtain ⟨hends, hanswers⟩ := parts_independent.1 AddressSet.blankDesk smallHash smallRecord
    (by decide) (by decide) (separate_small.mono (List.subset_append_left _ _))
  obtain ⟨e, he⟩ := hends hready
  have hsame := parts_independent.2 AddressSet.blankDesk (.record smallHash smallRecord) .params none
    false (by decide) separate_small
  have hend : (outcome (Edit.record smallHash smallRecord).run AddressSet.blankDesk).2 = e :=
    congrArg Prod.snd he
  rw [hend] at hsame
  exact ⟨separate_small, e, he, hanswers e he, hsame⟩

end State
end Inkwell
