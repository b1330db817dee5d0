import Inkwell.Proofs.Layout
import Inkwell.Proofs.Members
set_option autoImplicit false

/-! Runs of additions and removals: what is kept of the set lists whose last operation was to be added,
and tells so to who asks. -/

namespace Inkwell

namespace AddressSet

open Access

/-! ### One operation -/

def perform (s : AddressSet) : Op → Access Unit
  | .add a => s.add a
  | .remove a => s.remove a

def Op.gas : Op → Nat
  | add _ => 2 * Gas.read + 3 * Gas.write
  | remove _ => 3 * Gas.read + 5 * Gas.write

variable {s : AddressSet} {n i m rest : Nat} {A : Address → Prop} {as : List Address} {a : Address}
  {o : Op} {d e : Desk} {u : Unit}

section
variable (hA : s.Apart n A) (h : d.ledger.view.Lists s n A as)
include h

section
include hA

theorem lists_perform (ho : A o.address) (hfits : (o.apply as).length ≤ n)
    (hshort : (o.apply as).length < 2 ^ 64) (hg : Gives (s.perform o) d u e) :
    e.ledger.view.Lists s n A (o.apply as) := by
  cases o with
  | add a =>
    have hstanding : d.ledger.view.standing s a = 0 ↔ a ∉ as := h.standing_zero ho
    rw [gives_add hg]
    by_cases hmem : a ∈ as
    · rw [Op.apply_add_of_mem hmem, if_neg fun hzero => hstanding.mp hzero hmem]
      exact h
    · rw [Op.apply_add_of_notMem hmem, List.length_append] at hfits hshort
      rw [Op.apply_add_of_notMem hmem, if_pos (hstanding.mpr hmem)]
      exact h.enter hA ho hfits hmem hshort
  | remove a =>
    have hstanding : d.ledger.view.standing s a = 0 ↔ a ∉ as := h.standing_zero ho
    rw [gives_remove hg]
    by_cases hmem : a ∈ as
    · rw [Op.apply_remove_of_mem hmem, if_neg fun hzero => hstanding.mp hzero hmem]
      exact h.leave hA (List.getElem?_idxOf hmem)
    · rw [Op.apply_remove_of_notMem hmem, if_pos (hstanding.mpr hmem)]
      exact h

end

theorem state_perform {slot : Word} (hslot : ¬ s.Uses n A slot) (hA : s.Apart n A) (ho : A o.address)
    (hfits : (o.apply as).length ≤ n) (hg : Gives (s.perform o) d u e) :
    e.ledger.view.state slot = d.ledger.view.state slot := by
  cases o with
  | add a =>
    have hstanding : d.ledger.view.standing s a = 0 ↔ a ∉ as := h.standing_zero ho
    rw [gives_add hg]
    by_cases hmem : a ∈ as
    · rw [if_neg fun hzero => hstanding.mp hzero hmem]
    · rw [Op.apply_add_of_notMem hmem, List.length_append] at hfits
      rw [if_pos (hstanding.mpr hmem)]
      exact View.state_entered_rest hslot ho (h.count_eq ▸ hfits)
  | remove a =>
    have hstanding : d.ledger.view.standing s a = 0 ↔ a ∉ as := h.standing_zero ho
    rw [gives_remove hg]
    by_cases hmem : a ∈ as
    · obtain ⟨-, hcount, hplace, hend, hlast⟩ := h.bounds (List.getElem?_idxOf hmem)
      rw [if_neg fun hzero => hstanding.mp hzero hmem]
      exact View.state_left_rest hslot hA ho hcount hplace (hend ▸ hlast)
    · rw [if_pos (hstanding.mpr hmem)]

theorem reads_add (ha : A a) (hmem : a ∈ as) :
    KeepsFrom (Desk.Over Ledger.Reads) (s.add a) d := by
  refine (State.keeps_contains d).bind fun b t hb => ?_
  obtain ⟨rfl, -⟩ := gives_contains hb
  have hc : decide (d.ledger.view.standing s a ≠ 0) = true :=
    decide_eq_true fun hzero => (h.standing_zero ha).mp hzero hmem
  rw [if_pos hc]
  exact keepsFrom_pure _ _

theorem reads_remove (ha : A a) (hnone : a ∉ as) :
    KeepsFrom (Desk.Over Ledger.Reads) (s.remove a) d := by
  rw [remove_eq]
  refine (keeps_loadNat d).bind fun i t hi => ?_
  have hzero : i = 0 := (gives_loadNat hi).1.trans ((h.standing_zero ha).mpr hnone)
  rw [if_pos hzero]
  exact keepsFrom_pure _ _

end

/-! ### What an operation takes -/

theorem ready_fill (hi : i ≤ n) (hm : m ≤ n) (hlast : A (d.ledger.view.elementAt s m))
    (hd : d.Ready (s.Uses n A) (Gas.read + (Gas.write + (Gas.write + rest)))) :
    ∃ e, Gives (s.fill i m) d ⟨⟩ e ∧ e.Ready (s.Uses n A) rest := by
  unfold fill
  by_cases h : i < m
  · obtain ⟨d₁, h₁, hd₁⟩ := ready_loadAddress hd (.place hm)
    obtain ⟨d₂, h₂, hd₂⟩ := ready_write hd₁ (.place hi)
    obtain ⟨d₃, h₃, hd₃⟩ := ready_write hd₂ (.standing hlast)
    refine ⟨d₃, ?_, hd₃⟩
    rw [if_pos h]
    exact h₁.bind (h₂.bind h₃)
  · refine ⟨d, ?_, hd.mono (by omega)⟩
    rw [if_neg h]
    exact gives_pure.mpr ⟨rfl, rfl⟩

theorem ready_shrink (hm : m ≤ n) (hd : d.Ready (s.Uses n A) (Gas.write + (Gas.write + rest))) :
    ∃ e, Gives (s.shrink m) d ⟨⟩ e ∧ e.Ready (s.Uses n A) rest := by
  obtain ⟨d₁, h₁, hd₁⟩ := ready_write hd (.place hm)
  obtain ⟨d₂, h₂, hd₂⟩ := ready_write hd₁ (.place (Nat.zero_le n))
  exact ⟨d₂, h₁.bind h₂, hd₂⟩

section
variable (h : d.ledger.view.Lists s n A as) (ha : A a)
include h ha

theorem ready_add (hroom : a ∉ as → as.length + 1 ≤ n)
    (hd : d.Ready (s.Uses n A) ((Op.add a).gas + rest)) :
    ∃ e, Gives (s.add a) d ⟨⟩ e ∧ e.Ready (s.Uses n A) rest := by
  have hd' : d.Ready (s.Uses n A)
      (Gas.read + (Gas.read + (Gas.write + (Gas.write + (Gas.write + rest))))) :=
    hd.mono (by simp only [Op.gas]; omega)
  have hstanding := h.standing_zero ha
  obtain ⟨d₁, h₁, hd₁⟩ := ready_loadNat 64 hd' (.standing ha)
  have hcontains : Gives (s.contains a) d (decide (d.ledger.view.standing s a ≠ 0)) d₁ :=
    h₁.bind (gives_pure.mpr ⟨rfl, rfl⟩)
  have hv₁ : d₁.ledger.view = d.ledger.view := State.view_of_reads keeps_loadNat h₁
  by_cases hmem : a ∈ as
  · have hc : decide (d.ledger.view.standing s a ≠ 0) = true :=
      decide_eq_true fun hzero => hstanding.mp hzero hmem
    refine ⟨d₁, hcontains.bind ?_, hd₁.mono (by omega)⟩
    rw [if_pos hc]
    exact gives_pure.mpr ⟨rfl, rfl⟩
  · have hc : ¬ decide (d.ledger.view.standing s a ≠ 0) = true := by
      simp [hstanding.mpr hmem]
    have hnew : d₁.ledger.view.count s + 1 ≤ n := by
      rw [hv₁, h.count_eq]
      exact hroom hmem
    obtain ⟨d₂, h₂, hd₂⟩ := ready_loadNat 64 hd₁ (.place (Nat.zero_le n))
    obtain ⟨d₃, h₃, hd₃⟩ := ready_write hd₂ (.place (Nat.zero_le n))
    obtain ⟨d₄, h₄, hd₄⟩ := ready_write hd₃ (.place hnew)
    obtain ⟨d₅, h₅, hd₅⟩ := ready_write hd₄ (.standing ha)
    refine ⟨d₅, hcontains.bind ?_, hd₅⟩
    rw [if_neg hc]
    exact h₂.bind (h₃.bind (h₄.bind h₅))

theorem ready_remove (hA : s.Apart n A)
    (hd : d.Ready (s.Uses n A) ((Op.remove a).gas + rest)) :
    ∃ e, Gives (s.remove a) d ⟨⟩ e ∧ e.Ready (s.Uses n A) rest := by
  have hd' : d.Ready (s.Uses n A) (Gas.read + (Gas.write + (Gas.read + (Gas.read +
      (Gas.write + (Gas.write + (Gas.write + (Gas.write + rest)))))))) :=
    hd.mono (by simp only [Op.gas]; omega)
  have hstanding := h.standing_zero ha
  obtain ⟨d₁, h₁, hd₁⟩ := ready_loadNat 64 hd' (.standing ha)
  have hv₁ : d₁.ledger.view = d.ledger.view := State.view_of_reads keeps_loadNat h₁
  rw [remove_eq]
  by_cases hmem : a ∈ as
  · obtain ⟨-, hcount, hplace, hend, hlast⟩ := h.bounds (List.getElem?_idxOf hmem)
    obtain ⟨d₂, h₂, hd₂⟩ := ready_write hd₁ (.standing ha)
    obtain ⟨d₃, h₃, hd₃⟩ := ready_loadNat 64 hd₂ (.place (Nat.zero_le n))
    have hv₃ : d₃.ledger.view = d₂.ledger.view := State.view_of_reads keeps_loadNat h₃
    have hv₂ : d₂.ledger.view = d.ledger.view.setState (s.indexSlot a) 0 := by
      rw [(gives_store h₂).1, hv₁]
    have hsize : d₂.ledger.view.count s = d.ledger.view.count s := by
      rw [hv₂, View.count_setStanding hA ha]
    have hlast' : A (d₃.ledger.view.elementAt s (d₂.ledger.view.count s)) := by
      rw [hv₃, hsize, hv₂, View.elementAt_setStanding hA ha hcount, hend]
      exact hlast
    obtain ⟨d₄, h₄, hd₄⟩ := ready_fill hplace (hsize ▸ hcount) hlast' hd₃
    obtain ⟨d₅, h₅, hd₅⟩ := ready_shrink (hsize ▸ hcount) hd₄
    refine ⟨d₅, h₁.bind ?_, hd₅⟩
    have hne : ¬ d.ledger.view.stateNat 64 (s.indexSlot a) = 0 := fun hzero => hstanding.mp hzero hmem
    rw [if_neg hne]
    exact h₂.bind (h₃.bind (h₄.bind h₅))
  · refine ⟨d₁, h₁.bind ?_, hd₁.mono (by omega)⟩
    have hzero : d.ledger.view.stateNat 64 (s.indexSlot a) = 0 := hstanding.mpr hmem
    rw [if_pos hzero]
    exact gives_pure.mpr ⟨rfl, rfl⟩

end

/-- An operation gets to its end if there is enough to pay with, and a place for whom it adds. -/
theorem ready_perform (hA : s.Apart n A) (h : d.ledger.view.Lists s n A as) (ho : A o.address)
    (hfits : (o.apply as).length ≤ n) (hd : d.Ready (s.Uses n A) (o.gas + rest)) :
    ∃ e, Gives (s.perform o) d ⟨⟩ e ∧ e.Ready (s.Uses n A) rest := by
  cases o with
  | add a =>
    refine ready_add h ho (fun hnew => ?_) hd
    rwa [Op.apply_add_of_notMem hnew, List.length_append] at hfits
  | remove a => exact ready_remove h ho hA hd

/-! ### Runs -/

def performs (s : AddressSet) : List Op → Access Unit
  | [] => pure ()
  | o :: ops => do
    s.perform o
    s.performs ops

theorem performs_adds (s : AddressSet) (as : List Address) :
    s.performs (as.map .add) = as.forM s.add := by
  induction as with
  | nil => rfl
  | cons a as ih =>
    rw [List.map_cons, performs, ih]
    rfl

/-- Who is only added stands where it was added first. -/
theorem listed_adds (as : List Address) : listed (as.map .add) = as.eraseDups := by
  induction as using List.reverseRecOn with
  | nil => rfl
  | append_singleton as a ih =>
    rw [List.map_append, List.map_singleton, listed_append, ih, List.eraseDups_append]
    by_cases ha : a ∈ as
    · rw [Op.apply_add_of_mem (List.mem_eraseDups.mpr ha)]
      simp [List.removeAll, ha]
    · rw [Op.apply_add_of_notMem (mt List.mem_eraseDups.mp ha)]
      simp [List.removeAll, ha, List.eraseDups_cons]

variable {ops : List Op}

theorem length_listed_le (before ops : List Op) :
    (listed before).length ≤ ((before ++ ops).map Op.address).dedup.length := by
  refine ((nodup_listed before).subperm fun a ha => ?_).length_le
  obtain ⟨front, back, rfl, -⟩ := mem_listed.mp ha
  rw [List.mem_dedup]
  simp [Op.address]

theorem length_apply_listed_le (before ops : List Op) (o : Op) :
    (o.apply (listed before)).length ≤ ((before ++ o :: ops).map Op.address).dedup.length := by
  have hlength := length_listed_le (before ++ [o]) ops
  rwa [listed_append, List.append_assoc, List.singleton_append] at hlength

theorem reaches_perform (s : AddressSet) (o : Op) :
    Keeps (Desk.Over (Ledger.Reaches .any)) (s.perform o) := by
  have hstore : ∀ slot w, Keeps (Desk.Over (Ledger.Reaches .any)) (store slot w) :=
    fun _ _ => State.keeps_store fun _ => trivial
  cases o with
  | add a =>
    refine (State.keeps_reads State.keeps_contains).bind fun b => keeps_ite (fun _ => keeps_pure _) ?_
    refine fun _ => (State.keeps_reads keeps_loadNat).bind fun n => ?_
    exact (hstore _ _).bind fun _ => (hstore _ _).bind fun _ => hstore _ _
  | remove a =>
    change Keeps _ (s.remove a)
    rw [remove_eq]
    refine (State.keeps_reads keeps_loadNat).bind fun i => keeps_ite (fun _ => keeps_pure _) ?_
    refine fun _ => (hstore _ _).bind fun _ => (State.keeps_reads keeps_loadNat).bind fun n => ?_
    refine Keeps.bind ?_ fun _ => (hstore _ _).bind fun _ => hstore _ _
    refine keeps_ite (fun _ => ?_) fun _ => keeps_pure _
    refine (State.keeps_reads keeps_loadAddress).bind fun last => ?_
    exact (hstore _ _).bind fun _ => hstore _ _

theorem reaches_performs (s : AddressSet) (ops : List Op) :
    Keeps (Desk.Over (Ledger.Reaches .any)) (s.performs ops) := by
  induction ops with
  | nil => exact keeps_pure _
  | cons o ops ih => exact (reaches_perform s o).bind fun _ => ih

section
variable (before : List Op) (hA : s.Apart n A) (hops : ∀ o ∈ ops, A o.address)
  (hfits : ((before ++ ops).map Op.address).dedup.length ≤ n)
  (hshort : ((before ++ ops).map Op.address).dedup.length < 2 ^ 64)
  (h : d.ledger.view.Lists s n A (listed before))
include hA hops hfits hshort h

/-- What is kept of a set lists its members after every run. -/
theorem lists_performs (hg : Gives (s.performs ops) d u e) :
    e.ledger.view.Lists s n A (listed (before ++ ops)) := by
  induction ops generalizing before d with
  | nil =>
    obtain ⟨-, rfl⟩ := gives_pure.mp hg
    rwa [List.append_nil]
  | cons o ops ih =>
    obtain ⟨u₁, d₁, h₁, hg⟩ := gives_bind.mp hg
    have hlength := length_apply_listed_le before ops o
    have hone := lists_perform hA h (hops o List.mem_cons_self) (hlength.trans hfits)
      (hlength.trans_lt hshort) h₁
    rw [← listed_append] at hone
    rw [List.append_cons] at hfits hshort ⊢
    exact ih _ (fun x hx => hops x (List.mem_cons_of_mem o hx)) hfits hshort hone hg

theorem state_performs {slot : Word} (hslot : ¬ s.Uses n A slot) (hg : Gives (s.performs ops) d u e) :
    e.ledger.view.state slot = d.ledger.view.state slot := by
  induction ops generalizing before d with
  | nil => rw [(gives_pure.mp hg).2]
  | cons o ops ih =>
    obtain ⟨u₁, d₁, h₁, hg⟩ := gives_bind.mp hg
    have ho : A o.address := hops o List.mem_cons_self
    have hlength := length_apply_listed_le before ops o
    have hone := lists_perform hA h ho (hlength.trans hfits) (hlength.trans_lt hshort) h₁
    have hsame := state_perform h hslot hA ho (hlength.trans hfits) h₁
    rw [← listed_append] at hone
    rw [List.append_cons] at hfits hshort
    exact (ih _ (fun x hx => hops x (List.mem_cons_of_mem o hx)) hfits hshort hone hg).trans hsame

theorem ready_performs (hd : d.Ready (s.Uses n A) (ops.map Op.gas).sum) :
    ∃ e, Gives (s.performs ops) d ⟨⟩ e := by
  induction ops generalizing before d with
  | nil => exact ⟨d, gives_pure.mpr ⟨rfl, rfl⟩⟩
  | cons o ops ih =>
    have ho : A o.address := hops o List.mem_cons_self
    have hlength := length_apply_listed_le before ops o
    obtain ⟨d₁, h₁, hd₁⟩ := ready_perform hA h ho (hlength.trans hfits) hd
    have hone := lists_perform hA h ho (hlength.trans hfits) (hlength.trans_lt hshort) h₁
    rw [← listed_append] at hone
    rw [List.append_cons] at hfits hshort
    obtain ⟨e, he⟩ := ih _ (fun x hx => hops x (List.mem_cons_of_mem o hx)) hfits hshort hone hd₁
    exact ⟨e, h₁.bind he⟩

end

/-! ### What is told of a set -/

section
variable {l : Ledger} (h : l.view.Lists s n A as) (hknown : ∀ slot, s.Uses n A slot → l.Known slot)
include h hknown

theorem answers_elements {bs : List Address} (hfits : i + bs.length ≤ n)
    (hbs : ∀ {j b}, bs[j]? = some b → as[i + j]? = some b) :
    Answers (s.elements (i + 1) bs.length) l (bs.length * Gas.read) bs := by
  induction bs generalizing i with
  | nil =>
    rw [List.length_nil, Nat.zero_mul]
    exact answers_pure []
  | cons b bs ih =>
    rw [List.length_cons] at hfits ⊢
    have hcost : (bs.length + 1) * Gas.read = Gas.read + (bs.length * Gas.read + 0) := by
      rw [Nat.add_mul, Nat.one_mul, Nat.add_comm, Nat.add_zero]
    have hplace : l.Known (s.elementSlot (i + 1)) := hknown _ (.place (by omega))
    have hfirst : Answers (loadAddress (s.elementSlot (i + 1))) l Gas.read b := by
      have hat := h.elementAt_eq (i := i) (hbs (j := 0) rfl)
      exact hat ▸ (answers_load hplace).bind (k := 0) keeps_load (answers_pure _)
    have hrest := ih (i := i + 1) (by omega) fun {j c} hc => by
      rw [Nat.add_assoc, Nat.add_comm 1]
      exact hbs hc
    rw [hcost]
    exact hfirst.bind keeps_loadAddress (hrest.bind (State.keeps_elements s _ _) (answers_pure _))

theorem answers_all : Answers s.all l (Gas.read + as.length * Gas.read) as := by
  have hsize : Answers s.size l Gas.read as.length :=
    h.count_eq ▸ answers_loadNat (hknown _ (.place (Nat.zero_le n)))
  have hfits : 0 + as.length ≤ n := (Nat.zero_add _).trans_le h.fits
  have helements : Answers (s.elements 1 as.length) l (as.length * Gas.read) as :=
    answers_elements h hknown hfits fun {j b} hb => by rwa [Nat.zero_add]
  exact hsize.bind keeps_loadNat helements

theorem answers_contains (ha : A a) : Answers (s.contains a) l Gas.read (decide (a ∈ as)) := by
  have hanswer : decide (a ∈ as) = decide (l.view.standing s a ≠ 0) :=
    decide_eq_decide.mpr (by rw [ne_eq, h.standing_zero ha, not_not])
  rw [hanswer]
  exact (answers_loadNat (hknown _ (.standing ha))).bind (k := 0) keeps_loadNat (answers_pure _)

end

theorem lists_nil {v : View} (hempty : ∀ slot, s.Uses n A slot → v.state slot = 0) :
    v.Lists s n A [] where
  nodup := List.nodup_nil
  known := fun h => absurd h List.not_mem_nil
  fits := Nat.zero_le n
  short := Nat.two_pow_pos 64
  size := hempty _ (.place (Nat.zero_le n))
  element := fun h => by cases h
  standing := fun h => by cases h
  absent := fun ha _ => hempty _ (.standing ha)
  beyond := fun _ hi => hempty _ (.place hi)

/-- Whatever is added to a set and removed from it, from empty storage on and while its slots lie
apart: who has enough to pay with gets to the end, and there the size, the elements and the index list
the addresses whose last operation was to be added. This is what the set tells, and to add a member or
to remove what is none writes nothing. Of addresses there are no more than a size can count. -/
theorem last_added_listed {s : AddressSet} {n : Nat} {A : Address → Prop} {ops : List Op} {d : Desk}
    (hA : s.Apart n A) (hops : ∀ o ∈ ops, A o.address)
    (hfits : (ops.map Op.address).dedup.length ≤ n)
    (hshort : (ops.map Op.address).dedup.length < 2 ^ 64)
    (hempty : ∀ slot, s.Uses n A slot → d.ledger.view.state slot = 0)
    (hknown : ∀ slot, s.Uses n A slot → d.ledger.Known slot) :
    (d.frozen = false → (∀ left ∈ d.gas, (ops.map Op.gas).sum ≤ left) →
      ∃ e, Gives (s.performs ops) d ⟨⟩ e) ∧
    ∀ e, Gives (s.performs ops) d ⟨⟩ e →
      e.ledger.view.Lists s n A (listed ops) ∧
      (∀ a, a ∈ listed ops ↔ LastAdded ops a) ∧
      Answers s.all e.ledger (Gas.read + (listed ops).length * Gas.read) (listed ops) ∧
      (∀ a, A a → Answers (s.contains a) e.ledger Gas.read (decide (a ∈ listed ops))) ∧
      ∀ a d', A a → d'.ledger.view = e.ledger.view →
        (a ∈ listed ops → KeepsFrom (Desk.Over Ledger.Reads) (s.add a) d') ∧
        (a ∉ listed ops → KeepsFrom (Desk.Over Ledger.Reads) (s.remove a) d') := by
  have hnil : d.ledger.view.Lists s n A (listed []) := lists_nil hempty
  refine ⟨fun hthawed hgas => ?_, fun e he => ?_⟩
  · exact ready_performs [] hA hops hfits hshort hnil ⟨hthawed, hgas, hknown⟩
  · have hlists : e.ledger.view.Lists s n A (listed ops) :=
      lists_performs [] hA hops hfits hshort hnil he
    have hreaches : d.ledger.Reaches .any e.ledger := (reaches_performs s ops).of_gives he
    have hends : ∀ slot, s.Uses n A slot → e.ledger.Known slot :=
      fun slot hslot => (hknown slot hslot).reaches hreaches
    refine ⟨hlists, fun a => mem_listed, answers_all hlists hends,
      fun a ha => answers_contains hlists hends ha, fun a d' ha hview => ?_⟩
    rw [← hview] at hlists
    exact ⟨reads_add hlists ha, reads_remove hlists ha⟩

def smallOps : List Op := [.add 5, .add 6, .remove 5]

/-- A desk where nothing was ever written and nothing has to be paid. -/
def blankDesk : Desk := { ledger := {} }

theorem elementSlot_mod (hi : i < 256) : (s.elementSlot i).toNat % 256 = i := by
  rw [elementSlot, Slot.ofKey_mod, BitVec.toNat_ofNat]
  omega

theorem indexSlot_mod (a : Address) : (s.indexSlot a).toNat % 256 = a.toNat % 256 := by
  have ha : a.toNat < 2 ^ 160 := a.isLt
  rw [indexSlot, Slot.ofKey_mod, Address.toWord, BitVec.toNat_ofNat]
  omega

/-- Two addresses and two places lie apart in any set: their keys end differently. -/
theorem apart_small (s : AddressSet) : s.Apart 2 fun a => a = 5 ∨ a = 6 where
  place {i j} hi hj heq := by
    rw [← elementSlot_mod (s := s) (i := i) (by omega), heq, elementSlot_mod (by omega)]
  standing {a b} ha hb heq := by
    have hmod := congrArg (·.toNat % 256) heq
    simp only [indexSlot_mod] at hmod
    rcases ha with rfl | rfl <;> rcases hb with rfl | rfl <;> first | rfl | cases hmod
  between {a i} ha hi heq := by
    have hmod := congrArg (·.toNat % 256) heq
    simp only [indexSlot_mod, elementSlot_mod (s := s) (i := i) (by omega)] at hmod
    rcases ha with rfl | rfl <;> simp at hmod <;> omega

theorem known_blank (slot : Word) : blankDesk.ledger.Known slot :=
  ⟨Ledger.account?_isSome.mpr (.inr List.not_mem_nil), Ledger.slot?_isSome.mpr (.inr rfl)⟩

theorem last_added_listed_small : State.managers.Apart 2 (fun a => a = 5 ∨ a = 6) ∧
    (∀ slot, blankDesk.ledger.view.state slot = 0) ∧
    ∃ e, Gives (State.managers.performs smallOps) blankDesk ⟨⟩ e ∧
      e.ledger.view.Lists State.managers 2 (fun a => a = 5 ∨ a = 6) [6] ∧
      Answers State.managers.all e.ledger (Gas.read + Gas.read) [6] := by
  have hempty : ∀ slot, blankDesk.ledger.view.state slot = 0 := fun _ => rfl
  have hops : ∀ o ∈ smallOps, o.address = 5 ∨ o.address = 6 := by simp [smallOps, Op.address]
  obtain ⟨hends, hlisted⟩ := last_added_listed (apart_small State.managers) hops (by decide)
    (by decide) (fun slot _ => hempty slot) fun slot _ => known_blank slot
  obtain ⟨e, he⟩ := hends rfl fun _ hleft => by cases hleft
  obtain ⟨hlists, -, hall, -⟩ := hlisted e he
  exact ⟨apart_small _, hempty, e, he, hlists, hall⟩

end AddressSet
end Inkwell
