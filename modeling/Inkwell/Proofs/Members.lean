import Inkwell.Proofs.Slots
import Mathlib.Data.List.Nodup
set_option autoImplicit false

/-! Sets of addresses: the size, the elements and the index that are kept of a set agree with each
other whatever is added and removed, and tell whose last operation was to be added. -/

namespace Inkwell

namespace AddressSet

/-! ### Lists of members -/

def leave (i : Nat) (as : List Address) : List Address := (as.set i (as.getLastD 0)).dropLast

section
variable {as : List Address} {a b : Address} {i j : Nat}

theorem getElem?_last (h : i < as.length) : as[as.length - 1]? = some (as.getLastD 0) := by
  have hne : as ≠ [] := by
    rintro rfl
    simp at h
  rw [List.getLastD_eq_getLast?, List.getLast?_eq_getElem?]
  have hlt : as.length - 1 < as.length := by omega
  simp [List.getElem?_eq_getElem hlt]

theorem place_inj (h : as.Nodup) (hi : as[i]? = some a) (hj : as[j]? = some a) : i = j :=
  (List.getElem?_inj (List.getElem?_eq_some_iff.mp hi).1 h).mp (hi.trans hj.symm)

theorem length_leave : (leave i as).length = as.length - 1 := by simp [leave]

theorem getElem?_leave (hi : i < as.length) : (leave i as)[j]? =
    if j + 1 < as.length then as[if j = i then as.length - 1 else j]? else none := by
  rw [leave, List.getElem?_dropLast, List.length_set]
  by_cases hj : j + 1 < as.length
  · have hlt : j < as.length - 1 := by omega
    rw [if_pos hj, if_pos hlt, List.getElem?_set]
    by_cases hji : j = i
    · rw [if_pos hji.symm, if_pos hji, if_pos (hji ▸ hi), getElem?_last hi]
    · rw [if_neg (Ne.symm hji), if_neg hji]
  · have hge : ¬ j < as.length - 1 := by omega
    rw [if_neg hj, if_neg hge]

theorem getElem?_leave_eq_some (hi : i < as.length) (hb : (leave i as)[j]? = some b) :
    j + 1 < as.length ∧ (j = i ∧ b = as.getLastD 0 ∨ j ≠ i ∧ as[j]? = some b) := by
  rw [getElem?_leave hi] at hb
  by_cases hj : j + 1 < as.length
  · rw [if_pos hj] at hb
    refine ⟨hj, ?_⟩
    by_cases hji : j = i
    · rw [if_pos hji, getElem?_last hi] at hb
      exact .inl ⟨hji, (Option.some.inj hb).symm⟩
    · rw [if_neg hji] at hb
      exact .inr ⟨hji, hb⟩
  · rw [if_neg hj] at hb
    cases hb

theorem getElem?_append_eq_some (hb : (as ++ [a])[i]? = some b) :
    i < as.length ∧ as[i]? = some b ∨ i = as.length ∧ b = a := by
  rw [List.getElem?_append] at hb
  by_cases hi : i < as.length
  · exact .inl ⟨hi, by rwa [if_pos hi] at hb⟩
  · rw [if_neg hi] at hb
    have hzero : i - as.length = 0 := by
      have hlt := (List.getElem?_eq_some_iff.mp hb).1
      rw [List.length_singleton] at hlt
      omega
    rw [hzero] at hb
    exact .inr ⟨by omega, (Option.some.inj hb).symm⟩

theorem nodup_leave (h : as.Nodup) (hi : i < as.length) : (leave i as).Nodup := by
  rw [List.nodup_iff_getElem?_ne_getElem?]
  intro j k hjk hk hsame
  rw [length_leave] at hk
  have hj' : j + 1 < as.length := by omega
  have hk' : k + 1 < as.length := by omega
  rw [getElem?_leave hi, getElem?_leave hi, if_pos hj', if_pos hk'] at hsame
  have hin : (if j = i then as.length - 1 else j) < as.length := by split <;> omega
  have hplace := (List.getElem?_inj hin h).mp hsame
  split at hplace <;> split at hplace <;> omega

theorem mem_leave (h : as.Nodup) (hi : as[i]? = some a) : b ∈ leave i as ↔ b ∈ as ∧ b ≠ a := by
  have hlt : i < as.length := (List.getElem?_eq_some_iff.mp hi).1
  constructor
  · intro hb
    obtain ⟨j, hj⟩ := List.mem_iff_getElem?.mp hb
    obtain ⟨hin, ⟨rfl, rfl⟩ | ⟨hji, hb'⟩⟩ := getElem?_leave_eq_some hlt hj
    · refine ⟨List.mem_of_getElem? (getElem?_last hlt), fun heq => ?_⟩
      have hsame := place_inj h hi (heq ▸ getElem?_last hlt)
      omega
    · exact ⟨List.mem_of_getElem? hb', fun heq => hji (place_inj h (heq ▸ hb') hi)⟩
  · rintro ⟨hb, hne⟩
    obtain ⟨k, hk⟩ := List.mem_iff_getElem?.mp hb
    have hkl : k < as.length := (List.getElem?_eq_some_iff.mp hk).1
    have hki : k ≠ i := by
      rintro rfl
      exact hne (Option.some.inj (hk.symm.trans hi))
    -- who stood last stands where the other left
    by_cases hlast : k + 1 = as.length
    · refine List.mem_iff_getElem?.mpr ⟨i, ?_⟩
      have hk' : as.length - 1 = k := by omega
      rw [getElem?_leave hlt, if_pos (by omega), if_pos rfl, hk', hk]
    · refine List.mem_iff_getElem?.mpr ⟨k, ?_⟩
      rw [getElem?_leave hlt, if_pos (by omega), if_neg hki, hk]

end

inductive Op where
  | add (a : Address)
  | remove (a : Address)
  deriving DecidableEq, Repr

namespace Op

def address : Op → Address
  | add a | remove a => a

def apply : Op → List Address → List Address
  | add a, as => if as.contains a then as else as ++ [a]
  | remove a, as => if as.contains a then leave (as.idxOf a) as else as

variable {as : List Address} {a : Address}

@[simp] theorem apply_add_of_mem (h : a ∈ as) : (add a).apply as = as := by simp [apply, h]

@[simp] theorem apply_add_of_notMem (h : a ∉ as) : (add a).apply as = as ++ [a] := by
  simp [apply, h]

@[simp] theorem apply_remove_of_mem (h : a ∈ as) :
    (remove a).apply as = leave (as.idxOf a) as := by simp [apply, h]

@[simp] theorem apply_remove_of_notMem (h : a ∉ as) : (remove a).apply as = as := by
  simp [apply, h]

theorem nodup_apply (o : Op) (h : as.Nodup) : (o.apply as).Nodup := by
  cases o with
  | add b =>
    by_cases hb : b ∈ as
    · rwa [apply_add_of_mem hb]
    · rw [apply_add_of_notMem hb]
      exact List.Nodup.append h (List.nodup_singleton b) (by simpa using hb)
  | remove b =>
    by_cases hb : b ∈ as
    · rw [apply_remove_of_mem hb]
      exact nodup_leave h (List.idxOf_lt_length_iff.mpr hb)
    · rwa [apply_remove_of_notMem hb]

theorem mem_apply (o : Op) (h : as.Nodup) :
    a ∈ o.apply as ↔ o = add a ∨ (a ∈ as ∧ o ≠ remove a) := by
  cases o with
  | add b =>
    by_cases hb : b ∈ as
    · rw [apply_add_of_mem hb]
      simp only [add.injEq, ne_eq, reduceCtorEq, not_false_eq_true, and_true]
      exact ⟨.inr, fun ha => ha.elim (fun hba => hba ▸ hb) id⟩
    · rw [apply_add_of_notMem hb]
      simp [or_comm, eq_comm]
  | remove b =>
    by_cases hb : b ∈ as
    · rw [apply_remove_of_mem hb, mem_leave h (List.getElem?_idxOf hb)]
      simp [eq_comm]
    · rw [apply_remove_of_notMem hb]
      simp only [reduceCtorEq, ne_eq, remove.injEq, false_or]
      exact ⟨fun ha => ⟨ha, fun hba => hb (hba ▸ ha)⟩, And.left⟩

end Op

/-- The members after some operations, in their places. -/
def listed (ops : List Op) : List Address := ops.foldl (fun as o => o.apply as) []

def LastAdded (ops : List Op) (a : Address) : Prop :=
  ∃ before after, ops = before ++ .add a :: after ∧ ∀ o ∈ after, o.address ≠ a

section
variable {ops : List Op} {o : Op} {a : Address}

theorem listed_append : listed (ops ++ [o]) = o.apply (listed ops) := by
  rw [listed, List.foldl_append]
  rfl

theorem nodup_listed (ops : List Op) : (listed ops).Nodup := by
  induction ops using List.reverseRecOn with
  | nil => exact List.nodup_nil
  | append_singleton ops o ih =>
    rw [listed_append]
    exact o.nodup_apply ih

theorem lastAdded_append :
    LastAdded (ops ++ [o]) a ↔ o = .add a ∨ (LastAdded ops a ∧ o.address ≠ a) := by
  constructor
  · rintro ⟨before, after, hops, hafter⟩
    rcases List.eq_nil_or_concat' after with rfl | ⟨after, last, rfl⟩
    · exact .inl (List.cons.inj (List.append_inj' hops rfl).2).1
    · rw [← List.cons_append, ← List.append_assoc] at hops
      obtain ⟨rfl, hlast⟩ := List.append_inj' hops rfl
      cases hlast
      refine .inr ⟨⟨before, after, rfl, fun x hx => hafter x ?_⟩, hafter o ?_⟩
      · exact List.mem_append_left _ hx
      · exact List.mem_append_right _ (List.mem_singleton_self o)
  · rintro (rfl | ⟨⟨before, after, rfl, hafter⟩, ho⟩)
    · exact ⟨ops, [], rfl, by simp⟩
    · refine ⟨before, after ++ [o], by simp, fun x hx => ?_⟩
      rcases List.mem_append.mp hx with hx | hx
      · exact hafter x hx
      · rwa [List.mem_singleton.mp hx]

/-- Members are those whose last operation was to be added. -/
theorem mem_listed : a ∈ listed ops ↔ LastAdded ops a := by
  induction ops using List.reverseRecOn with
  | nil => simp [listed, LastAdded]
  | append_singleton ops o ih =>
    rw [listed_append, Op.mem_apply o (nodup_listed ops), lastAdded_append, ih]
    cases o with
    | add b => by_cases hab : b = a <;> simp [Op.address, hab]
    | remove b => simp [Op.address]

end
end AddressSet

/-! ### What is kept of a set -/

namespace View

variable (v : View) (s : AddressSet)

def count : Nat := v.stateNat 64 s.sizeSlot

/-- Where an address stands, zero for one that does not belong. -/
def standing (a : Address) : Nat := v.stateNat 64 (s.indexSlot a)

def elementAt (i : Nat) : Address := Address.ofWord (v.state (s.elementSlot i))

def entered (a : Address) : View :=
  ((v.setState s.sizeSlot (BitVec.ofNat 256 (v.count s + 1))).setState
    (s.elementSlot (v.count s + 1)) a.toWord).setState
    (s.indexSlot a) (BitVec.ofNat 256 (v.count s + 1))

def filled (i n : Nat) : View :=
  if i < n then
    (v.setState (s.elementSlot i) (v.elementAt s n).toWord).setState
      (s.indexSlot (v.elementAt s n)) (BitVec.ofNat 256 i)
  else v

def shrunk (n : Nat) : View :=
  (v.setState (s.elementSlot n) 0).setState s.sizeSlot (BitVec.ofNat 256 (n - 1))

def left (a : Address) : View :=
  let u := v.setState (s.indexSlot a) 0
  (u.filled s (v.standing s a) (u.count s)).shrunk s (u.count s)

end View

namespace AddressSet

open Access

variable {s : AddressSet} {a : Address} {i n : Nat} {d e : Desk} {u : Unit}

def fill (s : AddressSet) (i n : Nat) : Access Unit :=
  if i < n then do
    let last ← loadAddress (s.elementSlot n)
    storeAddress (s.elementSlot i) last
    storeNat (s.indexSlot last) i
  else pure ()

def shrink (s : AddressSet) (n : Nat) : Access Unit := do
  storeAddress (s.elementSlot n) 0
  storeNat s.sizeSlot (n - 1)

theorem remove_eq (s : AddressSet) (a : Address) : s.remove a = (do
    let i ← s.index a
    if i = 0 then pure () else do
      storeNat (s.indexSlot a) 0
      let n ← s.size
      s.fill i n
      s.shrink n) := by
  unfold remove fill shrink
  refine bind_congr fun i => if_congr Iff.rfl rfl (bind_congr fun _ => bind_congr fun n => ?_)
  by_cases h : i < n
  · simp only [if_pos h, bind_assoc]
  · simp only [if_neg h, pure_bind]

theorem gives_contains {b : Bool} (hg : Gives (s.contains a) d b e) :
    b = decide (d.ledger.view.standing s a ≠ 0) ∧ e.ledger.view = d.ledger.view := by
  obtain ⟨n, t, hn, hg⟩ := gives_bind.mp hg
  obtain ⟨rfl, rfl⟩ := gives_pure.mp hg
  rw [(gives_loadNat hn).1]
  exact ⟨rfl, State.view_of_reads keeps_loadNat hn⟩

theorem gives_size {n : Nat} (hg : Gives s.size d n e) :
    n = d.ledger.view.count s ∧ e.ledger.view = d.ledger.view :=
  ⟨(gives_loadNat hg).1, State.view_of_reads keeps_loadNat hg⟩

theorem gives_add (hg : Gives (s.add a) d u e) : e.ledger.view =
    if d.ledger.view.standing s a = 0 then d.ledger.view.entered s a else d.ledger.view := by
  unfold add at hg
  obtain ⟨b, d₁, hb, hg⟩ := gives_bind.mp hg
  obtain ⟨rfl, hv₁⟩ := gives_contains hb
  by_cases hnew : d.ledger.view.standing s a = 0
  · have hc : ¬ decide (d.ledger.view.standing s a ≠ 0) = true := by simp [hnew]
    rw [if_pos hnew]
    rw [if_neg hc] at hg
    obtain ⟨n, d₂, hn, hg⟩ := gives_bind.mp hg
    obtain ⟨rfl, hv₂⟩ := gives_size hn
    obtain ⟨u₃, d₃, h₃, hg⟩ := gives_bind.mp hg
    obtain ⟨u₄, d₄, h₄, hg⟩ := gives_bind.mp hg
    rw [(gives_store hg).1, (gives_store h₄).1, (gives_store h₃).1, hv₂, hv₁]
    rfl
  · have hc : decide (d.ledger.view.standing s a ≠ 0) = true := by simp [hnew]
    rw [if_neg hnew]
    rw [if_pos hc] at hg
    rw [← (gives_pure.mp hg).2, hv₁]

theorem gives_fill (hg : Gives (s.fill i n) d u e) :
    e.ledger.view = d.ledger.view.filled s i n := by
  unfold fill at hg
  unfold View.filled
  by_cases h : i < n
  · rw [if_pos h] at hg ⊢
    obtain ⟨last, d₁, h₁, hg⟩ := gives_bind.mp hg
    obtain ⟨u₂, d₂, h₂, hg⟩ := gives_bind.mp hg
    rw [(gives_store hg).1, (gives_store h₂).1, State.view_of_reads keeps_loadAddress h₁,
      (gives_loadAddress h₁).1]
    rfl
  · rw [if_neg h] at hg ⊢
    rw [(gives_pure.mp hg).2]

theorem gives_shrink (hg : Gives (s.shrink n) d u e) :
    e.ledger.view = d.ledger.view.shrunk s n := by
  obtain ⟨u₁, d₁, h₁, hg⟩ := gives_bind.mp hg
  rw [(gives_store hg).1, (gives_store h₁).1]
  rfl

theorem gives_remove (hg : Gives (s.remove a) d u e) : e.ledger.view =
    if d.ledger.view.standing s a = 0 then d.ledger.view else d.ledger.view.left s a := by
  rw [remove_eq] at hg
  obtain ⟨i, d₁, hi, hg⟩ := gives_bind.mp hg
  have hv₁ : d₁.ledger.view = d.ledger.view := State.view_of_reads keeps_loadNat hi
  have hstanding : i = d.ledger.view.standing s a := (gives_loadNat hi).1
  subst hstanding
  by_cases hnone : d.ledger.view.standing s a = 0
  · rw [if_pos hnone] at hg ⊢
    rw [← (gives_pure.mp hg).2, hv₁]
  · rw [if_neg hnone] at hg ⊢
    obtain ⟨u₂, d₂, h₂, hg⟩ := gives_bind.mp hg
    obtain ⟨n, d₃, hn, hg⟩ := gives_bind.mp hg
    obtain ⟨u₄, d₄, h₄, hg⟩ := gives_bind.mp hg
    obtain ⟨rfl, hv₃⟩ := gives_size hn
    have hv₂ : d₂.ledger.view = d.ledger.view.setState (s.indexSlot a) 0 := by
      rw [(gives_store h₂).1, hv₁]
      rfl
    rw [gives_shrink hg, gives_fill h₄, hv₃, hv₂]
    rfl

/-! ### Slots that lie apart -/

/-- The slots of so many places and of where these addresses stand lie apart. -/
structure Apart (s : AddressSet) (n : Nat) (A : Address → Prop) : Prop where
  place {i j : Nat} : i ≤ n → j ≤ n → s.elementSlot i = s.elementSlot j → i = j
  standing {a b : Address} : A a → A b → s.indexSlot a = s.indexSlot b → a = b
  between {a : Address} {i : Nat} : A a → i ≤ n → s.indexSlot a ≠ s.elementSlot i

inductive Uses (s : AddressSet) (n : Nat) (A : Address → Prop) : Word → Prop where
  | place {i : Nat} : i ≤ n → Uses s n A (s.elementSlot i)
  | standing {a : Address} : A a → Uses s n A (s.indexSlot a)

end AddressSet

namespace View

open AddressSet

variable {v : View} {s : AddressSet} {n m i j : Nat} {A : Address → Prop} {a b : Address} {w : Word}

section
variable (hA : s.Apart n A)
include hA

theorem state_setPlace_place (hi : i ≤ n) (hj : j ≤ n) :
    (v.setState (s.elementSlot i) w).state (s.elementSlot j) =
      if j = i then w else v.state (s.elementSlot j) := by
  have hiff : s.elementSlot j = s.elementSlot i ↔ j = i :=
    ⟨hA.place hj hi, fun h => by rw [h]⟩
  rw [state_setState]
  exact if_congr hiff rfl rfl

theorem state_setPlace_standing (hi : i ≤ n) (hb : A b) :
    (v.setState (s.elementSlot i) w).state (s.indexSlot b) = v.state (s.indexSlot b) :=
  state_setState_of_ne (hA.between hb hi).symm

theorem state_setStanding_place (ha : A a) (hj : j ≤ n) :
    (v.setState (s.indexSlot a) w).state (s.elementSlot j) = v.state (s.elementSlot j) :=
  state_setState_of_ne (hA.between ha hj)

theorem state_setStanding_standing (ha : A a) (hb : A b) :
    (v.setState (s.indexSlot a) w).state (s.indexSlot b) =
      if b = a then w else v.state (s.indexSlot b) := by
  have hiff : s.indexSlot b = s.indexSlot a ↔ b = a :=
    ⟨hA.standing hb ha, fun h => by rw [h]⟩
  rw [state_setState]
  exact if_congr hiff rfl rfl

/-! ### What one operation does to each slot -/

theorem state_entered_place (ha : A a) (hroom : v.count s + 1 ≤ n) (hj : j ≤ n) :
    (v.entered s a).state (s.elementSlot j) = if j = v.count s + 1 then a.toWord
      else if j = 0 then BitVec.ofNat 256 (v.count s + 1) else v.state (s.elementSlot j) := by
  rw [entered, state_setStanding_place hA ha hj, state_setPlace_place hA hroom hj]
  refine if_congr Iff.rfl rfl ?_
  exact state_setPlace_place hA (Nat.zero_le n) hj

theorem state_entered_standing (ha : A a) (hroom : v.count s + 1 ≤ n) (hb : A b) :
    (v.entered s a).state (s.indexSlot b) =
      if b = a then BitVec.ofNat 256 (v.count s + 1) else v.state (s.indexSlot b) := by
  rw [entered, state_setStanding_standing hA ha hb, state_setPlace_standing hA hroom hb]
  refine if_congr Iff.rfl rfl ?_
  exact state_setPlace_standing hA (Nat.zero_le n) hb

theorem state_filled_place (hi : i ≤ n) (hlast : A (v.elementAt s m)) (hj : j ≤ n) :
    (v.filled s i m).state (s.elementSlot j) =
      if j = i ∧ i < m then (v.elementAt s m).toWord else v.state (s.elementSlot j) := by
  unfold filled
  by_cases h : i < m
  · rw [if_pos h, state_setStanding_place hA hlast hj, state_setPlace_place hA hi hj]
    exact if_congr (by simp [h]) rfl rfl
  · rw [if_neg h, if_neg fun hj => h hj.2]

theorem state_filled_standing (hi : i ≤ n) (hlast : A (v.elementAt s m)) (hb : A b) :
    (v.filled s i m).state (s.indexSlot b) =
      if b = v.elementAt s m ∧ i < m then BitVec.ofNat 256 i else v.state (s.indexSlot b) := by
  unfold filled
  by_cases h : i < m
  · rw [if_pos h, state_setStanding_standing hA hlast hb, state_setPlace_standing hA hi hb]
    exact if_congr (by simp [h]) rfl rfl
  · rw [if_neg h, if_neg fun hb => h hb.2]

theorem state_shrunk_place (hm : m ≤ n) (hj : j ≤ n) : (v.shrunk s m).state (s.elementSlot j) =
    if j = 0 then BitVec.ofNat 256 (m - 1) else if j = m then 0 else v.state (s.elementSlot j) := by
  unfold shrunk
  refine (state_setPlace_place hA (Nat.zero_le n) hj).trans (if_congr Iff.rfl rfl ?_)
  exact state_setPlace_place hA hm hj

theorem state_shrunk_standing (hm : m ≤ n) (hb : A b) :
    (v.shrunk s m).state (s.indexSlot b) = v.state (s.indexSlot b) := by
  unfold shrunk
  exact (state_setPlace_standing hA (Nat.zero_le n) hb).trans (state_setPlace_standing hA hm hb)

theorem count_setStanding (ha : A a) : (v.setState (s.indexSlot a) w).count s = v.count s := by
  have hsize : (v.setState (s.indexSlot a) w).state s.sizeSlot = v.state s.sizeSlot :=
    state_setStanding_place hA ha (Nat.zero_le n)
  unfold count stateNat
  rw [hsize]

theorem elementAt_setStanding (ha : A a) (hi : i ≤ n) :
    (v.setState (s.indexSlot a) w).elementAt s i = v.elementAt s i := by
  unfold elementAt
  rw [state_setStanding_place hA ha hi]

section
variable (ha : A a) (hcount : v.count s ≤ n) (hstanding : v.standing s a ≤ n)
  (hlast : A (v.elementAt s (v.count s)))
include ha hcount hstanding hlast

theorem state_left_place (hj : j ≤ n) : (v.left s a).state (s.elementSlot j) =
    if j = 0 then BitVec.ofNat 256 (v.count s - 1) else if j = v.count s then 0
      else if j = v.standing s a ∧ v.standing s a < v.count s
        then (v.elementAt s (v.count s)).toWord else v.state (s.elementSlot j) := by
  have hlast' : A ((v.setState (s.indexSlot a) 0).elementAt s (v.count s)) := by
    rwa [elementAt_setStanding hA ha hcount]
  unfold left
  dsimp only
  rw [count_setStanding hA ha, state_shrunk_place hA hcount hj,
    state_filled_place hA hstanding hlast' hj, elementAt_setStanding hA ha hcount,
    state_setStanding_place hA ha hj]

theorem state_left_standing (hb : A b) : (v.left s a).state (s.indexSlot b) =
    if b = v.elementAt s (v.count s) ∧ v.standing s a < v.count s
      then BitVec.ofNat 256 (v.standing s a)
      else if b = a then 0 else v.state (s.indexSlot b) := by
  have hlast' : A ((v.setState (s.indexSlot a) 0).elementAt s (v.count s)) := by
    rwa [elementAt_setStanding hA ha hcount]
  unfold left
  dsimp only
  rw [count_setStanding hA ha, state_shrunk_standing hA hcount hb,
    state_filled_standing hA hstanding hlast' hb, elementAt_setStanding hA ha hcount,
    state_setStanding_standing hA ha hb]

end
end

section
variable {slot : Word} (hslot : ¬ s.Uses n A slot)
include hslot

theorem state_setPlace_rest (hi : i ≤ n) :
    (v.setState (s.elementSlot i) w).state slot = v.state slot :=
  state_setState_of_ne fun heq => hslot (heq ▸ .place hi)

theorem state_setStanding_rest (ha : A a) :
    (v.setState (s.indexSlot a) w).state slot = v.state slot :=
  state_setState_of_ne fun heq => hslot (heq ▸ .standing ha)

theorem state_entered_rest (ha : A a) (hroom : v.count s + 1 ≤ n) :
    (v.entered s a).state slot = v.state slot := by
  rw [entered, state_setStanding_rest hslot ha, state_setPlace_rest hslot hroom]
  exact state_setPlace_rest hslot (Nat.zero_le n)

theorem state_filled_rest (hi : i ≤ n) (hlast : A (v.elementAt s m)) :
    (v.filled s i m).state slot = v.state slot := by
  unfold filled
  by_cases h : i < m
  · rw [if_pos h, state_setStanding_rest hslot hlast, state_setPlace_rest hslot hi]
  · rw [if_neg h]

theorem state_shrunk_rest (hm : m ≤ n) : (v.shrunk s m).state slot = v.state slot := by
  unfold shrunk
  exact (state_setPlace_rest hslot (Nat.zero_le n)).trans (state_setPlace_rest hslot hm)

theorem state_left_rest (hA : s.Apart n A) (ha : A a) (hcount : v.count s ≤ n)
    (hstanding : v.standing s a ≤ n) (hlast : A (v.elementAt s (v.count s))) :
    (v.left s a).state slot = v.state slot := by
  have hlast' : A ((v.setState (s.indexSlot a) 0).elementAt s (v.count s)) := by
    rwa [elementAt_setStanding hA ha hcount]
  unfold left
  dsimp only
  rw [count_setStanding hA ha, state_shrunk_rest hslot hcount,
    state_filled_rest hslot hstanding hlast', state_setStanding_rest hslot ha]

end

/-! ### What a set lists -/

/-- These are the members of a set, as its size, its elements and its index tell, and there is
nothing behind them. -/
structure Lists (v : View) (s : AddressSet) (n : Nat) (A : Address → Prop) (as : List Address) :
    Prop where
  nodup : as.Nodup
  known {a : Address} : a ∈ as → A a
  fits : as.length ≤ n
  short : as.length < 2 ^ 64
  size : v.state s.sizeSlot = BitVec.ofNat 256 as.length
  element {i : Nat} {a : Address} : as[i]? = some a → v.state (s.elementSlot (i + 1)) = a.toWord
  standing {i : Nat} {a : Address} :
    as[i]? = some a → v.state (s.indexSlot a) = BitVec.ofNat 256 (i + 1)
  absent {a : Address} : A a → a ∉ as → v.state (s.indexSlot a) = 0
  beyond {i : Nat} : as.length < i → i ≤ n → v.state (s.elementSlot i) = 0

namespace Lists

variable {as : List Address} (hA : s.Apart n A) (h : v.Lists s n A as)

section
include h

theorem count_eq : v.count s = as.length := stateNat_of_state (by decide) h.short h.size

theorem standing_eq (ha : as[i]? = some a) : v.standing s a = i + 1 := by
  have hi : i < as.length := (List.getElem?_eq_some_iff.mp ha).1
  exact stateNat_of_state (by decide) (by have := h.short; omega) (h.standing ha)

theorem standing_zero (ha : A a) : v.standing s a = 0 ↔ a ∉ as := by
  constructor
  · intro hzero hmem
    obtain ⟨i, hi⟩ := List.mem_iff_getElem?.mp hmem
    rw [h.standing_eq hi] at hzero
    cases hzero
  · intro hnot
    have hword : v.state (s.indexSlot a) = BitVec.ofNat 256 0 := h.absent ha hnot
    exact stateNat_of_state (n := 0) (by decide) (Nat.two_pow_pos 64) hword

theorem elementAt_eq (ha : as[i]? = some a) : v.elementAt s (i + 1) = a := by
  rw [elementAt, h.element ha, Address.ofWord_toWord]

theorem bounds (ha : as[i]? = some a) : A a ∧ v.count s ≤ n ∧ v.standing s a ≤ n ∧
    v.elementAt s (v.count s) = as.getLastD 0 ∧ A (as.getLastD 0) := by
  have hi : i < as.length := (List.getElem?_eq_some_iff.mp ha).1
  have hcount := h.count_eq
  have hstanding := h.standing_eq ha
  have hfits := h.fits
  have hend : v.elementAt s (v.count s) = as.getLastD 0 := by
    have hplace : as.length - 1 + 1 = as.length := by omega
    rw [hcount, ← hplace]
    exact h.elementAt_eq (getElem?_last hi)
  exact ⟨h.known (List.mem_of_getElem? ha), by omega, by omega, hend,
    h.known (List.mem_of_getElem? (getElem?_last hi))⟩

end

include hA h

section
variable (ha : A a) (hfits : as.length + 1 ≤ n)
include ha hfits

theorem place_entered (hj : j ≤ n) : (v.entered s a).state (s.elementSlot j) =
    if j = as.length + 1 then a.toWord else if j = 0 then BitVec.ofNat 256 (as.length + 1)
      else v.state (s.elementSlot j) := by
  rw [← h.count_eq] at hfits ⊢
  exact state_entered_place hA ha hfits hj

theorem standing_entered (hb : A b) : (v.entered s a).state (s.indexSlot b) =
    if b = a then BitVec.ofNat 256 (as.length + 1) else v.state (s.indexSlot b) := by
  rw [← h.count_eq] at hfits ⊢
  exact state_entered_standing hA ha hfits hb

theorem enter (hnew : a ∉ as) (hshort : as.length + 1 < 2 ^ 64) :
    (v.entered s a).Lists s n A (as ++ [a]) where
  nodup := by
    have hnodup := (Op.add a).nodup_apply h.nodup
    rwa [Op.apply_add_of_notMem hnew] at hnodup
  known {b} hb := by
    rcases List.mem_append.mp hb with hb | hb
    · exact h.known hb
    · rwa [List.mem_singleton.mp hb]
  fits := by rwa [List.length_append]
  short := by rwa [List.length_append]
  size := by
    rw [List.length_append]
    exact (h.place_entered hA ha hfits (Nat.zero_le n)).trans (if_neg (by omega))
  element {i b} hb := by
    rcases getElem?_append_eq_some hb with ⟨hi, hb⟩ | ⟨rfl, rfl⟩
    · rw [h.place_entered hA ha hfits (by omega), if_neg (by omega), if_neg (by omega), h.element hb]
    · rw [h.place_entered hA ha hfits hfits, if_pos rfl]
  standing {i b} hb := by
    rcases getElem?_append_eq_some hb with ⟨hi, hb⟩ | ⟨rfl, rfl⟩
    · have hmem : b ∈ as := List.mem_of_getElem? hb
      have hne : b ≠ a := fun heq => hnew (heq ▸ hmem)
      rw [h.standing_entered hA ha hfits (h.known hmem), if_neg hne, h.standing hb]
    · rw [h.standing_entered hA ha hfits ha, if_pos rfl]
  absent {b} hb hnot := by
    have hnot' : b ∉ as ∧ b ≠ a := by simpa using hnot
    rw [h.standing_entered hA ha hfits hb, if_neg hnot'.2, h.absent hb hnot'.1]
  beyond {i} hlt hle := by
    rw [List.length_append, List.length_singleton] at hlt
    rw [h.place_entered hA ha hfits hle, if_neg (by omega), if_neg (by omega),
      h.beyond (by omega) hle]

end

section
variable (ha : as[i]? = some a)
include ha

theorem place_left (hj : j ≤ n) : (v.left s a).state (s.elementSlot j) =
    if j = 0 then BitVec.ofNat 256 (as.length - 1) else if j = as.length then 0
      else if j = i + 1 ∧ i + 1 < as.length then (as.getLastD 0).toWord
        else v.state (s.elementSlot j) := by
  obtain ⟨hknown, hcount, hstanding, hend, hlast⟩ := h.bounds ha
  rw [state_left_place hA hknown hcount hstanding (hend ▸ hlast) hj, hend, h.count_eq,
    h.standing_eq ha]

theorem standing_left (hb : A b) : (v.left s a).state (s.indexSlot b) =
    if b = as.getLastD 0 ∧ i + 1 < as.length then BitVec.ofNat 256 (i + 1)
      else if b = a then 0 else v.state (s.indexSlot b) := by
  obtain ⟨hknown, hcount, hstanding, hend, hlast⟩ := h.bounds ha
  rw [state_left_standing hA hknown hcount hstanding (hend ▸ hlast) hb, hend, h.count_eq,
    h.standing_eq ha]

/-- When one is removed, the last one is listed in its place. -/
theorem leave : (v.left s a).Lists s n A (leave i as) where
  nodup := nodup_leave h.nodup (List.getElem?_eq_some_iff.mp ha).1
  known hb := h.known ((mem_leave h.nodup ha).mp hb).1
  fits := length_leave.trans_le ((Nat.sub_le _ _).trans h.fits)
  short := length_leave.trans_lt ((Nat.sub_le _ _).trans_lt h.short)
  size := by
    rw [length_leave]
    exact (h.place_left hA ha (Nat.zero_le n)).trans (if_pos rfl)
  element {j b} hb := by
    have hfits := h.fits
    obtain ⟨hj, ⟨rfl, rfl⟩ | ⟨hji, hb⟩⟩ :=
      getElem?_leave_eq_some (List.getElem?_eq_some_iff.mp ha).1 hb
    · rw [h.place_left hA ha (by omega), if_neg (by omega), if_neg (by omega), if_pos ⟨rfl, hj⟩]
    · rw [h.place_left hA ha (by omega), if_neg (by omega), if_neg (by omega), if_neg (by omega),
        h.element hb]
  standing {j b} hb := by
    have hi : i < as.length := (List.getElem?_eq_some_iff.mp ha).1
    have hlast := getElem?_last hi
    obtain ⟨hj, ⟨rfl, rfl⟩ | ⟨hji, hb⟩⟩ := getElem?_leave_eq_some hi hb
    · rw [h.standing_left hA ha (h.known (List.mem_of_getElem? hlast)), if_pos ⟨rfl, hj⟩]
    · have hne : b ≠ as.getLastD 0 := by
        rintro rfl
        have hsame := place_inj h.nodup hb hlast
        omega
      have hne' : b ≠ a := fun heq => hji (place_inj h.nodup hb (heq ▸ ha))
      rw [h.standing_left hA ha (h.known (List.mem_of_getElem? hb)), if_neg fun hc => hne hc.1,
        if_neg hne', h.standing hb]
  absent {b} hb hnot := by
    have hi : i < as.length := (List.getElem?_eq_some_iff.mp ha).1
    have hlast := getElem?_last hi
    rw [mem_leave h.nodup ha] at hnot
    by_cases hba : b = a
    · subst hba
      have hne : ¬ (b = as.getLastD 0 ∧ i + 1 < as.length) := by
        rintro ⟨heq, hlt⟩
        have hsame := place_inj h.nodup ha (heq ▸ hlast)
        omega
      rw [h.standing_left hA ha hb, if_neg hne, if_pos rfl]
    · have hmem : b ∉ as := fun hmem => hnot ⟨hmem, hba⟩
      have hne : b ≠ as.getLastD 0 := fun heq => hmem (heq ▸ List.mem_of_getElem? hlast)
      rw [h.standing_left hA ha hb, if_neg fun hc => hne hc.1, if_neg hba, h.absent hb hmem]
  beyond {j} hlt hjn := by
    rw [length_leave] at hlt
    rw [h.place_left hA ha hjn, if_neg (by omega)]
    by_cases hj : j = as.length
    · rw [if_pos hj]
    · rw [if_neg hj, if_neg (by omega), h.beyond (by omega) hjn]

end

end Lists
end View
end Inkwell
