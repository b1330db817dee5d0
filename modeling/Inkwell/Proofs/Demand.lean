import Inkwell.Pricer
import Mathlib.Data.List.Induction
set_option autoImplicit false

/-! The demand for data is a bucket that leaks at a constant rate. What it holds depends on how many bytes
come at each second, and neither on their order nor on how they are divided among updates. -/

namespace Inkwell

structure Load where
  bytes : UInt32
  time : UInt64
  deriving DecidableEq, Repr

namespace Load

variable {start : UInt64} {ls ks : List Load} {l : Load}

/-- The bytes that come at one second. -/
def sumAt (ls : List Load) (second : Nat) : Nat :=
  ((ls.filter (·.time.toNat = second)).map (·.bytes.toNat)).sum

def last (start : UInt64) (ls : List Load) : UInt64 := ls.foldl (fun _ l => l.time) start

/-- In the order of their times, none before the start. -/
def InOrder (start : UInt64) (ls : List Load) : Prop := (start :: ls.map time).Pairwise (· ≤ ·)

theorem sumAt_append (ls ks : List Load) (second : Nat) :
    sumAt (ls ++ ks) second = sumAt ls second + sumAt ks second := by simp [sumAt]

theorem sumAt_singleton (l : Load) (second : Nat) :
    sumAt [l] second = if l.time.toNat = second then l.bytes.toNat else 0 := by
  by_cases h : l.time.toNat = second <;> simp [sumAt, h]

theorem sumAt_eq_zero {second : Nat} (h : ∀ l ∈ ls, l.time.toNat ≠ second) : sumAt ls second = 0 := by
  have hnone : ls.filter (·.time.toNat = second) = [] := by simpa using h
  simp [sumAt, hnone]

theorem sumAt_of_perm (h : ks.Perm ls) (second : Nat) : sumAt ks second = sumAt ls second :=
  ((h.filter _).map _).sum_nat

theorem sumAt_group {t : UInt64} (h : ∀ l ∈ ls, l.time = t) (second : Nat) :
    sumAt ls second = if t.toNat = second then (ls.map (·.bytes.toNat)).sum else 0 := by
  by_cases ht : t.toNat = second
  · have hall : ls.filter (·.time.toNat = second) = ls :=
      List.filter_eq_self.mpr fun l hl => by simp [h l hl, ht]
    rw [sumAt, hall, if_pos ht]
  · rw [if_neg ht]
    exact sumAt_eq_zero fun l hl => by rwa [h l hl]

theorem sumAt_filter (ls : List Load) (second : Nat) :
    sumAt (ls.filter (·.bytes ≠ 0)) second = sumAt ls second := by
  induction ls with
  | nil => rfl
  | cons l ls ih =>
    have hsplit : ∀ ks, sumAt (l :: ks) second = sumAt [l] second + sumAt ks second :=
      fun ks => sumAt_append [l] ks second
    by_cases hl : l.bytes = 0
    · rw [List.filter_cons_of_neg (by simpa using hl), ih, hsplit, sumAt_singleton, hl]
      simp
    · rw [List.filter_cons_of_pos (by simpa using hl), hsplit, ih, hsplit ls]

@[simp] theorem last_append (start : UInt64) (ls ks : List Load) :
    last start (ls ++ ks) = last (last start ls) ks := List.foldl_append

theorem last_mem (start : UInt64) (ls : List Load) : last start ls ∈ start :: ls.map time := by
  induction ls using List.reverseRecOn with
  | nil => exact List.mem_singleton_self _
  | append_singleton ls l => simp [last]

theorem InOrder.init (h : InOrder start (ls ++ [l])) : InOrder start ls := by
  unfold InOrder at *
  rw [List.map_append, ← List.cons_append] at h
  exact (List.pairwise_append.mp h).1

theorem InOrder.last_le (h : InOrder start (ls ++ [l])) : last start ls ≤ l.time := by
  unfold InOrder at h
  rw [List.map_append, ← List.cons_append] at h
  exact (List.pairwise_append.mp h).2.2 _ (last_mem start ls) _ (by simp)

theorem InOrder.le_last (h : InOrder start ls) : ∀ t ∈ start :: ls.map time, t ≤ last start ls := by
  induction ls using List.reverseRecOn with
  | nil => simp [last]
  | append_singleton ls l ih =>
    intro t ht
    rw [last_append]
    change t ≤ l.time
    rw [List.map_append, ← List.cons_append] at ht
    rcases List.mem_append.mp ht with ht | ht
    · exact UInt64.le_trans (ih h.init t ht) h.last_le
    · exact UInt64.le_of_eq (List.mem_singleton.mp ht)

theorem InOrder.last_unique {t : UInt64} (h : InOrder start ls) (hmem : t ∈ start :: ls.map time)
    (hle : ∀ u ∈ start :: ls.map time, u ≤ t) : last start ls = t :=
  UInt64.le_antisymm (hle _ (last_mem start ls)) (h.le_last t hmem)

theorem InOrder.sumAt_after (h : InOrder start ls) {second : Nat}
    (hafter : (last start ls).toNat < second) : sumAt ls second = 0 :=
  sumAt_eq_zero fun l hl => by
    have hle : l.time ≤ last start ls := h.le_last _ (List.mem_cons_of_mem _ (List.mem_map_of_mem hl))
    rw [UInt64.le_iff_toNat_le] at hle
    omega

end Load

namespace Pricer

open Load

/-! ### Seconds -/

section Level

variable {rate demand : Nat} {rain rain' : Nat → Nat} {k : Nat}

/-- The demand some seconds after a start, as bytes come second by second. -/
def level (rate demand : Nat) (rain : Nat → Nat) : Nat → Nat
  | 0 => min (demand + rain 0) (2 ^ 32 - 1)
  | k+1 => min (level rate demand rain k - rate + rain (k + 1)) (2 ^ 32 - 1)

theorem level_le (k : Nat) : level rate demand rain k ≤ 2 ^ 32 - 1 := by
  cases k <;> exact Nat.min_le_right _ _

theorem level_congr (h : ∀ i ≤ k, rain i = rain' i) :
    level rate demand rain k = level rate demand rain' k := by
  induction k with
  | zero => simp only [level, h 0 (Nat.le_refl 0)]
  | succ k ih => simp only [level, ih fun i hi => h i (by omega), h (k + 1) (Nat.le_refl _)]

theorem level_dry {j : Nat} (h : ∀ i, k < i → i ≤ k + j → rain i = 0) :
    level rate demand rain (k + j) = level rate demand rain k - rate * j := by
  induction j with
  | zero => simp
  | succ j ih =>
    have hdry : rain (k + (j + 1)) = 0 := h _ (by omega) (Nat.le_refl _)
    have hle : level rate demand rain k ≤ 2 ^ 32 - 1 := level_le k
    rw [← Nat.add_assoc, level, ih fun i hk hi => h i hk (by omega), Nat.add_assoc, hdry, Nat.mul_succ]
    omega

theorem level_more {n : Nat} (h : ∀ i < k, rain' i = rain i) (hk : rain' k = rain k + n) :
    level rate demand rain' k = min (level rate demand rain k + n) (2 ^ 32 - 1) := by
  cases k with
  | zero => simp only [level, hk]; omega
  | succ k =>
    have hbefore : level rate demand rain' k = level rate demand rain k :=
      level_congr fun i hi => h i (by omega)
    simp only [level, hbefore, hk]; omega

end Level

/-! ### Updates -/

variable {p : Pricer} {ls ks : List Load}

/-- Neither the product nor the sum of an update reaches the bounds of its width. -/
theorem demandAfter_eq {bytes now : Nat} : p.demandAfter bytes now =
    min (p.demand.toNat - p.bytesPerSecond.toNat * (now - p.lastUpdate.toNat) + bytes) (2 ^ 32 - 1) := by
  have hdemand : p.demand.toNat < 2 ^ 32 := p.demand.toNat_lt
  unfold demandAfter clamp64 max64
  dsimp only
  omega

theorem toNat_demand_update (l : Load) : (p.update l.bytes l.time).1.demand.toNat =
    p.demandAfter l.bytes.toNat l.time.toNat := by
  have hle : p.demandAfter l.bytes.toNat l.time.toNat ≤ 2 ^ 32 - 1 := Nat.min_le_right _ _
  change (UInt32.ofNat _).toNat = _
  rw [UInt32.toNat_ofNat']
  omega

def absorb (p : Pricer) (ls : List Load) : Pricer :=
  ls.foldl (fun p l => (p.update l.bytes l.time).1) p

theorem absorb_concat (p : Pricer) (ls : List Load) (l : Load) :
    p.absorb (ls ++ [l]) = ((p.absorb ls).update l.bytes l.time).1 := List.foldl_append

theorem absorb_eq (p : Pricer) (ls : List Load) : p.absorb ls =
    { p with demand := (p.absorb ls).demand, lastUpdate := last p.lastUpdate ls } := by
  induction ls using List.reverseRecOn with
  | nil => rfl
  | append_singleton ls l ih =>
    rw [absorb_concat, last_append, update, ih]
    rfl

def arrivals (p : Pricer) (ls : List Load) (k : Nat) : Nat := sumAt ls (p.lastUpdate.toNat + k)

/-- Up to a further load there is nothing but the leak. -/
theorem level_concat {rate demand : Nat} {l : Load} (h : InOrder p.lastUpdate (ls ++ [l])) :
    level rate demand (p.arrivals (ls ++ [l])) (l.time.toNat - p.lastUpdate.toNat) =
      min (level rate demand (p.arrivals ls) ((last p.lastUpdate ls).toNat - p.lastUpdate.toNat) -
        rate * (l.time.toNat - (last p.lastUpdate ls).toNat) + l.bytes.toNat) (2 ^ 32 - 1) := by
  have hstart : p.lastUpdate.toNat ≤ (last p.lastUpdate ls).toNat :=
    UInt64.le_iff_toNat_le.mp (h.init.le_last _ List.mem_cons_self)
  have hnext : (last p.lastUpdate ls).toNat ≤ l.time.toNat := UInt64.le_iff_toNat_le.mp h.last_le
  obtain ⟨k, hk⟩ := Nat.exists_eq_add_of_le hstart
  obtain ⟨j, hj⟩ := Nat.exists_eq_add_of_le hnext
  have hold : (last p.lastUpdate ls).toNat - p.lastUpdate.toNat = k := by omega
  have hnew : l.time.toNat - p.lastUpdate.toNat = k + j := by omega
  have helapsed : l.time.toNat - (last p.lastUpdate ls).toNat = j := by omega
  have hdry : ∀ i, k < i → i ≤ k + j → p.arrivals ls i = 0 :=
    fun i hi _ => h.init.sumAt_after (by omega)
  have hmore : ∀ i, p.arrivals (ls ++ [l]) i =
      p.arrivals ls i + if i = k + j then l.bytes.toNat else 0 := by
    intro i
    unfold arrivals
    rw [sumAt_append, sumAt_singleton]
    congr 1
    exact if_congr (by omega) rfl rfl
  -- Without the load the bucket leaks down to it; with it only the last second is different.
  rw [hold, hnew, helapsed, ← level_dry hdry]
  exact level_more (fun i hi => by rw [hmore, if_neg (by omega), Nat.add_zero])
    (by rw [hmore, if_pos rfl])

/-- Demand is what second after second leaves of it. -/
theorem demand_absorb (h : InOrder p.lastUpdate ls) : (p.absorb ls).demand.toNat =
    level p.bytesPerSecond.toNat p.demand.toNat (p.arrivals ls)
      ((last p.lastUpdate ls).toNat - p.lastUpdate.toNat) := by
  induction ls using List.reverseRecOn with
  | nil =>
    have hdemand : p.demand.toNat < 2 ^ 32 := p.demand.toNat_lt
    simp only [absorb, last, arrivals, sumAt, List.foldl_nil, Nat.sub_self, level, List.filter_nil,
      List.map_nil, List.sum_nil]
    omega
  | append_singleton ls l ih =>
    have hlast : last p.lastUpdate (ls ++ [l]) = l.time := by simp [last]
    rw [hlast, level_concat h, absorb_concat, toNat_demand_update, demandAfter_eq, ih h.init, absorb_eq]

/-- What comes at each second, and the time of the last, is all that loads do. -/
theorem absorb_congr (hks : InOrder p.lastUpdate ks) (hls : InOrder p.lastUpdate ls)
    (hsum : ∀ second, sumAt ks second = sumAt ls second)
    (hlast : last p.lastUpdate ks = last p.lastUpdate ls) : p.absorb ks = p.absorb ls := by
  have hdemand : (p.absorb ks).demand = (p.absorb ls).demand := by
    rw [← UInt32.toNat_inj, demand_absorb hks, demand_absorb hls, hlast]
    exact level_congr fun i _ => hsum _
  rw [absorb_eq p ks, absorb_eq p ls, hdemand, hlast]

/-! ### The bucket -/

/-- The bucket in exact integers: what it holds, and since when. -/
def bucket (rate : Nat) (s : Int × Int) (l : Load) : Int × Int :=
  (min (max (s.1 - rate * (l.time.toNat - s.2)) 0 + l.bytes.toNat) (2 ^ 32 - 1), l.time.toNat)

def held (p : Pricer) : Int × Int := (p.demand.toNat, p.lastUpdate.toNat)

theorem held_update {l : Load} (h : p.lastUpdate ≤ l.time) :
    (p.update l.bytes l.time).1.held = bucket p.bytesPerSecond.toNat p.held l := by
  have hsince : p.lastUpdate.toNat ≤ l.time.toNat := UInt64.le_iff_toNat_le.mp h
  have hleak : (p.bytesPerSecond.toNat : Int) * (l.time.toNat - p.lastUpdate.toNat) =
      (p.bytesPerSecond.toNat * (l.time.toNat - p.lastUpdate.toNat) : Nat) := by
    rw [Int.natCast_mul, Int.ofNat_sub hsince]
  refine Prod.ext ?_ rfl
  change ((p.update l.bytes l.time).1.demand.toNat : Int) = min (max (_ - _) 0 + _) (2 ^ 32 - 1)
  rw [toNat_demand_update, demandAfter_eq, held, hleak]
  dsimp only
  omega

theorem held_absorb (h : InOrder p.lastUpdate ls) :
    (p.absorb ls).held = ls.foldl (bucket p.bytesPerSecond.toNat) p.held := by
  induction ls using List.reverseRecOn with
  | nil => rfl
  | append_singleton ls l ih =>
    have hlast : (p.absorb ls).lastUpdate = last p.lastUpdate ls := by rw [absorb_eq]
    have hrate : (p.absorb ls).bytesPerSecond = p.bytesPerSecond := by rw [absorb_eq]
    rw [absorb_concat, held_update (hlast ▸ h.last_le), hrate, ih h.init, List.foldl_append]
    rfl

/-! ### The same bytes in other updates -/

theorem absorb_perm (hks : InOrder p.lastUpdate ks) (hls : InOrder p.lastUpdate ls)
    (hperm : ks.Perm ls) : p.absorb ks = p.absorb ls := by
  have htimes : (p.lastUpdate :: ks.map time).Perm (p.lastUpdate :: ls.map time) :=
    (hperm.map time).cons _
  exact absorb_congr hks hls (sumAt_of_perm hperm)
    (hks.last_unique (htimes.mem_iff.mpr (last_mem _ ls)) fun u hu =>
      hls.le_last u (htimes.mem_iff.mp hu))

theorem absorb_merged {before group after : List Load} {l : Load}
    (h : InOrder p.lastUpdate (before ++ group ++ after)) (hgroup : group ≠ [])
    (htime : ∀ k ∈ group, k.time = l.time) (hbytes : (group.map (·.bytes.toNat)).sum = l.bytes.toNat) :
    p.absorb (before ++ l :: after) = p.absorb (before ++ group ++ after) := by
  -- The merged load stands where the last of the group stood, so that the order is kept.
  obtain ⟨group, k, rfl⟩ : ∃ ks k, group = ks ++ [k] :=
    ⟨_, _, (List.dropLast_concat_getLast hgroup).symm⟩
  have hk : k.time = l.time := htime k (by simp)
  refine absorb_congr (h.sublist ?_) h (fun second => ?_) ?_
  · rw [List.map_append, List.map_cons, List.append_assoc, List.map_append, List.map_append,
      List.map_append, List.map_singleton, hk, List.append_assoc]
    exact ((List.sublist_append_right _ _).append_left _).cons_cons _
  · rw [List.append_cons, sumAt_append, sumAt_append, sumAt_append, sumAt_append, sumAt_singleton,
      sumAt_group htime, hbytes]
  · rw [List.append_cons, last_append, last_append, last_append, last_append, last_append]
    change last l.time after = last k.time after
    rw [hk]

theorem absorb_idle (hks : InOrder p.lastUpdate ks) (hls : InOrder p.lastUpdate ls)
    (hmore : ls.Sublist ks) (hbytes : ks.filter (·.bytes ≠ 0) = ls.filter (·.bytes ≠ 0))
    (hlast : ∀ l ∈ ks, l.time ≤ last p.lastUpdate ls) : p.absorb ks = p.absorb ls := by
  refine absorb_congr hks hls (fun second => ?_) (hks.last_unique ?_ fun u hu => ?_)
  · rw [← sumAt_filter, hbytes, sumAt_filter]
  · exact ((hmore.map time).cons_cons _).subset (last_mem _ ls)
  · rcases List.mem_cons.mp hu with rfl | hu
    · exact hls.le_last _ List.mem_cons_self
    · obtain ⟨l, hl, rfl⟩ := List.mem_map.mp hu
      exact hlast l hl

/-- The demand for data under updates in the order of their times, none before the last update. It is
that of a bucket in exact integers, so that no bound of a width is ever met but the cap. And it
depends only on the bytes that come at each second: updates of the same time can change places or
be one update, and updates without bytes can be put in anywhere up to the last time. -/
theorem demand_by_second (p : Pricer) {ls : List Load} (h : InOrder p.lastUpdate ls) :
    (p.absorb ls).held = ls.foldl (bucket p.bytesPerSecond.toNat) p.held ∧
    (∀ ks, InOrder p.lastUpdate ks → ks.Perm ls → p.absorb ks = p.absorb ls) ∧
    (∀ before group after l, ls = before ++ group ++ after → group ≠ [] →
      (∀ k ∈ group, k.time = l.time) → (group.map (·.bytes.toNat)).sum = l.bytes.toNat →
      p.absorb (before ++ l :: after) = p.absorb ls) ∧
    (∀ ks, InOrder p.lastUpdate ks → ls.Sublist ks →
      ks.filter (·.bytes ≠ 0) = ls.filter (·.bytes ≠ 0) →
      (∀ l ∈ ks, l.time ≤ last p.lastUpdate ls) → p.absorb ks = p.absorb ls) ∧
    (∀ ks, InOrder p.lastUpdate ks → (∀ second, sumAt ks second = sumAt ls second) →
      last p.lastUpdate ks = last p.lastUpdate ls → p.absorb ks = p.absorb ls) := by
  refine ⟨held_absorb h, fun ks hks => absorb_perm hks h, ?_, fun ks hks => absorb_idle hks h,
    fun ks hks => absorb_congr hks h⟩
  rintro before group after l rfl
  exact absorb_merged h

/-- Five bytes and seven at one second are twelve at that second. -/
theorem demand_by_second_merged :
    let p : Pricer := { lastUpdate := 0 }
    InOrder p.lastUpdate [⟨5, 10⟩, ⟨7, 10⟩] ∧ p.absorb [⟨12, 10⟩] = p.absorb [⟨5, 10⟩, ⟨7, 10⟩] := by
  intro p
  have h : InOrder p.lastUpdate [⟨5, 10⟩, ⟨7, 10⟩] := by simp [InOrder, p]
  obtain ⟨-, -, hmerged, -⟩ := demand_by_second p h
  exact ⟨h, hmerged [] [⟨5, 10⟩, ⟨7, 10⟩] [] ⟨12, 10⟩ rfl (by simp) (by simp) rfl⟩

end Pricer
end Inkwell
