import Inkwell.Proofs.Distinct
import Inkwell.Proofs.Tiers
set_option autoImplicit false

/-! The order in which a bounded map keeps its entries, and the distinct keys of a history by their
latest use. A use brings a key to the front of both. -/

namespace Inkwell

section Latest

variable {κ : Type} [DecidableEq κ] {k : κ} {us : List κ}

theorem used_since {ks : List κ} (h : (ks ++ [k]).Sublist us.eraseDups) :
    ∃ recent before, us = recent ++ k :: before ∧ k ∉ recent ∧ ks ⊆ recent := by
  have hmem : k ∈ us := List.mem_eraseDups.mp (h.subset (by simp))
  obtain ⟨recent, before, rfl, hfirst⟩ := List.eq_append_cons_of_mem hmem
  refine ⟨recent, before, rfl, hfirst, fun j hj => ?_⟩
  rw [eraseDups_append, eraseDups_cons_filter, List.filter_cons_of_pos (by simpa using hfirst)] at h
  obtain ⟨front, rest, hsplit, hks, hk⟩ := List.append_sublist_iff.mp h
  have hrest : k ∈ rest := List.singleton_sublist.mp hk
  suffices hfront : j ∈ recent.eraseDups from List.mem_eraseDups.mp hfront
  rcases List.append_eq_append_iff.mp hsplit with ⟨l, rfl, hl⟩ | ⟨l, hl, -⟩
  · cases l with
    | nil => simpa using hks.subset hj
    | cons k' l =>
      -- the key would come twice
      obtain ⟨rfl, htail⟩ := List.cons.inj hl
      have htwice : k ∈ l.append rest := List.mem_append_right l hrest
      rw [← htail] at htwice
      simp at htwice
  · rw [hl]
    exact List.mem_append_left l (hks.subset hj)

/-- Cutting before a use leaves the same at the front as cutting after it. -/
theorem take_use (hnodup : us.Nodup) (n : Nat) :
    (k :: (us.take n).filter (· ≠ k)).take n = (k :: us.filter (· ≠ k)).take n := by
  cases n with
  | zero => rfl
  | succ n =>
    rw [List.take_succ_cons, List.take_succ_cons]
    congr 1
    induction us generalizing n with
    | nil => rfl
    | cons u us ih =>
      obtain ⟨hu, hus⟩ := List.nodup_cons.mp hnodup
      rw [List.take_succ_cons]
      by_cases huk : u = k
      · have hk : k ∉ us := huk ▸ hu
        rw [List.filter_cons_of_neg (by simp [huk]), List.filter_cons_of_neg (by simp [huk]),
          filter_of_new hk, filter_of_new fun h => hk (List.mem_of_mem_take h), List.take_take,
          Nat.min_self]
      · rw [List.filter_cons_of_pos (by simp [huk]), List.filter_cons_of_pos (by simp [huk])]
        cases n with
        | zero => rfl
        | succ n => rw [List.take_succ_cons, List.take_succ_cons, ih hus]

end Latest

namespace Lru

variable {κ α : Type} [DecidableEq κ] {c : Lru κ α} {j k : κ} {v : α}

/-- A map with room for an entry at least, and no two entries of one key. -/
structure Tidy (c : Lru κ α) : Prop where
  room : 1 ≤ c.capacity
  fits : c.keys.length ≤ c.capacity
  nodup : c.keys.Nodup

omit [DecidableEq κ] in
theorem tidy_ofCapacity (n : Nat) : (ofCapacity n : Lru κ α).Tidy where
  room := Nat.le_max_right n 1
  fits := Nat.zero_le _
  nodup := List.nodup_nil

theorem keys_others (c : Lru κ α) (k : κ) : (c.others k).map Prod.fst = c.keys.filter (· ≠ k) := by
  unfold others keys
  rw [List.filter_map]
  rfl

@[simp] theorem capacity_get? (c : Lru κ α) (k : κ) : (c.get? k).2.capacity = c.capacity := by
  unfold get?
  cases c.entries.find? (·.1 = k) <;> rfl

@[simp] theorem capacity_insert (c : Lru κ α) (k : κ) (v : α) :
    (c.insert k v).2.capacity = c.capacity := by
  unfold insert
  dsimp only
  split_ifs <;> rfl

theorem mem_use (h : j ∈ c.keys) : j ∈ k :: c.keys.filter (· ≠ k) := by
  by_cases hjk : j = k
  · exact hjk ▸ List.mem_cons_self
  · exact List.mem_cons_of_mem k (List.mem_filter.mpr ⟨h, by simpa using hjk⟩)

theorem length_use (h : k ∈ c.keys) : (k :: c.keys.filter (· ≠ k)).length ≤ c.keys.length :=
  List.length_filter_lt_length_iff_exists.mpr ⟨k, h, by simp⟩

theorem keys_get? (h : k ∈ c.keys) : (c.get? k).2.keys = k :: c.keys.filter (· ≠ k) := by
  obtain ⟨v, hv⟩ := find?_some h
  unfold get?
  rw [hv, ← keys_others]
  rfl

theorem filter_keys_get? (c : Lru κ α) (k : κ) :
    (c.get? k).2.keys.filter (· ≠ k) = c.keys.filter (· ≠ k) := by
  by_cases h : k ∈ c.keys
  · rw [keys_get? h, List.filter_cons_of_neg (by simp), List.filter_filter]
    simp
  · rw [get?_of_not_mem h]

theorem use_of_fits (hc : c.Tidy) (h : k ∈ c.keys) :
    (k :: c.keys.filter (· ≠ k)).take c.capacity = k :: c.keys.filter (· ≠ k) :=
  List.take_of_length_le ((length_use h).trans hc.fits)

theorem keys_insert (hc : c.Tidy) (k : κ) (v : α) :
    (c.insert k v).2.keys = (k :: c.keys.filter (· ≠ k)).take c.capacity := by
  have hlength : (k :: c.keys.filter (· ≠ k)).length ≤ c.capacity + 1 :=
    Nat.succ_le_succ ((List.length_filter_le _ _).trans hc.fits)
  have hkeys : ((k, v) :: c.others k).map Prod.fst = k :: c.keys.filter (· ≠ k) := by
    rw [List.map_cons, keys_others]
  have hsame : ((k, v) :: c.others k).length = (k :: c.keys.filter (· ≠ k)).length := by
    rw [← hkeys, List.length_map]
  unfold insert
  dsimp only
  rw [hsame]
  by_cases hfull : c.capacity < (k :: c.keys.filter (· ≠ k)).length
  · rw [if_pos hfull]
    have hcapacity : (k :: c.keys.filter (· ≠ k)).length - 1 = c.capacity := by omega
    change ((k, v) :: c.others k).dropLast.map Prod.fst = _
    rw [List.map_dropLast, hkeys, List.dropLast_eq_take, hcapacity]
  · rw [if_neg hfull, List.take_of_length_le (Nat.not_lt.mp hfull)]
    exact hkeys

theorem nodup_use (hc : c.Tidy) (k : κ) : (k :: c.keys.filter (· ≠ k)).Nodup :=
  List.nodup_cons.mpr ⟨fun h => by simpa using (List.mem_filter.mp h).2, hc.nodup.filter _⟩

theorem Tidy.get? (hc : c.Tidy) (k : κ) : (c.get? k).2.Tidy := by
  by_cases h : k ∈ c.keys
  · refine ⟨by rw [capacity_get?]; exact hc.room, ?_, ?_⟩
    · rw [keys_get? h, capacity_get?]
      exact (length_use h).trans hc.fits
    · rw [keys_get? h]
      exact nodup_use hc k
  · rw [get?_of_not_mem h]
    exact hc

theorem Tidy.insert (hc : c.Tidy) (k : κ) (v : α) : (c.insert k v).2.Tidy := by
  refine ⟨by rw [capacity_insert]; exact hc.room, ?_, ?_⟩
  · rw [keys_insert hc, capacity_insert]
    exact List.length_take_le _ _
  · rw [keys_insert hc]
    exact (nodup_use hc k).take

theorem keys_erase (c : Lru κ α) (k : κ) : (c.erase k).2.keys = c.keys.filter (· ≠ k) :=
  keys_others c k

theorem Tidy.erase (hc : c.Tidy) (k : κ) : (c.erase k).2.Tidy where
  room := hc.room
  fits := by
    rw [keys_erase]
    exact (List.length_filter_le _ _).trans hc.fits
  nodup := by
    rw [keys_erase]
    exact hc.nodup.filter _

omit [DecidableEq κ] in
theorem Tidy.clear (hc : c.Tidy) : c.clear.Tidy := ⟨hc.room, Nat.zero_le _, List.nodup_nil⟩

theorem overflow (hc : c.Tidy) (hfull : c.capacity < (k :: c.keys.filter (· ≠ k)).length) :
    k ∉ c.keys ∧ ∃ ks z, c.keys = ks ++ [z] ∧ ks.length + 1 = c.capacity ∧
      (k :: c.keys.filter (· ≠ k)).take c.capacity = k :: ks := by
  have hfits := hc.fits
  have hroom := hc.room
  rw [List.length_cons] at hfull
  have hsame : (c.keys.filter (· ≠ k)).length = c.keys.length :=
    Nat.le_antisymm (List.length_filter_le _ _) (by omega)
  have hnew : k ∉ c.keys := fun hk => by
    simpa using List.length_filter_eq_length_iff.mp hsame k hk
  have hall : c.keys.filter (· ≠ k) = c.keys := filter_of_new hnew
  have hkeys : c.keys ≠ [] := fun hnone => by
    rw [hnone] at hfull
    simp at hfull
    omega
  obtain ⟨ks, z, hsplit⟩ := List.eq_nil_or_concat'  c.keys |>.resolve_left hkeys
  have hlength : ks.length + 1 = c.capacity := by
    rw [hall] at hfull
    rw [hsplit, List.length_append, List.length_singleton] at hfull hfits
    omega
  refine ⟨hnew, ks, z, hsplit, hlength, ?_⟩
  rw [hall, hsplit, ← hlength, List.take_succ_cons, List.take_left' rfl]

omit [DecidableEq κ] in
theorem not_mem_last {ks : List κ} {z : κ} (hc : c.Tidy) (hsplit : c.keys = ks ++ [z]) : z ∉ ks := by
  have hnodup := hc.nodup
  rw [hsplit] at hnodup
  exact fun hz => List.disjoint_of_nodup_append hnodup hz (List.mem_singleton_self z)

/-- A key leaves for another only from the last place, and only if there is no room. -/
theorem last_of_displaced (hc : c.Tidy) (hj : j ∈ c.keys)
    (hgone : j ∉ (k :: c.keys.filter (· ≠ k)).take c.capacity) :
    k ∉ c.keys ∧ ∃ ks, c.keys = ks ++ [j] ∧ ks.length + 1 = c.capacity := by
  by_cases hfull : c.capacity < (k :: c.keys.filter (· ≠ k)).length
  · obtain ⟨hnew, ks, z, hsplit, hlength, htake⟩ := overflow hc hfull
    rw [htake] at hgone
    rw [hsplit] at hj
    have hz : j = z := by
      rcases List.mem_append.mp hj with hj | hj
      · exact absurd (List.mem_cons_of_mem k hj) hgone
      · exact List.mem_singleton.mp hj
    exact ⟨hnew, ks, hz ▸ hsplit, hlength⟩
  · rw [List.take_of_length_le (Nat.not_lt.mp hfull)] at hgone
    exact absurd (mem_use hj) hgone

theorem fst_insert (c : Lru κ α) (k : κ) (v : α) : (c.insert k v).1 =
    if c.capacity < (k :: c.keys.filter (· ≠ k)).length
      then (k :: c.keys.filter (· ≠ k)).getLast? else none := by
  have hkeys : ((k, v) :: c.others k).map Prod.fst = k :: c.keys.filter (· ≠ k) := by
    rw [List.map_cons, keys_others]
  rw [← hkeys, List.length_map, List.getLast?_map]
  unfold insert
  dsimp only
  split_ifs <;> rfl

theorem fst_insert_iff (hc : c.Tidy) : (c.insert k v).1 = some j ↔
    c.contains j = true ∧ (c.insert k v).2.contains j = false := by
  rw [← Bool.not_eq_true, mem_keys, mem_keys, keys_insert hc, fst_insert]
  by_cases hfull : c.capacity < (k :: c.keys.filter (· ≠ k)).length
  · obtain ⟨hnew, ks, z, hsplit, -, htake⟩ := overflow hc hfull
    have hlast : (k :: c.keys.filter (· ≠ k)).getLast? = some z := by
      rw [filter_of_new hnew, hsplit, ← List.cons_append, List.getLast?_concat]
    have hz : z ∉ k :: ks := by
      rw [List.mem_cons, not_or]
      refine ⟨fun hzk => hnew (by rw [hsplit, ← hzk]; simp), not_mem_last hc hsplit⟩
    rw [if_pos hfull, hlast, htake, Option.some.injEq, hsplit]
    constructor
    · rintro rfl
      exact ⟨by simp, hz⟩
    · rintro ⟨hj, hgone⟩
      rcases List.mem_append.mp hj with hj | hj
      · exact absurd (List.mem_cons_of_mem k hj) hgone
      · exact (List.mem_singleton.mp hj).symm
  · rw [if_neg hfull, List.take_of_length_le (Nat.not_lt.mp hfull)]
    exact iff_of_false nofun fun ⟨hj, hgone⟩ => hgone (mem_use hj)

theorem find?_others (h : j ≠ k) :
    (c.others k).find? (·.1 = j) = c.entries.find? (·.1 = j) := by
  unfold others
  rw [List.find?_filter]
  congr 1
  funext p
  by_cases hp : p.1 = j
  · simp [hp, h]
  · simp [hp]

theorem fst_get? (c : Lru κ α) (k : κ) :
    (c.get? k).1 = (c.entries.find? (·.1 = k)).map Prod.snd := by
  unfold get?
  cases c.entries.find? (·.1 = k) <;> rfl

theorem fst_get?_get? (c : Lru κ α) (j k : κ) : ((c.get? k).2.get? j).1 = (c.get? j).1 := by
  by_cases hk : k ∈ c.keys
  · obtain ⟨v, hv⟩ := find?_some hk
    rw [get?_of_find? hv, fst_get?, fst_get?]
    dsimp only
    by_cases hjk : j = k
    · rw [hjk, hv, List.find?_cons_of_pos (by simp)]
    · rw [List.find?_cons_of_neg (by simpa using Ne.symm hjk), find?_others hjk]
  · rw [get?_of_not_mem hk]

theorem others_use (c : Lru κ α) (k : κ) (v : α) :
    ({ c with entries := (k, v) :: c.others k } : Lru κ α).others k = c.others k := by
  unfold others
  rw [List.filter_cons_of_neg (by simp), List.filter_filter]
  simp

theorem get?_get? (c : Lru κ α) (k : κ) : (c.get? k).2.get? k = c.get? k := by
  by_cases hk : k ∈ c.keys
  · obtain ⟨v, hv⟩ := find?_some hk
    rw [get?_of_find? hv, get?_of_find? (p := (k, v)) (List.find?_cons_of_pos (by simp)),
      others_use]
  · rw [get?_of_not_mem hk, get?_of_not_mem hk]

theorem fst_get?_insert_self (hc : c.Tidy) (k : κ) (v : α) :
    ((c.insert k v).2.get? k).1 = some v := by
  have hroom := hc.room
  have hhead : ∀ es : List (κ × α), (((k, v) :: es).find? (·.1 = k)).map Prod.snd = some v :=
    fun es => by rw [List.find?_cons_of_pos (by simp)]; rfl
  rw [fst_get?]
  unfold insert
  dsimp only
  split_ifs with hfull
  · cases hothers : c.others k with
    | nil =>
      rw [hothers, List.length_singleton] at hfull
      omega
    | cons p es => exact hhead _
  · exact hhead _

theorem fst_get?_insert_other (h : j ≠ k)
    (hfits : (k :: c.keys.filter (· ≠ k)).length ≤ c.capacity) (v : α) :
    ((c.insert k v).2.get? j).1 = (c.get? j).1 := by
  have hsame : ((k, v) :: c.others k).length = (k :: c.keys.filter (· ≠ k)).length := by
    rw [← keys_others, List.length_cons, List.length_cons, List.length_map]
  rw [fst_get?, fst_get?]
  unfold insert
  dsimp only
  rw [hsame, if_neg (Nat.not_lt.mpr hfits)]
  dsimp only
  rw [List.find?_cons_of_neg (by simpa using Ne.symm h), find?_others h]

theorem perm_get? (hc : c.Tidy) (k : κ) : (c.get? k).2.entries.Perm c.entries := by
  by_cases hk : k ∈ c.keys
  · obtain ⟨v, hv⟩ := find?_some hk
    obtain ⟨-, front, rest, hsplit, -⟩ := List.find?_eq_some_iff_append.mp hv
    have hnodup := hc.nodup
    unfold keys at hnodup
    rw [hsplit, List.map_append, List.map_cons, List.nodup_middle, List.nodup_cons,
      ← List.map_append] at hnodup
    have hothers : c.others k = front ++ rest := by
      unfold others
      rw [hsplit, List.filter_append, List.filter_cons_of_neg (by simp), ← List.filter_append]
      refine List.filter_eq_self.mpr fun p hp => decide_eq_true fun hpk => hnodup.1 ?_
      exact List.mem_map.mpr ⟨p, hp, hpk⟩
    rw [get?_of_find? hv, hsplit]
    dsimp only
    rw [hothers]
    exact List.perm_middle.symm
  · rw [get?_of_not_mem hk]

theorem mem_keys_get? (hc : c.Tidy) : j ∈ (c.get? k).2.keys ↔ j ∈ c.keys :=
  ((perm_get? hc k).map Prod.fst).mem_iff

end Lru

end Inkwell
