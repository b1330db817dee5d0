import Inkwell.Wasm.Codec
import Mathlib.Algebra.Order.Ring.Int
import Mathlib.Tactic.Ring
set_option autoImplicit false

/-! Numbers in groups of seven bits. The shortest groups of a number read back as the number, and no
other groups of the same number are fewer. -/

namespace Inkwell.Wasm.Leb

variable {n k v w : Nat} {bs rest tail : Octets} {gs : List Nat}

/-! ### Groups -/

theorem groups_eq_some (h : groups n bs = some (gs, rest)) :
    gs ≠ [] ∧ gs.length ≤ n ∧ bs.length = gs.length + rest.length ∧ ∀ g ∈ gs, g < 128 := by
  induction n generalizing bs gs with
  | zero => cases h
  | succ n ih =>
    cases bs with
    | nil => cases h
    | cons b bs =>
      rw [groups] at h
      split at h
      · next hlast =>
        obtain ⟨rfl, rfl⟩ := Prod.mk.inj (Option.some.inj h)
        simp
        omega
      · next hmore =>
        obtain ⟨⟨gs', rest'⟩, hgroups, heq⟩ := Option.map_eq_some_iff.mp h
        obtain ⟨rfl, rfl⟩ := Prod.mk.inj heq
        obtain ⟨-, hfew, hlength, hsmall⟩ := ih hgroups
        have hbyte := b.toNat_lt
        refine ⟨nofun, by simpa using hfew, ?_, List.forall_mem_cons.mpr ⟨by omega, hsmall⟩⟩
        dsimp only at hlength
        simp only [List.length_cons]
        omega

theorem value_lt (h : ∀ g ∈ gs, g < 128) : value gs < 128 ^ gs.length := by
  induction gs with
  | nil => simp [value]
  | cons g gs ih =>
    obtain ⟨hg, hgs⟩ := List.forall_mem_cons.mp h
    have hrest := ih hgs
    have hvalue : value (g :: gs) = g + 128 * value gs := rfl
    rw [hvalue, List.length_cons, Nat.pow_succ]
    omega

theorem groups_last {b : UInt8} (h : b.toNat < 128) :
    groups (n + 1) (b :: tail) = some ([b.toNat], tail) := by
  rw [groups, if_pos h]

theorem groups_more {b : UInt8} (h : 128 ≤ b.toNat) (hgroups : groups n bs = some (gs, tail)) :
    groups (n + 1) (b :: bs) = some ((b.toNat - 128) :: gs, tail) := by
  rw [groups, if_neg (Nat.not_lt.mpr h), hgroups]
  rfl

/-! ### Unsigned numbers -/

theorem length_unsigned (h : v < 128 ^ (k + 1)) : (unsignedOctets v).length ≤ k + 1 := by
  induction k generalizing v with
  | zero =>
    rw [unsignedOctets, if_pos (by omega)]
    rfl
  | succ k ih =>
    rw [unsignedOctets]
    split
    · simp
    · rw [Nat.pow_succ] at h
      have hrest := ih (v := v / 128) (by omega)
      simpa using hrest

theorem groups_unsigned (h : v < 128 ^ (k + 1)) (tail : Octets) :
    ∃ gs, groups (k + 1) (unsignedOctets v ++ tail) = some (gs, tail) ∧ value gs = v := by
  induction k generalizing v with
  | zero =>
    have hv : (UInt8.ofNat v).toNat = v := by rw [UInt8.toNat_ofNat']; omega
    rw [unsignedOctets, if_pos (by omega)]
    exact ⟨[v], by rw [List.singleton_append, groups_last (by omega), hv], by simp [value]⟩
  | succ k ih =>
    rw [unsignedOctets]
    split
    · next hlast =>
      have hv : (UInt8.ofNat v).toNat = v := by rw [UInt8.toNat_ofNat']; omega
      exact ⟨[v], by rw [List.singleton_append, groups_last (by omega), hv], by simp [value]⟩
    · rw [Nat.pow_succ] at h
      have hb : (UInt8.ofNat (v % 128 + 128)).toNat = v % 128 + 128 := by
        rw [UInt8.toNat_ofNat']
        omega
      obtain ⟨gs, hgroups, hvalue⟩ := ih (v := v / 128) (by omega)
      refine ⟨v % 128 :: gs, ?_, ?_⟩
      · rw [List.cons_append, groups_more (by omega) hgroups, hb, Nat.add_sub_cancel]
      · have hcons : value (v % 128 :: gs) = v % 128 + 128 * value gs := rfl
        omega

/-! ### Signed numbers -/

/-- What fits `k + 1` groups with its sign. -/
def SignedFit (k : Nat) (i : Int) : Prop := -(64 * 128 ^ k : Int) ≤ i ∧ i < 64 * 128 ^ k

theorem SignedFit.div {i : Int} (h : SignedFit (k + 1) i) : SignedFit k (i / 128) := by
  unfold SignedFit at h ⊢
  rw [Int.pow_succ] at h
  omega

theorem SignedFit.of_div {i : Int} (h : SignedFit k (i / 128)) : SignedFit (k + 1) i := by
  unfold SignedFit at h ⊢
  rw [Int.pow_succ]
  omega

theorem SignedFit.mono {i : Int} {j : Nat} (h : SignedFit k i) (hk : k ≤ j) : SignedFit j i := by
  have hpow : (128 : Int) ^ k ≤ 128 ^ j := pow_le_pow_right₀ (by decide) hk
  unfold SignedFit at h ⊢
  omega

theorem halfWidth (k : Nat) : ((128 ^ (k + 1) : Nat) : Int) = 2 * (64 * 128 ^ k) := by
  push_cast [Nat.pow_succ]
  ring

theorem signedFit_bmod (v k : Nat) : SignedFit k (Int.bmod v (128 ^ (k + 1))) := by
  have hpos : 0 < 128 ^ (k + 1) := Nat.pow_pos (by decide)
  have hlow := Int.le_bmod (x := v) hpos
  have hhigh := Int.bmod_lt (x := v) hpos
  have hwidth := halfWidth k
  unfold SignedFit
  omega

/-- A number that fits is told up to a multiple of what the groups can count. -/
theorem bmod_of_fit {i q : Int} (h : SignedFit k i) :
    Int.bmod (i + ((128 ^ (k + 1) : Nat) : Int) * q) (128 ^ (k + 1)) = i := by
  have hwidth := halfWidth k
  obtain ⟨hlow, hhigh⟩ := h
  rw [Int.add_mul_bmod_self_left]
  exact Int.bmod_eq_of_le (by omega) (by omega)

theorem length_signed {i : Int} (h : SignedFit k i) : (signedOctets i).length ≤ k + 1 := by
  induction k generalizing i with
  | zero =>
    have hfit : -64 ≤ i ∧ i < 64 := by simpa [SignedFit] using h
    rw [signedOctets, if_pos hfit]
    rfl
  | succ k ih =>
    rw [signedOctets]
    split
    · simp
    · simpa using ih h.div

/-- What groups tell of a number: it fits them with its sign, and is their value up to a multiple. -/
def Tells (gs : List Nat) (i : Int) : Prop :=
  ∃ j q, gs.length = j + 1 ∧ SignedFit j i ∧ (value gs : Int) = i + ((128 ^ (j + 1) : Nat) : Int) * q

theorem Tells.bmod {i : Int} (h : Tells gs i) : Int.bmod (value gs) (128 ^ gs.length) = i := by
  obtain ⟨j, q, hlength, hfit, hvalue⟩ := h
  rw [hlength, hvalue, bmod_of_fit hfit]

theorem groups_signed_one {i : Int} (h : -64 ≤ i ∧ i < 64) (k : Nat) (tail : Octets) :
    ∃ gs, groups (k + 1) (UInt8.ofNat (i % 128).toNat :: tail) = some (gs, tail) ∧ Tells gs i := by
  have hb : (UInt8.ofNat (i % 128).toNat).toNat = (i % 128).toNat := by
    rw [UInt8.toNat_ofNat']
    omega
  refine ⟨[(i % 128).toNat], ?_, 0, -(i / 128), rfl, by simpa [SignedFit] using h, ?_⟩
  · rw [groups_last (by omega), hb]
  · simp only [value, List.foldr_cons, List.foldr_nil]
    omega

theorem Tells.cons {i : Int} (h : Tells gs (i / 128)) : Tells ((i % 128).toNat :: gs) i := by
  obtain ⟨j, q, hlength, hfit, hvalue⟩ := h
  refine ⟨j + 1, q, by rw [List.length_cons, hlength], hfit.of_div, ?_⟩
  have hcons : value ((i % 128).toNat :: gs) = (i % 128).toNat + 128 * value gs := rfl
  have hwidth : ((128 ^ (j + 1 + 1) : Nat) : Int) * q =
      128 * (((128 ^ (j + 1) : Nat) : Int) * q) := by
    push_cast [Nat.pow_succ]
    ring
  omega

theorem groups_signed {i : Int} (h : SignedFit k i) (tail : Octets) :
    ∃ gs, groups (k + 1) (signedOctets i ++ tail) = some (gs, tail) ∧ Tells gs i := by
  induction k generalizing i with
  | zero =>
    have hfit : -64 ≤ i ∧ i < 64 := by simpa [SignedFit] using h
    rw [signedOctets, if_pos hfit]
    exact groups_signed_one hfit 0 tail
  | succ k ih =>
    rw [signedOctets]
    split
    · next hfit => exact groups_signed_one hfit (k + 1) tail
    · have hb : (UInt8.ofNat ((i % 128).toNat + 128)).toNat = (i % 128).toNat + 128 := by
        rw [UInt8.toNat_ofNat']
        omega
      obtain ⟨gs, hgroups, htells⟩ := ih h.div
      refine ⟨(i % 128).toNat :: gs, ?_, htells.cons⟩
      rw [List.cons_append, groups_more (by omega) hgroups, hb, Nat.add_sub_cancel]

theorem head_signed (n : Nat) :
    ∃ b rest, signedOctets n = b :: rest ∧ (b.toNat < 64 ∨ 128 ≤ b.toNat) := by
  rw [signedOctets]
  split
  · refine ⟨_, _, rfl, .inl ?_⟩
    rw [UInt8.toNat_ofNat']
    omega
  · refine ⟨_, _, rfl, .inr ?_⟩
    rw [UInt8.toNat_ofNat']
    omega

theorem unsigned_ne_nil (v : Nat) : unsignedOctets v ≠ [] := by
  rw [unsignedOctets]
  split <;> simp

theorem lt_of_unsigned (v : Nat) : v < 128 ^ (unsignedOctets v).length := by
  fun_induction unsignedOctets v with
  | case1 v h => simpa using h
  | case2 v h ih =>
    rw [List.length_cons, Nat.pow_succ]
    omega

theorem length_unsigned_le (h : v < 128 ^ k) (hk : k ≠ 0) : (unsignedOctets v).length ≤ k := by
  obtain ⟨k, rfl⟩ := Nat.exists_eq_succ_of_ne_zero hk
  exact length_unsigned h

theorem length_unsigned_mono (h : v ≤ w) : (unsignedOctets v).length ≤ (unsignedOctets w).length :=
  length_unsigned_le (h.trans_lt (lt_of_unsigned w)) (by simp [unsigned_ne_nil])

theorem length_unsigned_add (v w : Nat) : (unsignedOctets (v + w)).length ≤
    (unsignedOctets v).length + (unsignedOctets w).length := by
  have hv := lt_of_unsigned v
  have hw := lt_of_unsigned w
  have hpos : ∀ v, 1 ≤ (unsignedOctets v).length := fun v =>
    List.length_pos_iff.mpr (unsigned_ne_nil v)
  have hmany : ∀ v, 2 ≤ 128 ^ (unsignedOctets v).length := fun v =>
    le_trans (by decide) (Nat.pow_le_pow_right (n := 128) (by decide) (hpos v))
  refine length_unsigned_le ?_ (by have := hpos v; omega)
  rw [Nat.pow_add]
  exact (Nat.add_lt_add hv hw).trans_le (Nat.add_le_mul (hmany v) (hmany w))

end Inkwell.Wasm.Leb
