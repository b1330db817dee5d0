import Inkwell.Record
import Inkwell.Compile
import Mathlib.Tactic.Ring
set_option autoImplicit false

/-! Records as the words of the state: what is packed into a word is read back from it. -/

namespace Inkwell

namespace Word

variable {fields : List (Nat × Nat)}

def width (fields : List (Nat × Nat)) : Nat := (fields.map (·.1)).sum

theorem foldl_append (fields : List (Nat × Nat)) (n : Nat) :
    fields.foldl append n = n * 256 ^ width fields + fields.foldl append 0 := by
  induction fields generalizing n with
  | nil => simp [width]
  | cons p fields ih =>
    have hwidth : width (p :: fields) = p.1 + width fields := by simp [width]
    rw [List.foldl_cons, List.foldl_cons, ih, ih (append 0 p), hwidth]
    unfold append
    ring

theorem foldl_append_lt (fields : List (Nat × Nat)) : fields.foldl append 0 < 256 ^ width fields := by
  induction fields with
  | nil => simp [width]
  | cons p fields ih =>
    have hwidth : width (p :: fields) = p.1 + width fields := by simp [width]
    have hp : p.2 % 256 ^ p.1 < 256 ^ p.1 := Nat.mod_lt _ (Nat.pow_pos (by decide))
    rw [List.foldl_cons, foldl_append, hwidth, Nat.pow_add]
    have happend : append 0 p = p.2 % 256 ^ p.1 := by simp [append]
    rw [happend]
    calc p.2 % 256 ^ p.1 * 256 ^ width fields + fields.foldl append 0
        < p.2 % 256 ^ p.1 * 256 ^ width fields + 256 ^ width fields := Nat.add_lt_add_left ih _
      _ = (p.2 % 256 ^ p.1 + 1) * 256 ^ width fields := by ring
      _ ≤ 256 ^ p.1 * 256 ^ width fields := Nat.mul_le_mul_right _ hp

theorem toNat_pack (h : width fields ≤ 32) :
    (pack fields).toNat = fields.foldl append 0 * 256 ^ (32 - width fields) := by
  have hlt : fields.foldl append 0 * 256 ^ (32 - width fields) < 2 ^ 256 := by
    calc fields.foldl append 0 * 256 ^ (32 - width fields)
        < 256 ^ width fields * 256 ^ (32 - width fields) :=
          Nat.mul_lt_mul_of_pos_right (foldl_append_lt fields) (Nat.pow_pos (by decide))
      _ = 2 ^ 256 := by
        rw [← Nat.pow_add, Nat.add_sub_cancel' h]
        norm_num
  unfold pack
  rw [BitVec.toNat_ofNat]
  exact Nat.mod_eq_of_lt hlt

theorem field_pack (before after : List (Nat × Nat)) (w n : Nat)
    (h : width (before ++ (w, n) :: after) ≤ 32) :
    (pack (before ++ (w, n) :: after)).field (width before) w = n % 256 ^ w := by
  have hwidth : width (before ++ (w, n) :: after) = width before + (w + width after) := by
    simp [width]
  have hrest : 32 - width before - w = (32 - width (before ++ (w, n) :: after)) + width after := by
    omega
  have hpos : ∀ k, 0 < 256 ^ k := fun k => Nat.pow_pos (by decide)
  unfold field
  rw [toNat_pack h, hrest, Nat.pow_add, ← Nat.div_div_eq_div_mul, Nat.mul_div_cancel _ (hpos _),
    List.foldl_append, List.foldl_cons, foldl_append after]
  rw [Nat.add_comm, Nat.add_mul_div_right _ _ (hpos _), Nat.div_eq_of_lt (foldl_append_lt after),
    Nat.zero_add]
  unfold append
  rw [Nat.add_comm, Nat.add_mul_mod_self_right, Nat.mod_mod]

theorem ofNat_field_pack (before after : List (Nat × Nat)) (x : UInt16)
    (h : width (before ++ (2, x.toNat) :: after) ≤ 32) :
    UInt16.ofNat ((pack (before ++ (2, x.toNat) :: after)).field (width before) 2) = x := by
  have hx : x.toNat < 256 ^ 2 := x.toNat_lt
  rw [field_pack before after 2 x.toNat h, Nat.mod_eq_of_lt hx]
  exact UInt16.ofNat_toNat

theorem ofNat_field_pack_wide (before after : List (Nat × Nat)) (x : UInt64)
    (h : width (before ++ (8, x.toNat) :: after) ≤ 32) :
    UInt64.ofNat ((pack (before ++ (8, x.toNat) :: after)).field (width before) 8) = x := by
  have hx : x.toNat < 256 ^ 8 := x.toNat_lt
  rw [field_pack before after 8 x.toNat h, Nat.mod_eq_of_lt hx]
  exact UInt64.ofNat_toNat

end Word

namespace Record

/-- What a record says of starting the program is what the artifact says. -/
def Describes (r : Record) (a : Artifact) : Prop :=
  r.initCost = a.estimate.initCost ∧ r.cachedCost = a.estimate.cachedInitCost ∧
    r.footprint = a.estimate.footprint

/-- The record of the same program at another time. -/
def Continues (r r' : Record) : Prop :=
  r'.version = r.version ∧ r'.initCost = r.initCost ∧ r'.cachedCost = r.cachedCost ∧
    r'.footprint = r.footprint ∧ r'.asmKb = r.asmKb

variable {r r' : Record} {a : Artifact}

theorem Continues.describes (h : r.Continues r') (ha : r.Describes a) : r'.Describes a :=
  ⟨h.2.1.trans ha.1, h.2.2.1.trans ha.2.1, h.2.2.2.1.trans ha.2.2⟩

/-! ### What is read back -/

section
variable (r : Record) (lifetime fee : Word)

theorem version_ofWords : (ofWords r.dataWord lifetime fee).version = r.version :=
  Word.ofNat_field_pack [] _ r.version (by simp [Word.width])

theorem initCost_ofWords : (ofWords r.dataWord lifetime fee).initCost = r.initCost :=
  Word.ofNat_field_pack [(2, r.version.toNat)] _ r.initCost (by simp [Word.width])

theorem cachedCost_ofWords : (ofWords r.dataWord lifetime fee).cachedCost = r.cachedCost :=
  Word.ofNat_field_pack [(2, r.version.toNat), (2, r.initCost.toNat)] _ r.cachedCost
    (by simp [Word.width])

theorem footprint_ofWords : (ofWords r.dataWord lifetime fee).footprint = r.footprint :=
  Word.ofNat_field_pack [(2, r.version.toNat), (2, r.initCost.toNat), (2, r.cachedCost.toNat)] _
    r.footprint (by simp [Word.width])

theorem asmKb_ofWords : (ofWords r.dataWord lifetime fee).asmKb =
    UInt32.ofNat (min r.asmKb.toNat 0xffffff) := by
  have hfield : r.dataWord.field 8 3 = min r.asmKb.toNat 0xffffff % 256 ^ 3 :=
    Word.field_pack [(2, r.version.toNat), (2, r.initCost.toNat), (2, r.cachedCost.toNat),
      (2, r.footprint.toNat)] [(1, r.pinned.toNat)] 3 (min r.asmKb.toNat 0xffffff)
      (by simp [Word.width])
  change UInt32.ofNat (r.dataWord.field 8 3) = _
  rw [hfield, Nat.mod_eq_of_lt (by omega)]

theorem pinned_ofWords : (ofWords r.dataWord lifetime fee).pinned = r.pinned := by
  have hfield : r.dataWord.field 11 1 = r.pinned.toNat % 256 ^ 1 :=
    Word.field_pack [(2, r.version.toNat), (2, r.initCost.toNat), (2, r.cachedCost.toNat),
      (2, r.footprint.toNat), (3, min r.asmKb.toNat 0xffffff)] [] 1 r.pinned.toNat
      (by simp [Word.width])
  change decide (r.dataWord.field 11 1 ≠ 0) = r.pinned
  rw [hfield]
  cases r.pinned <;> rfl

end

/-- The record as it is read back: there is room for three bytes of the size of its code. -/
def kept (r : Record) : Record := { r with asmKb := UInt32.ofNat (min r.asmKb.toNat 0xffffff) }

theorem ofWords_words (r : Record) : ofWords r.dataWord r.lifetimeWord r.dataFee = r.kept := by
  have hactivatedAt : (ofWords r.dataWord r.lifetimeWord r.dataFee).activatedAt = r.activatedAt :=
    Word.ofNat_field_pack_wide [] _ r.activatedAt (by simp [Word.width])
  have hblock : (ofWords r.dataWord r.lifetimeWord r.dataFee).activationBlock = r.activationBlock :=
    Word.ofNat_field_pack_wide [(8, r.activatedAt.toNat)] _ r.activationBlock (by simp [Word.width])
  have hexpiresAt : (ofWords r.dataWord r.lifetimeWord r.dataFee).expiresAt = r.expiresAt :=
    Word.ofNat_field_pack_wide [(8, r.activatedAt.toNat), (8, r.activationBlock.toNat)] _ r.expiresAt
      (by simp [Word.width])
  have hkeepalive : (ofWords r.dataWord r.lifetimeWord r.dataFee).keepaliveUntil = r.keepaliveUntil :=
    Word.ofNat_field_pack_wide [(8, r.activatedAt.toNat), (8, r.activationBlock.toNat),
      (8, r.expiresAt.toNat)] [] r.keepaliveUntil (by simp [Word.width])
  have hfee : (ofWords r.dataWord r.lifetimeWord r.dataFee).dataFee = r.dataFee := by
    unfold ofWords
    rfl
  have hinit := r.initCost_ofWords r.lifetimeWord r.dataFee
  have hversion := r.version_ofWords r.lifetimeWord r.dataFee
  have hcached := r.cachedCost_ofWords r.lifetimeWord r.dataFee
  have hfootprint := r.footprint_ofWords r.lifetimeWord r.dataFee
  have hasmKb := r.asmKb_ofWords r.lifetimeWord r.dataFee
  have hpinned := r.pinned_ofWords r.lifetimeWord r.dataFee
  generalize ofWords r.dataWord r.lifetimeWord r.dataFee = x at *
  cases x
  simp_all only [kept]

theorem asmKb_ofWords_le (data lifetime fee : Word) :
    (ofWords data lifetime fee).asmKb.toNat ≤ 0xffffff := by
  have hfield : data.field 8 3 < 2 ^ 24 := Nat.mod_lt _ (by decide)
  change (UInt32.ofNat (data.field 8 3)).toNat ≤ _
  rw [UInt32.toNat_ofNat']
  omega

theorem kept_of_le (h : r.asmKb.toNat ≤ 0xffffff) : r.kept = r := by
  unfold kept
  rw [Nat.min_eq_left h, UInt32.ofNat_toNat]

theorem dataWord_ne_zero (hsize : r.asmKb ≠ 0) (h : r.asmKb.toNat ≤ 0xffffff) : r.dataWord ≠ 0 := by
  intro hzero
  have hasmKb := r.asmKb_ofWords 0 0
  rw [hzero, Nat.min_eq_left h, UInt32.ofNat_toNat] at hasmKb
  exact hsize hasmKb.symm

theorem blank_of_dataWord (h : r.dataWord = 0) : r.version = 0 ∧ r.pinned = false := by
  have hversion := r.version_ofWords 0 0
  have hpinned := r.pinned_ofWords 0 0
  rw [h] at hversion hpinned
  exact ⟨hversion.symm, hpinned.symm⟩

theorem describes_dataWord (lifetime fee : Word) :
    (ofWords r.dataWord lifetime fee).Describes a ↔ r.Describes a := by
  unfold Describes
  rw [initCost_ofWords, cachedCost_ofWords, footprint_ofWords]

end Record
end Inkwell
