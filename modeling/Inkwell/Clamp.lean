import Inkwell.Octets
set_option autoImplicit false

/-! Numbers that stop at the largest of their width. -/

namespace Inkwell

def max64 : Nat := 2 ^ 64 - 1

def clamp64 (n : Nat) : Nat := min n max64

@[simp] theorem clamp64_le (n : Nat) : clamp64 n ≤ max64 := Nat.min_le_right _ _

theorem clamp64_eq {n : Nat} (h : n ≤ max64) : clamp64 n = n := Nat.min_eq_left h

def clampTo64 (n : Nat) : UInt64 := UInt64.ofNat (clamp64 n)

def clampTo32 (n : Nat) : UInt32 := UInt32.ofNat (min n (2 ^ 32 - 1))

@[simp] theorem toNat_clampTo64 (n : Nat) : (clampTo64 n).toNat = clamp64 n := by
  simp only [clampTo64, UInt64.toNat_ofNat', clamp64, max64]; omega

@[simp] theorem toNat_clampTo32 (n : Nat) : (clampTo32 n).toNat = min n (2 ^ 32 - 1) := by
  simp only [clampTo32, UInt32.toNat_ofNat']; omega

def ceilDiv (n d : Nat) : Nat := (n + d - 1) / d

end Inkwell
