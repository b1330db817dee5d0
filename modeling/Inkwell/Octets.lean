set_option autoImplicit false

/-! Byte strings, their big-endian reading, and their hexadecimal text. -/

namespace Inkwell

/-- Powers are the core ones, also where a monoid offers its own. -/
@[default_instance 11000] instance (priority := 1100) corePow {α : Type} [NatPow α] : Pow α Nat :=
  instPowNat

/-- Sums start at the core zero. -/
instance (priority := 1100) coreZero : Zero Nat := Zero.ofOfNat0

abbrev Octets := List UInt8

namespace Octets

/-- The number that the bytes spell, most significant first. -/
def toNat (bs : Octets) : Nat := bs.foldl (fun n b => n * 256 + b.toNat) 0

/-- The low `w` bytes of `n`, most significant first. -/
def ofNat : (w : Nat) → (n : Nat) → Octets
  | 0, _ => []
  | w+1, n => ofNat w (n / 256) ++ [UInt8.ofNat n]

@[simp] theorem length_ofNat (w n : Nat) : (ofNat w n).length = w := by
  induction w generalizing n with
  | zero => rfl
  | succ w ih => simp [ofNat, ih]

@[simp] theorem toNat_nil : toNat [] = 0 := rfl

theorem toNat_append_singleton (bs : Octets) (b : UInt8) :
    toNat (bs ++ [b]) = toNat bs * 256 + b.toNat := by simp [toNat]

theorem toNat_ofNat (w n : Nat) : toNat (ofNat w n) = n % 256 ^ w := by
  induction w generalizing n with
  | zero => simp [ofNat, Nat.mod_one]
  | succ w ih =>
    rw [ofNat, toNat_append_singleton, ih, Nat.pow_succ', Nat.mod_mul]
    simp; omega

def padEnd (n : Nat) (bs : Octets) : Octets :=
  let head := bs.take n
  head ++ List.replicate (n - head.length) 0

/-- The `n` bytes from offset `i`, none if the string ends before. -/
def slice? (i n : Nat) (bs : Octets) : Option Octets :=
  let part := (bs.drop i).take n
  if part.length = n then some part else none

def ofText (s : String) : Octets := s.toUTF8.toList

def toText? (bs : Octets) : Option String := String.fromUTF8? ⟨bs.toArray⟩

def hexDigit (n : Nat) : Char :=
  if n < 10 then Char.ofNat (48 + n) else Char.ofNat (87 + n)

def hexValue? (c : Char) : Option Nat :=
  let n := c.toNat
  if 48 ≤ n ∧ n ≤ 57 then some (n - 48)
  else if 97 ≤ n ∧ n ≤ 102 then some (n - 87)
  else if 65 ≤ n ∧ n ≤ 70 then some (n - 55)
  else none

def toHex (bs : Octets) : String :=
  String.ofList (bs.flatMap fun b => [hexDigit (b.toNat / 16), hexDigit (b.toNat % 16)])

/-- Digits of either case, two a byte; in reverse order behind `acc`. -/
def ofHexOnto? (acc : Octets) : List Char → Option Octets
  | [] => some acc
  | [_] => none
  | a :: b :: rest =>
      match hexValue? a, hexValue? b with
      | some x, some y => ofHexOnto? (UInt8.ofNat (16 * x + y) :: acc) rest
      | _, _ => none

def ofHex? (cs : List Char) : Option Octets := (ofHexOnto? [] cs).map List.reverse

end Octets

/-- The text of a byte string: itself when it is UTF-8, its hexadecimal digits otherwise. -/
def Octets.display (bs : Octets) : String := (Octets.toText? bs).getD (Octets.toHex bs)

abbrev Word := BitVec 256
abbrev Address := BitVec 160

namespace Word

def ofOctets (bs : Octets) : Word := BitVec.ofNat 256 (Octets.toNat bs)
def octets (w : Word) : Octets := Octets.ofNat 32 w.toNat

theorem ofOctets_octets (w : Word) : ofOctets w.octets = w := by
  apply BitVec.eq_of_toNat_eq
  have h : w.toNat < 2 ^ 256 := w.isLt
  simp only [ofOctets, octets, Octets.toNat_ofNat, BitVec.toNat_ofNat]
  omega

end Word

namespace Address

def ofOctets (bs : Octets) : Address := BitVec.ofNat 160 (Octets.toNat bs)
def octets (a : Address) : Octets := Octets.ofNat 20 a.toNat
def toWord (a : Address) : Word := BitVec.ofNat 256 a.toNat
def ofWord (w : Word) : Address := BitVec.ofNat 160 w.toNat
def hex (a : Address) : String := "0x" ++ Octets.toHex a.octets

@[simp] theorem ofWord_toWord (a : Address) : ofWord a.toWord = a := by
  apply BitVec.eq_of_toNat_eq
  have h : a.toNat < 2 ^ 160 := a.isLt
  simp only [ofWord, toWord, BitVec.toNat_ofNat]
  omega

end Address
end Inkwell
