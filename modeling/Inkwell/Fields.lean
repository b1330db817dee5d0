import Inkwell.Octets
set_option autoImplicit false

/-! Numbers packed side by side into a word, most significant first. -/

namespace Inkwell.Word

/-- The number in `width` bytes that start at byte `offset`. -/
def field (w : Word) (offset width : Nat) : Nat :=
  w.toNat / 256 ^ (32 - offset - width) % 256 ^ width

def append (n : Nat) (p : Nat × Nat) : Nat := n * 256 ^ p.1 + p.2 % 256 ^ p.1

/-- The word that starts with these fields, each a width in bytes and a number. -/
def pack (fields : List (Nat × Nat)) : Word :=
  let used := (fields.map (·.1)).sum
  BitVec.ofNat 256 (fields.foldl append 0 * 256 ^ (32 - used))

end Inkwell.Word
