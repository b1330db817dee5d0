import Inkwell.Octets
set_option autoImplicit false

/-! Writing a Brotli stream of stored blocks, each of at most 65536 bytes, with a 16-bit window. -/

namespace Inkwell.Brotli

def storedLimit : Nat := 65536

def littleOctets : (w : Nat) → (n : Nat) → Octets
  | 0, _ => []
  | w+1, n => UInt8.ofNat n :: littleOctets w (n / 256)

/-- A stored block, its header moved up by `shift` bits that are already in use and zero. -/
def storedBlock (shift : Nat) (bs : Octets) : Octets :=
  littleOctets 3 (((bs.length - 1) * 8 + 2 ^ 19) * 2 ^ shift) ++ bs

def storedBlocks : (n : Nat) → Octets → Octets
  | 0, _ => [0x03]
  | n+1, bs => storedBlock 0 (bs.take storedLimit) ++ storedBlocks n (bs.drop storedLimit)

/-- The window size is the lowest bit of the first block's header. -/
def encodeStored (bs : Octets) : Octets :=
  if bs.isEmpty then [0x06]
  else storedBlock 1 (bs.take storedLimit) ++
    storedBlocks ((bs.length - 1) / storedLimit) (bs.drop storedLimit)

end Inkwell.Brotli
