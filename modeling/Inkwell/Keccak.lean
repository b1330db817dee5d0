import Inkwell.Octets
set_option autoImplicit false

/-! The Keccak-256 digest: sponge with rate 136, padded `01 … 80`. Lane `(x, y)` of the state
stands at index `x + 5 * y`. -/

namespace Inkwell.Keccak

abbrev State := Array UInt64

def lane (s : State) (x y : Nat) : UInt64 := s.getD (x % 5 + 5 * y) 0

def tabulate (f : Nat → Nat → UInt64) : State := Array.ofFn (n := 25) fun i => f (i.val % 5) (i.val / 5)

def rotl (v : UInt64) (n : UInt64) : UInt64 := (v <<< n) ||| (v >>> (64 - n))

def rotations : Array UInt64 :=
  #[0, 1, 62, 28, 27, 36, 44, 6, 55, 20, 3, 10, 43, 25, 39, 41, 45, 15, 21, 8, 18, 2, 61, 56, 14]

def roundConstants : List UInt64 :=
  [0x1, 0x8082, 0x800000000000808a, 0x8000000080008000, 0x808b, 0x80000001, 0x8000000080008081,
   0x8000000000008009, 0x8a, 0x88, 0x80008009, 0x8000000a, 0x8000808b, 0x800000000000008b,
   0x8000000000008089, 0x8000000000008003, 0x8000000000008002, 0x8000000000000080, 0x800a,
   0x800000008000000a, 0x8000000080008081, 0x8000000000008080, 0x80000001, 0x8000000080008008]

def theta (s : State) : State :=
  let column := Array.ofFn (n := 5) fun x =>
    lane s x 0 ^^^ lane s x 1 ^^^ lane s x 2 ^^^ lane s x 3 ^^^ lane s x 4
  let mix := Array.ofFn (n := 5) fun x =>
    column.getD ((x.val + 4) % 5) 0 ^^^ rotl (column.getD ((x.val + 1) % 5) 0) 1
  tabulate fun x y => lane s x y ^^^ mix.getD x 0

def rhoPi (s : State) : State := tabulate fun x y =>
  let i := (x + 3 * y) % 5
  rotl (lane s i x) (rotations.getD (i + 5 * x) 0)

def chi (s : State) : State := tabulate fun x y =>
  lane s x y ^^^ ((lane s (x + 1) y ^^^ 0xffffffffffffffff) &&& lane s (x + 2) y)

def round (s : State) (constant : UInt64) : State :=
  (chi (rhoPi (theta s))).modify 0 (· ^^^ constant)

def permute (s : State) : State := roundConstants.foldl round s

/-- Eight bytes as a lane, least significant first. -/
def laneOf (bs : Octets) : UInt64 := bs.foldr (fun b n => (n <<< 8) ||| b.toUInt64) 0

def laneOctets (v : UInt64) : Octets :=
  [v.toUInt8, (v >>> 8).toUInt8, (v >>> 16).toUInt8, (v >>> 24).toUInt8,
   (v >>> 32).toUInt8, (v >>> 40).toUInt8, (v >>> 48).toUInt8, (v >>> 56).toUInt8]

def rate : Nat := 136

def pad (block : Octets) : Octets :=
  if block.length = rate - 1 then block ++ [0x81]
  else block ++ 0x01 :: List.replicate (rate - 2 - block.length) 0 ++ [0x80]

def lanes : (n : Nat) → Octets → List UInt64
  | 0, _ => []
  | n+1, bs => laneOf (bs.take 8) :: lanes n (bs.drop 8)

def absorb (s : State) (block : Octets) : State :=
  let input := (lanes 17 block).toArray
  permute (tabulate fun x y => lane s x y ^^^ input.getD (x + 5 * y) 0)

/-- Absorbs `n` whole blocks, then the padded rest. -/
def sponge : (n : Nat) → State → Octets → State
  | 0, s, bs => absorb s (pad bs)
  | n+1, s, bs => sponge n (absorb s (bs.take rate)) (bs.drop rate)

def digest (bs : Octets) : Octets :=
  let s := sponge (bs.length / rate) (Array.replicate 25 0) bs
  laneOctets (lane s 0 0) ++ laneOctets (lane s 1 0) ++ laneOctets (lane s 2 0) ++
    laneOctets (lane s 3 0)

end Inkwell.Keccak

namespace Inkwell

def keccak (bs : Octets) : Word := Word.ofOctets (Keccak.digest bs)

end Inkwell
