import Inkwell.Octets
set_option autoImplicit false

/-! Reading bits, least significant first, from a byte string that may end early. -/

namespace Inkwell.Brotli

inductive Fault where
  | truncated | violation
  deriving DecidableEq, Repr

structure Bits where
  data : ByteArray
  position : Nat := 0

namespace Bits

def left (b : Bits) : Nat := 8 * b.data.size - b.position

def byteAt (b : Bits) (i : Nat) : Nat := if h : i < b.data.size then b.data[i].toNat else 0

/-- The next `n ≤ 25` bits as a number, zeros behind the end of the input. -/
def peek (b : Bits) (n : Nat) : Nat :=
  let i := b.position / 8
  let span := b.byteAt i + 256 * (b.byteAt (i+1) + 256 * (b.byteAt (i+2) + 256 * b.byteAt (i+3)))
  (span >>> (b.position % 8)) % 2 ^ n

def skip (b : Bits) (n : Nat) : Bits := { b with position := b.position + n }

end Bits

abbrev Reader := StateT Bits (Except Fault)

def fail {α : Type} (f : Fault) : Reader α := throw f

def need (n : Nat) : Reader Unit := do
  if (← get).left < n then fail .truncated

def readBits (n : Nat) : Reader Nat := do
  need n
  let b ← get
  set (b.skip n)
  pure (b.peek n)

def readFlag : Reader Bool := do pure ((← readBits 1) = 1)

/-- `n` fields of `width` bits each, the first one lowest. -/
def readFields (width : Nat) : (n : Nat) → Reader (List Nat)
  | 0 => pure []
  | n+1 => do
      let v ← readBits width
      pure (v :: (← readFields width n))

def littleEndian (base : Nat) (digits : List Nat) : Nat := digits.foldr (fun d n => d + base * n) 0

/-- Moves to the next byte boundary over bits that must be zero. -/
def alignByte : Reader Unit := do
  let b ← get
  let n := (8 - b.position % 8) % 8
  if b.peek n = 0 then set (b.skip n) else fail .violation

end Inkwell.Brotli
