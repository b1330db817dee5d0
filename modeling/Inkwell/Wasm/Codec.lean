import Inkwell.Octets
set_option autoImplicit false

/-! Binary forms: how a value is read off the front of a byte string, and the one way in which it
is written. Reading may accept longer spellings of a value than the written one. -/

namespace Inkwell.Wasm

structure Codec (α : Type) where
  read : Octets → Option (α × Octets)
  write : α → Octets

namespace Codec

variable {α β τ : Type}

def readAll (c : Codec α) (bs : Octets) : Option α :=
  match c.read bs with
  | some (a, []) => some a
  | _ => none

def nothing (a : α) : Codec α := ⟨fun bs => some (a, bs), fun _ => []⟩

def reject : Codec α := ⟨fun _ => none, fun _ => []⟩

def byte : Codec UInt8 where
  read
    | b :: rest => some (b, rest)
    | [] => none
  write b := [b]

def octets (n : Nat) : Codec Octets where
  read bs :=
    let (head, rest) := bs.splitAt n
    if head.length = n then some (head, rest) else none
  write := id

def pair (a : Codec α) (b : Codec β) : Codec (α × β) where
  read bs := do
    let (x, bs) ← a.read bs
    let (y, bs) ← b.read bs
    pure ((x, y), bs)
  write p := a.write p.1 ++ b.write p.2

/-- Values seen as other values, where some may have no meaning. -/
def convert (c : Codec α) (there : α → Option β) (back : β → α) : Codec β where
  read bs := do
    let (x, bs) ← c.read bs
    pure (← there x, bs)
  write y := c.write (back y)

def guarded (c : Codec α) (ok : α → Bool) : Codec α :=
  c.convert (fun a => if ok a then some a else none) id

/-- A tag that tells how the rest is read. -/
def tagged (tag : Codec τ) (tagOf : α → τ) (body : τ → Codec α) : Codec α where
  read bs := do
    let (t, bs) ← tag.read bs
    (body t).read bs
  write a := tag.write (tagOf a) ++ (body (tagOf a)).write a

/-- The first byte, which stays in place, tells how the value is read. -/
def peek (body : UInt8 → Codec α) (write : α → Octets) : Codec α where
  read
    | b :: rest => (body b).read (b :: rest)
    | [] => none
  write := write

/-- The next `n` values, behind those of `acc`, which are in reverse. -/
def readTimes (c : Codec α) : (n : Nat) → (acc : List α) → Octets → Option (List α × Octets)
  | 0, acc, bs => some (acc.reverse, bs)
  | n+1, acc, bs => do
      let (a, bs) ← c.read bs
      readTimes c n (a :: acc) bs

def readMany (c : Codec α) : (fuel : Nat) → (acc : List α) → Octets → Option (List α)
  | _, acc, [] => some acc.reverse
  | 0, _, _ => none
  | fuel+1, acc, bs => do
      let (a, bs) ← c.read bs
      readMany c fuel (a :: acc) bs

/-- Values up to the end of the input, each of at least one byte. -/
def many (c : Codec α) : Codec (List α) where
  read bs := (readMany c bs.length [] bs).map fun as => (as, [])
  write as := as.flatMap c.write

end Codec

namespace Leb

/-- The seven-bit groups of a number, lowest first, and what follows; at most `n` groups. -/
def groups : (n : Nat) → Octets → Option (List Nat × Octets)
  | 0, _ => none
  | _, [] => none
  | n+1, b :: rest =>
    if b.toNat < 128 then some ([b.toNat], rest)
    else (groups n rest).map fun p => ((b.toNat - 128) :: p.1, p.2)

def value (gs : List Nat) : Nat := gs.foldr (fun g n => g + 128 * n) 0

/-- The shortest groups of a number, all but the last marked. -/
def unsignedOctets (n : Nat) : Octets :=
  if n < 128 then [UInt8.ofNat n] else UInt8.ofNat (n % 128 + 128) :: unsignedOctets (n / 128)
termination_by n
decreasing_by omega

def signedOctets (i : Int) : Octets :=
  if -64 ≤ i ∧ i < 64 then [UInt8.ofNat (i % 128).toNat]
  else UInt8.ofNat ((i % 128).toNat + 128) :: signedOctets (i / 128)
termination_by i.natAbs
decreasing_by omega

/-- Numbers below `2 ^ bits`, in no more groups than their bits need. -/
def unsigned (bits : Nat) : Codec Nat where
  read bs := do
    let (gs, rest) ← groups ((bits + 6) / 7) bs
    if value gs < 2 ^ bits then some (value gs, rest) else none
  write := unsignedOctets

/-- Two's complement numbers of `bits` bits, the last group extended by its sign. -/
def signed (bits : Nat) : Codec Int where
  read bs := do
    let (gs, rest) ← groups ((bits + 6) / 7) bs
    let i := Int.bmod (value gs) (128 ^ gs.length)
    if -(2 ^ (bits - 1) : Int) ≤ i ∧ i < 2 ^ (bits - 1) then some (i, rest) else none
  write := signedOctets

end Leb

namespace Codec

variable {α : Type}

def u32 : Codec Nat := Leb.unsigned 32
def u64 : Codec Nat := Leb.unsigned 64

/-- A count, then that many values; a count above `limit` is refused before they are read. -/
def listWithin (limit : Nat) (c : Codec α) : Codec (List α) where
  read bs := do
    let (n, bs) ← u32.read bs
    if limit < n then none else readTimes c n [] bs
  write as := u32.write as.length ++ as.flatMap c.write

def list (c : Codec α) : Codec (List α) := listWithin (2 ^ 32) c

/-- A size in bytes, then a value that fills them. -/
def sized (c : Codec α) : Codec α where
  read bs := do
    let (n, bs) ← u32.read bs
    let (body, rest) ← (octets n).read bs
    pure (← c.readAll body, rest)
  write a := u32.write (c.write a).length ++ c.write a

def blob : Codec Octets where
  read bs := do
    let (n, bs) ← u32.read bs
    (octets n).read bs
  write bs := u32.write bs.length ++ bs

def isUtf8 (bs : Octets) : Bool := (Octets.toText? bs).isSome

/-- Text of at most 100000 bytes. -/
def name : Codec Octets := blob.guarded fun bs => bs.length ≤ 100000 && isUtf8 bs

end Codec
end Inkwell.Wasm
