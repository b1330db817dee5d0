import Inkwell.Brotli.Bits
set_option autoImplicit false

/-! Canonical prefix codes: their description in the stream and reading a symbol of one. -/

namespace Inkwell.Brotli

/-- A code word is the position of its symbol: `counts` holds how many symbols have each length
from one bit up, `symbols` lists them by length, then by value. -/
inductive Code where
  | single (symbol : Nat)
  | canonical (counts : List Nat) (symbols : Array Nat)
  deriving Repr

namespace Code

def maxLength : Nat := 15

/-- The code that gives symbol `s` the length `lengths[s]`, where zero means unused. -/
def ofLengths (lengths : List Nat) : Code :=
  let pairs := lengths.zipIdx
  let ofLength (n : Nat) := (pairs.filter fun p => p.1 = n).map (·.2)
  let groups := (List.range maxLength).map fun i => ofLength (i + 1)
  .canonical (groups.map List.length) groups.flatten.toArray

/-- A code of at most four symbols, of which the first has the shortest word. -/
def ofSymbols (symbols : List Nat) (deep : Bool) : Code :=
  let sort := fun (l : List Nat) => l.mergeSort (· ≤ ·)
  match symbols, deep with
  | [a], _ => .single a
  | [a, b], _ => .canonical [2] (sort [a, b]).toArray
  | [a, b, c], _ => .canonical [1, 2] (a :: sort [b, c]).toArray
  | [a, b, c, d], true => .canonical [1, 1, 2] (a :: b :: sort [c, d]).toArray
  | _, _ => .canonical [0, 4] (sort symbols).toArray

/-- Reads bit by bit until the word is below the first unused one of its length. -/
def descend (symbols : Array Nat) : (counts : List Nat) → (word index : Nat) → Reader Nat
  | [], _, _ => fail .violation
  | n :: counts, word, index => do
      let word := 2 * word + (← readBits 1)
      if word < n then pure (symbols.getD (index + word) 0)
      else descend symbols counts (word - n) (index + n)

def read : Code → Reader Nat
  | .single s => pure s
  | .canonical counts symbols => descend symbols counts 0 0

end Code

/-- The order in which the lengths of the code for code lengths are sent. -/
def codeLengthOrder : List Nat := [1, 2, 3, 4, 0, 5, 17, 6, 16, 7, 8, 9, 10, 11, 12, 13, 14, 15]

/-- A length from zero to five by the fixed code of two to four bits. -/
def readCodeLength : Reader Nat := do
  let b ← get
  let (width, value) := match b.peek 4 with
    | 0 | 4 | 8 | 12 => (2, 0)
    | 1 | 5 | 9 | 13 => (2, 4)
    | 2 | 6 | 10 | 14 => (2, 3)
    | 3 | 11 => (3, 2)
    | 7 => (4, 1)
    | _ => (4, 5)
  let _ ← readBits width
  pure value

/-- The lengths for the symbols of `order`, until they fill the code space of 32 units. -/
def readCodeLengths : (order : List Nat) → (space : Int) → Reader (List (Nat × Nat))
  | [], _ => pure []
  | s :: order, space => do
      let v ← readCodeLength
      let rest := if v = 0 then space else space - (32 / 2 ^ v : Nat)
      if rest ≤ 0 then pure [(s, v)] else pure ((s, v) :: (← readCodeLengths order rest))

def codeOfCodeLengths (found : List (Nat × Nat)) : Except Fault Code :=
  let used := found.filter fun p => p.2 ≠ 0
  let space := (used.map fun p => 32 / 2 ^ p.2).sum
  match used with
  | [(s, _)] => .ok (.single s)
  | _ =>
    if space ≠ 32 then .error .violation
    else .ok (.ofLengths ((List.range 18).map fun s => (found.lookup s).getD 0))

structure Lengths where
  lengths : List Nat := []
  count : Nat := 0
  previous : Nat := 8
  repeated : Nat := 0
  repeatedLength : Nat := 0
  space : Int := 32768

namespace Lengths

def push (s : Lengths) (n length : Nat) : Lengths :=
  { s with
    lengths := List.replicate n length ++ s.lengths
    count := s.count + n
    space := if length = 0 then s.space else s.space - (n * (32768 / 2 ^ length) : Nat) }

def single (s : Lengths) (length : Nat) : Lengths :=
  let s := { s.push 1 length with repeated := 0 }
  if length = 0 then s else { s with previous := length }

/-- A repeat extends the one right before it when both repeat the same length. -/
def extend (s : Lengths) (length bits extra : Nat) : Lengths :=
  let old := if s.repeatedLength = length then s.repeated else 0
  let new := (if old = 0 then 0 else (old - 2) * 2 ^ bits) + extra + 3
  { s.push (new - old) length with repeated := new, repeatedLength := length }

end Lengths

/-- Reads lengths until every symbol has one or the code space is used up; `fuel` is the number
of symbols, each step adds one at least. -/
def readLengths (code : Code) (alphabet : Nat) : (fuel : Nat) → Lengths → Reader Lengths
  | 0, s => pure s
  | fuel+1, s =>
    if alphabet ≤ s.count ∨ s.space = 0 then pure s else do
      let symbol ← code.read
      let s ← match symbol with
        | 16 => do pure (s.extend s.previous 2 (← readBits 2))
        | 17 => do pure (s.extend 0 3 (← readBits 3))
        | _ => pure (s.single symbol)
      if alphabet < s.count then fail .violation
      readLengths code alphabet fuel s

def bitWidth (n : Nat) : Nat := if n = 0 then 0 else Nat.log2 n + 1

def readCode (alphabet : Nat) : Reader Code := do
  match ← readBits 2 with
  | 1 =>
    let n ← readBits 2
    let symbols ← readSymbols (n + 1)
    if symbols.eraseDups.length ≠ symbols.length then fail .violation
    let deep ← if n = 3 then readFlag else pure false
    pure (.ofSymbols symbols deep)
  | skipped =>
    let found ← readCodeLengths (codeLengthOrder.drop skipped) 32
    let code ← (codeOfCodeLengths found : Except Fault Code)
    let s ← readLengths code alphabet alphabet {}
    if s.space ≠ 0 then fail .violation
    pure (.ofLengths s.lengths.reverse)
where
  readSymbols : Nat → Reader (List Nat)
    | 0 => pure []
    | n+1 => do
        let s ← readBits (bitWidth (alphabet - 1))
        if alphabet ≤ s then fail .violation
        pure (s :: (← readSymbols n))

end Inkwell.Brotli
