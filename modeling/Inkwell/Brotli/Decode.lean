import Inkwell.Brotli.Prefix
import Inkwell.Brotli.Dictionary
set_option autoImplicit false

/-! Decoding a Brotli stream (RFC 7932, windows of up to 24 bits). Input behind the last block is
not looked at; padding bits must be zero. -/

namespace Inkwell.Brotli

structure Kind where
  types : Nat := 1
  typeCode : Code := .single 0
  lengthCode : Code := .single 0
  current : Nat := 0
  previous : Nat := 1
  left : Nat := 16777216

def blockLengths : Array (Nat × Nat) :=
  #[(1, 2), (5, 2), (9, 2), (13, 2), (17, 3), (25, 3), (33, 3), (41, 3), (49, 4), (65, 4),
    (81, 4), (97, 4), (113, 5), (145, 5), (177, 5), (209, 5), (241, 6), (305, 6), (369, 7),
    (497, 8), (753, 9), (1265, 10), (2289, 11), (4337, 12), (8433, 13), (16625, 24)]

def readExtra (range : Nat × Nat) : Reader Nat := do pure (range.1 + (← readBits range.2))

def readBlockLength (code : Code) : Reader Nat := do
  readExtra (blockLengths.getD (← code.read) (0, 0))

/-- A number from 1 to 256 in up to eleven bits. -/
def readCount : Reader Nat := do
  if ← readFlag then
    let n ← readBits 3
    pure (2 ^ n + 1 + (← readBits n))
  else pure 1

namespace Kind

def readHeader : Reader Kind := do
  let types ← readCount
  if types = 1 then pure {} else do
    let typeCode ← readCode (types + 2)
    let lengthCode ← readCode 26
    let left ← readBlockLength lengthCode
    pure { types, typeCode, lengthCode, left }

def enter (k : Kind) : Reader Kind := do
  if 0 < k.left ∨ k.types = 1 then pure k else do
    let symbol ← k.typeCode.read
    let left ← readBlockLength k.lengthCode
    let type := match symbol with
      | 0 => k.previous
      | 1 => k.current + 1
      | n => n - 2
    let type := if k.types ≤ type then type - k.types else type
    pure { k with left, previous := k.current, current := type }

def spend (k : Kind) : Kind := { k with left := k.left - 1 }

end Kind

/-- Fills a context map, last entry first; `fuel` bounds the entries. -/
def readMapEntries (code : Code) (runs size : Nat) : (fuel : Nat) → List Nat → Nat → Reader (List Nat)
  | 0, acc, _ => pure acc
  | fuel+1, acc, n =>
    if size ≤ n then pure acc else do
      let symbol ← code.read
      if symbol = 0 then readMapEntries code runs size fuel (0 :: acc) (n + 1)
      else if runs < symbol then readMapEntries code runs size fuel ((symbol - runs) :: acc) (n + 1)
      else do
        let count := 2 ^ symbol + (← readBits symbol)
        if size < n + count then fail .violation
        readMapEntries code runs size fuel (List.replicate count 0 ++ acc) (n + count)

def moveToFront : List Nat → List Nat → List Nat
  | _, [] => []
  | recent, i :: rest =>
    let v := recent.getD i 0
    v :: moveToFront (v :: recent.eraseIdx i) rest

def readContextMap (size : Nat) : Reader (Nat × Array Nat) := do
  let codes ← readCount
  if codes = 1 then pure (1, Array.replicate size 0) else do
    need 5
    let runs ← if ← readFlag then do pure ((← readBits 4) + 1) else pure 0
    let code ← readCode (codes + runs)
    let entries := (← readMapEntries code runs size size [] 0).reverse
    let entries := if ← readFlag then moveToFront (List.range 256) entries else entries
    pure (codes, entries.toArray)

def readCodes (alphabet : Nat) : (n : Nat) → Reader (List Code)
  | 0 => pure []
  | n+1 => do
      let code ← readCode alphabet
      pure (code :: (← readCodes alphabet n))

/-- Everything a compressed block declares before its commands. -/
structure Plan where
  postfixBits : Nat
  direct : Nat
  modes : Array Nat
  literalMap : Array Nat
  distanceMap : Array Nat
  literalCodes : Array Code
  commandCodes : Array Code
  distanceCodes : Array Code

structure Kinds where
  literal : Kind
  command : Kind
  distance : Kind

def readPlan : Reader (Plan × Kinds) := do
  let literal ← Kind.readHeader
  let command ← Kind.readHeader
  let distance ← Kind.readHeader
  let postfixBits ← readBits 2
  let direct := (← readBits 4) * 2 ^ postfixBits
  let modes ← readFields 2 literal.types
  let (literals, literalMap) ← readContextMap (64 * literal.types)
  let (distances, distanceMap) ← readContextMap (4 * distance.types)
  let literalCodes ← readCodes 256 literals
  let commandCodes ← readCodes 704 command.types
  let distanceCodes ← readCodes (16 + direct + 48 * 2 ^ postfixBits) distances
  pure ({ postfixBits, direct, modes := modes.toArray, literalMap, distanceMap,
          literalCodes := literalCodes.toArray, commandCodes := commandCodes.toArray,
          distanceCodes := distanceCodes.toArray },
        { literal, command, distance })

/-- Classes of the last byte in text, four apart. -/
def textClass1 : Array Nat :=
  #[0, 0, 0, 0, 0, 0, 0, 0, 0, 4, 4, 0, 0, 4, 0, 0, 0, 0, 0, 0, 0, 0, 0, 0, 0, 0, 0, 0, 0, 0, 0, 0,
    8, 12, 16, 12, 12, 20, 12, 16, 24, 28, 12, 12, 32, 12, 36, 12,
    44, 44, 44, 44, 44, 44, 44, 44, 44, 44, 32, 32, 24, 40, 28, 12,
    12, 48, 52, 52, 52, 48, 52, 52, 52, 48, 52, 52, 52, 52, 52, 48,
    52, 52, 52, 52, 52, 48, 52, 52, 52, 52, 52, 24, 12, 28, 12, 12,
    12, 56, 60, 60, 60, 56, 60, 60, 60, 56, 60, 60, 60, 60, 60, 56,
    60, 60, 60, 60, 60, 56, 60, 60, 60, 60, 60, 24, 12, 28, 12, 0]

def textContext1 (p : Nat) : Nat :=
  if p < 128 then textClass1.getD p 0 else if p < 192 then p % 2 else 2 + p % 2

/-- Classes of the byte before: letters, digits and capitals, marks, and the rest. -/
def textContext2 (p : Nat) : Nat :=
  if p ≤ 32 then 0 else if p < 48 then 1 else if p < 58 then 2 else if p < 65 then 1
  else if p < 91 then 2 else if p < 97 then 1 else if p < 123 then 3 else if p < 127 then 1
  else if p < 224 then 0 else 2

def signedContext (p : Nat) : Nat :=
  if p = 0 then 0 else if p < 16 then 1 else if p < 64 then 2 else if p < 128 then 3
  else if p < 192 then 4 else if p < 240 then 5 else if p < 255 then 6 else 7

def literalContext (mode last before : Nat) : Nat :=
  match mode with
  | 0 => last % 64
  | 1 => last / 4
  | 2 => textContext1 last ||| textContext2 before
  | _ => 8 * signedContext last + signedContext before

def insertLengths : Array (Nat × Nat) :=
  #[(0, 0), (1, 0), (2, 0), (3, 0), (4, 0), (5, 0), (6, 1), (8, 1), (10, 2), (14, 2), (18, 3),
    (26, 3), (34, 4), (50, 4), (66, 5), (98, 5), (130, 6), (194, 7), (322, 8), (578, 9),
    (1090, 10), (2114, 12), (6210, 14), (22594, 24)]

def copyLengths : Array (Nat × Nat) :=
  #[(2, 0), (3, 0), (4, 0), (5, 0), (6, 0), (7, 0), (8, 0), (9, 0), (10, 1), (12, 1), (14, 2),
    (18, 2), (22, 3), (30, 3), (38, 4), (54, 4), (70, 5), (102, 5), (134, 6), (198, 7), (326, 8),
    (582, 9), (1094, 10), (2118, 24)]

/-- Of the eleven cells of 64 commands each: the first insert and copy length codes. -/
def commandCells : Array (Nat × Nat) :=
  #[(0, 0), (0, 8), (0, 0), (0, 8), (8, 0), (8, 8), (0, 16), (16, 0), (8, 16), (16, 8), (16, 16)]

/-- What is known between two commands: the four last distances, the latest first. -/
structure State where
  bits : Bits
  output : ByteArray := .empty
  recent : List Nat := [4, 11, 15, 16]

namespace State

/-- The byte that stands `back` before the end, zero before the beginning. -/
def last (s : State) (back : Nat) : Nat :=
  if back ≤ s.output.size then s.output[s.output.size - back]?.elim 0 UInt8.toNat else 0

def push (s : State) (b : UInt8) : State := { s with output := s.output.push b }

/-- Copies `n` bytes, each from `distance` before the end as it then is. -/
def copy (distance : Nat) : (n : Nat) → State → State
  | 0, s => s
  | n+1, s => copy distance n (s.push (UInt8.ofNat (s.last distance)))

def append (s : State) (bs : Octets) : State := bs.foldl push s

def run {α : Type} (s : State) (r : Reader α) : Except Fault (α × State) :=
  (StateT.run r s.bits).map fun p => (p.1, { s with bits := p.2 })

end State

/-- Work on a state that keeps what was written before a fault. -/
abbrev Writer := ExceptT Fault (StateM State)

def Writer.read {α : Type} (r : Reader α) : Writer α := do
  match (← get).run r with
  | .ok (a, s) => set s; pure a
  | .error f => throw f

def writeLiterals (plan : Plan) : (n : Nat) → Kind → Writer Kind
  | 0, k => pure k
  | n+1, k => do
      let k ← Writer.read k.enter
      let s ← get
      let context := literalContext (plan.modes.getD k.current 0) (s.last 1) (s.last 2)
      let code := plan.literalCodes.getD (plan.literalMap.getD (64 * k.current + context) 0) (.single 0)
      let symbol ← Writer.read code.read
      modify (·.push (UInt8.ofNat symbol))
      writeLiterals plan n k.spend

/-- The distance of a code: one of the recent ones, moved by up to three, or a new one. -/
def readDistance (plan : Plan) (recent : List Nat) (symbol : Nat) : Reader Nat := do
  let moved (i : Nat) (step : Int) : Nat :=
    let d := (recent.getD i 0 : Int) + step
    if d ≤ 0 then 0x7fffffff else d.toNat
  if symbol < 4 then pure (recent.getD symbol 0)
  else if symbol < 16 then
    let step : Int := (symbol - 4) % 6 / 2 + 1
    pure (moved (if symbol < 10 then 0 else 1) (if symbol % 2 = 0 then -step else step))
  else if symbol < 16 + plan.direct then pure (symbol - 15)
  else do
    let v := symbol - 16 - plan.direct
    let high := v / 2 ^ plan.postfixBits
    let bits := high / 2 + 1
    let extra ← readBits bits
    let offset := (2 + high % 2) * 2 ^ bits - 4
    pure ((offset + extra) * 2 ^ plan.postfixBits + v % 2 ^ plan.postfixBits + plan.direct + 1)

/-- One command: literals, then a copy or a dictionary word. Gives the kinds and what is left of
the block, `none` when the block is complete. -/
def command (plan : Plan) (window : Nat) (kinds : Kinds) (remaining : Nat) :
    Writer (Option (Kinds × Nat)) := do
  let k ← Writer.read kinds.command.enter
  let symbol ← Writer.read (plan.commandCodes.getD k.current (.single 0)).read
  let cell := commandCells.getD (symbol / 64) (0, 0)
  let insert ← Writer.read (readExtra (insertLengths.getD (cell.1 + symbol / 8 % 8) (0, 0)))
  let length ← Writer.read (readExtra (copyLengths.getD (cell.2 + symbol % 8) (0, 0)))
  let kinds := { kinds with command := k.spend }
  if remaining < insert then throw .violation
  let literal ← writeLiterals plan insert kinds.literal
  let kinds := { kinds with literal }
  let remaining := remaining - insert
  if remaining = 0 then return none
  let recent := (← get).recent
  let (code, distance, kinds) ←
    if symbol < 128 then pure (0, recent.getD 0 0, kinds) else do
      let k ← Writer.read kinds.distance.enter
      let context := min length 5 - 2
      let tree := plan.distanceMap.getD (4 * k.current + context) 0
      let code ← Writer.read (plan.distanceCodes.getD tree (.single 0)).read
      let distance ← Writer.read (readDistance plan recent code)
      pure (code, distance, { kinds with distance := k.spend })
  let reach := min (← get).output.size (window - 16)
  let added ←
    if reach < distance then
      match Dictionary.lookup length (distance - reach - 1) with
      | none => throw .violation
      | some word => do
        modify (·.append word)
        pure word.length
    else do
      unless code = 0 do modify fun s => { s with recent := (distance :: s.recent).take 4 }
      if remaining < length then throw .violation
      modify (State.copy distance length)
      pure length
  if remaining < added then throw .violation
  if remaining = added then pure none else pure (some (kinds, remaining - added))

/-- Runs commands until the block is complete. A command that neither reads a bit nor writes a
byte would run for ever, which is a violation. -/
def commands (plan : Plan) (window : Nat) (kinds : Kinds) (remaining : Nat) (s : State) :
    Except Fault Unit × State :=
  match (command plan window kinds remaining).run s with
  | (.error f, s) => (.error f, s)
  | (.ok none, s) => (.ok (), s)
  | (.ok (some (kinds, rest)), t) =>
    if _h : t.bits.left + rest < s.bits.left + remaining then commands plan window kinds rest t
    else (.error .violation, t)
termination_by s.bits.left + remaining

inductive Block where
  | empty
  | metadata (size : Nat)
  | stored (size : Nat)
  | compressed (size : Nat)

def readBlockHeader : Reader (Bool × Block) := do
  let isLast ← readFlag
  let isEmpty ← if isLast then readFlag else pure false
  if isEmpty then pure (isLast, .empty) else do
    let nibbles ← readBits 2
    if nibbles = 3 then do
      if ← readFlag then fail .violation
      let bytes ← readBits 2
      let digits ← readFields 8 bytes
      if 1 < bytes ∧ digits.getLast? = some 0 then fail .violation
      alignByte
      pure (isLast, if bytes = 0 then .empty else .metadata (littleEndian 256 digits + 1))
    else do
      let digits ← readFields 4 (nibbles + 4)
      if 0 < nibbles ∧ digits.getLast? = some 0 then fail .violation
      let size := littleEndian 16 digits + 1
      let stored ← if isLast then pure false else readFlag
      if stored then do
        alignByte
        pure (isLast, .stored size)
      else pure (isLast, .compressed size)

def skipBytes : (n : Nat) → Reader Unit
  | 0 => pure ()
  | n+1 => do
      let _ ← readBits 8
      skipBytes n

def writeStored : (n : Nat) → Writer Unit
  | 0 => pure ()
  | n+1 => do
      let b ← Writer.read (readBits 8)
      modify (·.push (UInt8.ofNat b))
      writeStored n

def writeBlock (window : Nat) : Writer Bool := do
  let (isLast, block) ← Writer.read readBlockHeader
  match block with
  | .empty => pure ()
  | .metadata n => Writer.read (skipBytes n)
  | .stored n => writeStored n
  | .compressed n =>
    let (plan, kinds) ← Writer.read readPlan
    let (result, s) := commands plan window kinds n (← get)
    set s
    match result with
    | .ok () => pure ()
    | .error f => throw f
  if isLast then Writer.read alignByte
  pure isLast

/-- Decodes blocks until the last one; every block reads at least one bit. -/
def blocks (window : Nat) (s : State) : Option Fault × ByteArray :=
  match (writeBlock window).run s with
  | (.error f, s) => (some f, s.output)
  | (.ok true, s) => (none, s.output)
  | (.ok false, t) =>
    if _h : t.bits.left < s.bits.left then blocks window t else (some .truncated, t.output)
termination_by s.bits.left

/-- The window's size in bits, in one to seven bits. -/
def readWindow : Reader Nat := do
  need 8
  if ← readFlag then
    let n ← readBits 3
    if n ≠ 0 then pure (17 + n) else do
      let n ← readBits 3
      if n = 1 then fail .violation
      pure (if n = 0 then 17 else 8 + n)
  else pure 16

/-- What a stream yields: the bytes it delivers and the fault that ends it, if any. -/
structure Outcome where
  delivered : Octets
  fault : Option Fault
  deriving DecidableEq, Repr

/-- Bytes are delivered a window at a time: a stream that just ends early still gives all of them,
one that breaks a rule only the whole windows before. -/
def decode (bs : Octets) : Outcome :=
  let b : Bits := { data := ⟨bs.toArray⟩ }
  match readWindow.run b with
  | .error f => ⟨[], some f⟩
  | .ok (bits, rest) =>
    let window := 2 ^ bits
    match blocks window { bits := rest } with
    | (some .violation, output) =>
      ⟨(output.extract 0 (output.size / window * window)).toList, some .violation⟩
    | (fault, output) => ⟨output.toList, fault⟩

end Inkwell.Brotli
