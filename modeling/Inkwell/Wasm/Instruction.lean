import Inkwell.Wasm.Opcode
set_option autoImplicit false

/-! Instructions with their immediates, and their binary form. -/

namespace Inkwell.Wasm

inductive BlockType where
  | empty
  | value (t : ValType)
  | indexed (type : Nat)
  deriving DecidableEq, Repr

structure MemArg where
  align : Nat
  memory : Nat
  offset : Nat
  deriving DecidableEq, Repr

structure Handler where
  tag : Option Nat
  withRef : Bool
  label : Nat
  deriving DecidableEq, Repr

structure CastArg where
  label : Nat
  source : RefType
  target : RefType
  deriving DecidableEq, Repr

inductive Immediate where
  | none
  | block (t : BlockType)
  | index (i : Nat)
  | pair (i j : Nat)
  | labels (targets : List Nat) (fallback : Nat)
  | memory (m : MemArg)
  | memoryLane (m : MemArg) (lane : Nat)
  | lane (n : Nat)
  | int32 (i : Int)
  | int64 (i : Int)
  | octets (bs : Octets)
  | types (ts : List ValType)
  | heap (h : HeapType)
  | cast (c : CastArg)
  | handlers (t : BlockType) (hs : List Handler)
  deriving DecidableEq, Repr

structure Instruction where
  op : Opcode
  arg : Immediate := .none
  deriving DecidableEq, Repr

namespace BlockType

def octets : BlockType → Octets
  | .empty => [0x40]
  | .value t => ValType.codec.write t
  | .indexed i => typeIndex.write i

def codec : Codec BlockType := .peek (fun b =>
  if b = 0x40 then Codec.byte.convert (fun _ => some .empty) fun _ => 0x40
  else if ValType.isLead b then ValType.codec.convert (fun t => some (.value t)) fun _ => .i32
  else typeIndex.convert (fun i => some (.indexed i)) fun _ => 0) octets

end BlockType

namespace MemArg

/-- Bit six of the alignment says that a memory index follows. -/
def codec : Codec MemArg := .tagged (Codec.u32.guarded (· < 128))
  (fun m => if m.memory = 0 then m.align else m.align + 64) fun flags =>
    if flags < 64 then Codec.u64.convert (fun o => some ⟨flags, 0, o⟩) MemArg.offset
    else (Codec.u32.pair Codec.u64).convert (fun p => some ⟨flags - 64, p.1, p.2⟩) fun m =>
      (m.memory, m.offset)

end MemArg

def byteNumber : Codec Nat := Codec.byte.convert (fun b => some b.toNat) UInt8.ofNat

namespace Handler

def lead : Handler → UInt8
  | ⟨some _, r, _⟩ => if r then 1 else 0
  | ⟨none, r, _⟩ => if r then 3 else 2

def afterLead (lead : UInt8) : Codec Handler :=
  if lead < 2 then (Codec.u32.pair Codec.u32).convert
    (fun p => some ⟨some p.1, lead = 1, p.2⟩) fun h => (h.tag.getD 0, h.label)
  else if lead < 4 then Codec.u32.convert (fun l => some ⟨none, lead = 3, l⟩) Handler.label
  else .reject

def codec : Codec Handler := .tagged .byte lead afterLead

end Handler

namespace CastArg

def flags (c : CastArg) : UInt8 :=
  (if c.source.nullable then 1 else 0) ||| (if c.target.nullable then 2 else 0)

def codec : Codec CastArg := .tagged (Codec.byte.guarded (· < 4)) flags fun b =>
  ((Codec.u32.pair HeapType.codec).pair HeapType.codec).convert
    (fun p => some ⟨p.1.1, ⟨b &&& 1 != 0, p.1.2⟩, ⟨b &&& 2 != 0, p.2⟩⟩) fun c =>
      ((c.label, c.source.heap), c.target.heap)

end CastArg

namespace Immediate

def codec : Shape → Codec Immediate
  | .none => .nothing .none
  | .block => BlockType.codec.convert (fun t => some (.block t)) fun
    | .block t => t
    | _ => .empty
  | .index => Codec.u32.convert (fun i => some (.index i)) fun
    | .index i => i
    | _ => 0
  | .pair => (Codec.u32.pair Codec.u32).convert (fun p => some (.pair p.1 p.2)) fun
    | .pair i j => (i, j)
    | _ => (0, 0)
  | .labels => ((Codec.u32.listWithin 7654321).pair Codec.u32).convert
    (fun p => some (.labels p.1 p.2)) fun
    | .labels ts d => (ts, d)
    | _ => ([], 0)
  | .memory => MemArg.codec.convert (fun m => some (.memory m)) fun
    | .memory m => m
    | _ => ⟨0, 0, 0⟩
  | .memoryLane => (MemArg.codec.pair byteNumber).convert (fun p => some (.memoryLane p.1 p.2)) fun
    | .memoryLane m l => (m, l)
    | _ => (⟨0, 0, 0⟩, 0)
  | .lane => byteNumber.convert (fun n => some (.lane n)) fun
    | .lane n => n
    | _ => 0
  | .int32 => (Leb.signed 32).convert (fun i => some (.int32 i)) fun
    | .int32 i => i
    | _ => 0
  | .int64 => (Leb.signed 64).convert (fun i => some (.int64 i)) fun
    | .int64 i => i
    | _ => 0
  | .octets n => (Codec.octets n).convert (fun bs => some (.octets bs)) fun
    | .octets bs => bs
    | _ => []
  | .types => (ValType.codec.listWithin 10).convert (fun ts => some (.types ts)) fun
    | .types ts => ts
    | _ => []
  | .heap => HeapType.codec.convert (fun h => some (.heap h)) fun
    | .heap h => h
    | _ => .abstract .func
  | .cast => CastArg.codec.convert (fun c => some (.cast c)) fun
    | .cast c => c
    | _ => ⟨0, .func, .func⟩
  | .handlers => (BlockType.codec.pair (Handler.codec.listWithin 10000)).convert
    (fun p => some (.handlers p.1 p.2)) fun
    | .handlers t hs => (t, hs)
    | _ => (.empty, [])
  | .zero => Codec.byte.convert (fun b => if b = 0 then some .none else Option.none) fun _ => 0

end Immediate

namespace Instruction

def codec : Codec Instruction := .tagged Opcode.codec Instruction.op fun op =>
  match op.family? with
  | some f => (Immediate.codec f.shape).convert (fun arg => some ⟨op, arg⟩) Instruction.arg
  | none => .reject

def finish : Instruction := ⟨⟨0, 0x0b⟩, .none⟩

def isFinish (i : Instruction) : Bool := i.op = ⟨0, 0x0b⟩

/-- Instructions up to the first `end`, behind those of `acc`, which are in reverse. -/
def readUntilFinish : (fuel : Nat) → (acc : List Instruction) → Octets →
    Option (List Instruction × Octets)
  | 0, _, _ => none
  | fuel+1, acc, bs => do
      let (i, bs) ← codec.read bs
      if i.isFinish then pure (acc.reverse, bs) else readUntilFinish fuel (i :: acc) bs

end Instruction

abbrev Initializer := List Instruction

def Initializer.codec : Codec Initializer where
  read bs := Instruction.readUntilFinish bs.length [] bs
  write is := is.flatMap Instruction.codec.write ++ [0x0b]

end Inkwell.Wasm
