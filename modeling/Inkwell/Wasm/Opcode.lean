import Inkwell.Wasm.Types
set_option autoImplicit false

/-! The instruction set: for every opcode the form of its immediates and its typing rule.
Consecutive opcodes that agree in both make up a family. -/

namespace Inkwell.Wasm

/-- A one-byte opcode stands on page zero, the others on the page of their first byte. -/
structure Opcode where
  page : Nat
  code : Nat
  deriving DecidableEq, Repr

inductive Shape where
  | none | block | index | pair | labels | memory | memoryLane | lane
  | int32 | int64 | octets (n : Nat) | types | heap | cast | handlers | zero
  deriving DecidableEq, Repr

inductive Special where
  | unreachable | block | loop | ifThen | elseThen | finish
  | throwTag | throwRef | tryTable
  | br | brIf | brTable | brOnNull | brOnNonNull | brOnCast | brOnCastFail
  | ret | call | callIndirect | callRef | returnCall | returnCallIndirect | returnCallRef
  | drop | select | selectTyped
  | localGet | localSet | localTee | globalGet | globalSet
  | tableGet | tableSet | tableSize | tableGrow | tableFill | tableCopy | tableInit | elemDrop
  | memorySize | memoryGrow | memoryFill | memoryCopy | memoryInit | dataDrop
  | refNull | refIsNull | refFunc | refEq | refAsNonNull
  | structNew | structNewDefault | structGet | structGetPacked | structSet
  | arrayNew | arrayNewDefault | arrayNewFixed | arrayNewData | arrayNewElem
  | arrayGet | arrayGetPacked | arraySet | arrayLen | arrayFill | arrayCopy
  | arrayInitData | arrayInitElem
  | refTest (nullable : Bool) | refCast (nullable : Bool)
  | anyConvertExtern | externConvertAny | refI31 | i31Get
  deriving DecidableEq, Repr

/-- How an instruction acts on the operand stack. Sizes of accesses are powers of two. -/
inductive Rule where
  | stack (pops pushes : List ValType)
  | load (t : ValType) (size : Nat)
  | store (t : ValType) (size : Nat)
  | loadLane (size : Nat)
  | storeLane (size : Nat)
  /-- Takes an address below the other operands; the alignment must be the natural one. -/
  | atomic (size : Nat) (pops pushes : List ValType)
  | lane (lanes : Nat) (pops pushes : List ValType)
  | shuffle
  | special (s : Special)
  deriving DecidableEq, Repr

structure Family where
  first : Nat
  count : Nat
  shape : Shape
  rule : Rule
  deriving DecidableEq, Repr

namespace Family

def ofSpecial (code : Nat) (shape : Shape) (s : Special) : Family := ⟨code, 1, shape, .special s⟩
def ofStack (first count : Nat) (pops pushes : List ValType) : Family :=
  ⟨first, count, .none, .stack pops pushes⟩
def unary (first count : Nat) (t : ValType) : Family := ofStack first count [t] [t]
def binary (first count : Nat) (t : ValType) : Family := ofStack first count [t, t] [t]
def ternary (first count : Nat) (t : ValType) : Family := ofStack first count [t, t, t] [t]
def test (first count : Nat) (t : ValType) : Family := ofStack first count [t] [.i32]
def compare (first count : Nat) (t : ValType) : Family := ofStack first count [t, t] [.i32]
def convert (first count : Nat) (source target : ValType) : Family :=
  ofStack first count [source] [target]
def load (first count : Nat) (t : ValType) (size : Nat) : Family := ⟨first, count, .memory, .load t size⟩
def store (first count : Nat) (t : ValType) (size : Nat) : Family := ⟨first, count, .memory, .store t size⟩

end Family

namespace Opcode

open Family

def plain : List Family :=
  [ofSpecial 0x00 .none .unreachable, ofStack 0x01 1 [] [],
   ofSpecial 0x02 .block .block, ofSpecial 0x03 .block .loop, ofSpecial 0x04 .block .ifThen,
   ofSpecial 0x05 .none .elseThen, ofSpecial 0x08 .index .throwTag, ofSpecial 0x0a .none .throwRef,
   ofSpecial 0x0b .none .finish, ofSpecial 0x0c .index .br, ofSpecial 0x0d .index .brIf,
   ofSpecial 0x0e .labels .brTable, ofSpecial 0x0f .none .ret, ofSpecial 0x10 .index .call,
   ofSpecial 0x11 .pair .callIndirect, ofSpecial 0x12 .index .returnCall,
   ofSpecial 0x13 .pair .returnCallIndirect, ofSpecial 0x14 .index .callRef,
   ofSpecial 0x15 .index .returnCallRef, ofSpecial 0x1a .none .drop, ofSpecial 0x1b .none .select,
   ofSpecial 0x1c .types .selectTyped, ofSpecial 0x1f .handlers .tryTable,
   ofSpecial 0x20 .index .localGet, ofSpecial 0x21 .index .localSet, ofSpecial 0x22 .index .localTee,
   ofSpecial 0x23 .index .globalGet, ofSpecial 0x24 .index .globalSet,
   ofSpecial 0x25 .index .tableGet, ofSpecial 0x26 .index .tableSet,
   load 0x28 1 .i32 2, load 0x29 1 .i64 3, load 0x2a 1 .f32 2, load 0x2b 1 .f64 3,
   load 0x2c 2 .i32 0, load 0x2e 2 .i32 1, load 0x30 2 .i64 0, load 0x32 2 .i64 1, load 0x34 2 .i64 2,
   store 0x36 1 .i32 2, store 0x37 1 .i64 3, store 0x38 1 .f32 2, store 0x39 1 .f64 3,
   store 0x3a 1 .i32 0, store 0x3b 1 .i32 1, store 0x3c 1 .i64 0, store 0x3d 1 .i64 1,
   store 0x3e 1 .i64 2,
   ofSpecial 0x3f .index .memorySize, ofSpecial 0x40 .index .memoryGrow,
   ⟨0x41, 1, .int32, .stack [] [.i32]⟩, ⟨0x42, 1, .int64, .stack [] [.i64]⟩,
   ⟨0x43, 1, .octets 4, .stack [] [.f32]⟩, ⟨0x44, 1, .octets 8, .stack [] [.f64]⟩,
   test 0x45 1 .i32, compare 0x46 10 .i32, test 0x50 1 .i64, compare 0x51 10 .i64,
   compare 0x5b 6 .f32, compare 0x61 6 .f64,
   unary 0x67 3 .i32, binary 0x6a 15 .i32, unary 0x79 3 .i64, binary 0x7c 15 .i64,
   unary 0x8b 7 .f32, binary 0x92 7 .f32, unary 0x99 7 .f64, binary 0xa0 7 .f64,
   convert 0xa7 1 .i64 .i32, convert 0xa8 2 .f32 .i32, convert 0xaa 2 .f64 .i32,
   convert 0xac 2 .i32 .i64, convert 0xae 2 .f32 .i64, convert 0xb0 2 .f64 .i64,
   convert 0xb2 2 .i32 .f32, convert 0xb4 2 .i64 .f32, convert 0xb6 1 .f64 .f32,
   convert 0xb7 2 .i32 .f64, convert 0xb9 2 .i64 .f64, convert 0xbb 1 .f32 .f64,
   convert 0xbc 1 .f32 .i32, convert 0xbd 1 .f64 .i64, convert 0xbe 1 .i32 .f32,
   convert 0xbf 1 .i64 .f64, unary 0xc0 2 .i32, unary 0xc2 3 .i64,
   ofSpecial 0xd0 .heap .refNull, ofSpecial 0xd1 .none .refIsNull, ofSpecial 0xd2 .index .refFunc,
   ofSpecial 0xd3 .none .refEq, ofSpecial 0xd4 .none .refAsNonNull,
   ofSpecial 0xd5 .index .brOnNull, ofSpecial 0xd6 .index .brOnNonNull]

/-- Structs, arrays and casts. -/
def aggregate : List Family :=
  [ofSpecial 0x00 .index .structNew, ofSpecial 0x01 .index .structNewDefault,
   ofSpecial 0x02 .pair .structGet, ⟨0x03, 2, .pair, .special .structGetPacked⟩,
   ofSpecial 0x05 .pair .structSet, ofSpecial 0x06 .index .arrayNew,
   ofSpecial 0x07 .index .arrayNewDefault, ofSpecial 0x08 .pair .arrayNewFixed,
   ofSpecial 0x09 .pair .arrayNewData, ofSpecial 0x0a .pair .arrayNewElem,
   ofSpecial 0x0b .index .arrayGet, ⟨0x0c, 2, .index, .special .arrayGetPacked⟩,
   ofSpecial 0x0e .index .arraySet, ofSpecial 0x0f .none .arrayLen, ofSpecial 0x10 .index .arrayFill,
   ofSpecial 0x11 .pair .arrayCopy, ofSpecial 0x12 .pair .arrayInitData,
   ofSpecial 0x13 .pair .arrayInitElem, ofSpecial 0x14 .heap (.refTest false),
   ofSpecial 0x15 .heap (.refTest true), ofSpecial 0x16 .heap (.refCast false),
   ofSpecial 0x17 .heap (.refCast true), ofSpecial 0x18 .cast .brOnCast,
   ofSpecial 0x19 .cast .brOnCastFail, ofSpecial 0x1a .none .anyConvertExtern,
   ofSpecial 0x1b .none .externConvertAny, ofSpecial 0x1c .none .refI31,
   ⟨0x1d, 2, .none, .special .i31Get⟩]

/-- Saturating conversions, and operations on whole tables and memories. -/
def bulk : List Family :=
  [convert 0x00 2 .f32 .i32, convert 0x02 2 .f64 .i32, convert 0x04 2 .f32 .i64,
   convert 0x06 2 .f64 .i64,
   ofSpecial 0x08 .pair .memoryInit, ofSpecial 0x09 .index .dataDrop, ofSpecial 0x0a .pair .memoryCopy,
   ofSpecial 0x0b .index .memoryFill, ofSpecial 0x0c .pair .tableInit, ofSpecial 0x0d .index .elemDrop,
   ofSpecial 0x0e .pair .tableCopy, ofSpecial 0x0f .index .tableGrow,
   ofSpecial 0x10 .index .tableSize, ofSpecial 0x11 .index .tableFill]

def shift (first : Nat) : Family := ofStack first 3 [.v128, .i32] [.v128]
def laneTests (first : Nat) : Family := test first 2 .v128
def extract (first count lanes : Nat) (t : ValType) : Family :=
  ⟨first, count, .lane, .lane lanes [.v128] [t]⟩
def replace (code lanes : Nat) (t : ValType) : Family :=
  ⟨code, 1, .lane, .lane lanes [.v128, t] [.v128]⟩
def loadLane (code size : Nat) : Family := ⟨code, 1, .memoryLane, .loadLane size⟩
def storeLane (code size : Nat) : Family := ⟨code, 1, .memoryLane, .storeLane size⟩

def vector : List Family :=
  [load 0x00 1 .v128 4, load 0x01 6 .v128 3, load 0x07 1 .v128 0, load 0x08 1 .v128 1,
   load 0x09 1 .v128 2, load 0x0a 1 .v128 3, store 0x0b 1 .v128 4,
   ⟨0x0c, 1, .octets 16, .stack [] [.v128]⟩, ⟨0x0d, 1, .octets 16, .shuffle⟩, binary 0x0e 1 .v128,
   convert 0x0f 3 .i32 .v128, convert 0x12 1 .i64 .v128, convert 0x13 1 .f32 .v128,
   convert 0x14 1 .f64 .v128,
   extract 0x15 2 16 .i32, replace 0x17 16 .i32, extract 0x18 2 8 .i32, replace 0x1a 8 .i32,
   extract 0x1b 1 4 .i32, replace 0x1c 4 .i32, extract 0x1d 1 2 .i64, replace 0x1e 2 .i64,
   extract 0x1f 1 4 .f32, replace 0x20 4 .f32, extract 0x21 1 2 .f64, replace 0x22 2 .f64,
   binary 0x23 42 .v128, unary 0x4d 1 .v128, binary 0x4e 4 .v128, ternary 0x52 1 .v128,
   test 0x53 1 .v128,
   loadLane 0x54 0, loadLane 0x55 1, loadLane 0x56 2, loadLane 0x57 3,
   storeLane 0x58 0, storeLane 0x59 1, storeLane 0x5a 2, storeLane 0x5b 3,
   load 0x5c 1 .v128 2, load 0x5d 1 .v128 3, unary 0x5e 5 .v128, laneTests 0x63, binary 0x65 2 .v128,
   unary 0x67 4 .v128, shift 0x6b, binary 0x6e 6 .v128, unary 0x74 2 .v128, binary 0x76 4 .v128,
   unary 0x7a 1 .v128, binary 0x7b 1 .v128, unary 0x7c 6 .v128, binary 0x82 1 .v128, laneTests 0x83,
   binary 0x85 2 .v128, unary 0x87 4 .v128, shift 0x8b, binary 0x8e 6 .v128, unary 0x94 1 .v128,
   binary 0x95 5 .v128, binary 0x9b 5 .v128,
   unary 0xa0 2 .v128, laneTests 0xa3, unary 0xa7 4 .v128, shift 0xab, binary 0xae 1 .v128,
   binary 0xb1 1 .v128, binary 0xb5 6 .v128, binary 0xbc 4 .v128,
   unary 0xc0 2 .v128, laneTests 0xc3, unary 0xc7 4 .v128, shift 0xcb, binary 0xce 1 .v128,
   binary 0xd1 1 .v128, binary 0xd5 11 .v128, unary 0xe0 2 .v128, unary 0xe3 1 .v128,
   binary 0xe4 8 .v128, unary 0xec 2 .v128, unary 0xef 1 .v128, binary 0xf0 8 .v128,
   unary 0xf8 8 .v128,
   binary 0x100 1 .v128, unary 0x101 4 .v128, ternary 0x105 8 .v128, binary 0x10d 6 .v128,
   ternary 0x113 1 .v128]

def atomicLoad (code : Nat) (t : ValType) (size : Nat) : Family :=
  ⟨code, 1, .memory, .atomic size [] [t]⟩
def atomicStore (code : Nat) (t : ValType) (size : Nat) : Family :=
  ⟨code, 1, .memory, .atomic size [t] []⟩

def modify (first operands : Nat) : List Family :=
  [(ValType.i32, 2), (.i64, 3), (.i32, 0), (.i32, 1), (.i64, 0), (.i64, 1), (.i64, 2)].zipIdx.map
    fun p => ⟨first + p.2, 1, .memory, .atomic p.1.2 (List.replicate operands p.1.1) [p.1.1]⟩

def atomic : List Family :=
  [⟨0x00, 1, .memory, .atomic 2 [.i32] [.i32]⟩, ⟨0x01, 1, .memory, .atomic 2 [.i32, .i64] [.i32]⟩,
   ⟨0x02, 1, .memory, .atomic 3 [.i64, .i64] [.i32]⟩, ⟨0x03, 1, .zero, .stack [] []⟩,
   atomicLoad 0x10 .i32 2, atomicLoad 0x11 .i64 3, atomicLoad 0x12 .i32 0, atomicLoad 0x13 .i32 1,
   atomicLoad 0x14 .i64 0, atomicLoad 0x15 .i64 1, atomicLoad 0x16 .i64 2,
   atomicStore 0x17 .i32 2, atomicStore 0x18 .i64 3, atomicStore 0x19 .i32 0, atomicStore 0x1a .i32 1,
   atomicStore 0x1b .i64 0, atomicStore 0x1c .i64 1, atomicStore 0x1d .i64 2] ++
    [0x1e, 0x25, 0x2c, 0x33, 0x3a, 0x41].flatMap (modify · 1) ++ modify 0x48 2

def pages : Nat → List Family
  | 0 => plain
  | 0xfb => aggregate
  | 0xfc => bulk
  | 0xfd => vector
  | 0xfe => atomic
  | _ => []

def family? (op : Opcode) : Option Family :=
  (pages op.page).find? fun f => f.first ≤ op.code && op.code < f.first + f.count

def isPage (b : UInt8) : Bool := 0xfb ≤ b && b ≤ 0xfe

def codec : Codec Opcode := .tagged .byte
  (fun op => UInt8.ofNat (if op.page = 0 then op.code else op.page)) fun b =>
    if isPage b then Codec.u32.convert (fun n => some ⟨b.toNat, n⟩) Opcode.code
    else .nothing ⟨0, b.toNat⟩

def isConstant (op : Opcode) : Bool :=
  match op.page with
  | 0 => op.code ∈ [0x0b, 0x23, 0x41, 0x42, 0x43, 0x44, 0x6a, 0x6b, 0x6c, 0x7c, 0x7d, 0x7e, 0xd0, 0xd2]
  | 0xfb => op.code ∈ [0x00, 0x01, 0x06, 0x07, 0x08, 0x1a, 0x1b, 0x1c]
  | 0xfd => op.code = 0x0c
  | _ => false

end Opcode
end Inkwell.Wasm
