import Inkwell.Wasm.Instruction
set_option autoImplicit false

/-! Modules and their binary form: a header, then sections in a fixed order. Custom sections may
stand anywhere and are skipped. -/

namespace Inkwell.Wasm

inductive ExternKind where
  | func | table | memory | global | tag
  deriving DecidableEq, Repr

inductive ImportType where
  | func (type : Nat)
  | table (t : TableType)
  | memory (t : MemoryType)
  | global (t : GlobalType)
  | tag (type : Nat)
  deriving DecidableEq, Repr

structure Import where
  source : Octets
  name : Octets
  type : ImportType
  deriving DecidableEq, Repr

structure Table where
  type : TableType
  init : Option Initializer
  deriving DecidableEq, Repr

structure Global where
  type : GlobalType
  init : Initializer
  deriving DecidableEq, Repr

structure Export where
  name : Octets
  kind : ExternKind
  index : Nat
  deriving DecidableEq, Repr

inductive ElementMode where
  | active (table : Option Nat) (offset : Initializer)
  | passive
  | declared
  deriving DecidableEq, Repr

inductive ElementItems where
  | functions (fs : List Nat)
  | expressions (type : RefType) (es : List Initializer)
  deriving DecidableEq, Repr

structure Element where
  mode : ElementMode
  items : ElementItems
  deriving DecidableEq, Repr

structure Body where
  locals : List (Nat × ValType)
  code : List Instruction
  deriving DecidableEq, Repr

inductive DataMode where
  | active (memory : Nat) (offset : Initializer)
  | passive
  deriving DecidableEq, Repr

structure DataSegment where
  mode : DataMode
  bytes : Octets
  deriving DecidableEq, Repr

structure Module where
  types : List RecGroup := []
  imports : List Import := []
  functions : List Nat := []
  tables : List Table := []
  memories : List MemoryType := []
  tags : List Nat := []
  globals : List Global := []
  exports : List Export := []
  start : Option Nat := none
  elements : List Element := []
  dataCount : Option Nat := none
  code : List Body := []
  data : List DataSegment := []
  deriving DecidableEq, Repr

namespace ExternKind

def octet : ExternKind → UInt8
  | .func => 0 | .table => 1 | .memory => 2 | .global => 3 | .tag => 4

def ofOctet? : UInt8 → Option ExternKind
  | 0 => some .func | 1 => some .table | 2 => some .memory | 3 => some .global | 4 => some .tag
  | _ => none

def codec : Codec ExternKind := Codec.byte.convert ofOctet? octet

end ExternKind

/-- A tag's type, behind a zero byte. -/
def tagCodec : Codec Nat :=
  ((Codec.byte.guarded (· = 0)).pair Codec.u32).convert (fun p => some p.2) fun i => (0, i)

namespace ImportType

def kind : ImportType → ExternKind
  | .func _ => .func | .table _ => .table | .memory _ => .memory | .global _ => .global
  | .tag _ => .tag

def afterKind : ExternKind → Codec ImportType
  | .func => Codec.u32.convert (fun i => some (.func i)) fun
    | .func i => i
    | _ => 0
  | .table => TableType.codec.convert (fun t => some (.table t)) fun
    | .table t => t
    | _ => ⟨.func, ⟨.narrow, 0, none⟩⟩
  | .memory => MemoryType.codec.convert (fun t => some (.memory t)) fun
    | .memory t => t
    | _ => ⟨⟨.narrow, 0, none⟩, .unshared⟩
  | .global => GlobalType.codec.convert (fun t => some (.global t)) fun
    | .global t => t
    | _ => ⟨.i32, false⟩
  | .tag => tagCodec.convert (fun i => some (.tag i)) fun
    | .tag i => i
    | _ => 0

def codec : Codec ImportType := .tagged ExternKind.codec kind afterKind

end ImportType

def Import.codec : Codec Import :=
  ((Codec.name.pair Codec.name).pair ImportType.codec).convert
    (fun p => some ⟨p.1.1, p.1.2, p.2⟩) fun i => ((i.source, i.name), i.type)

namespace Table

def octets (t : Table) : Octets :=
  match t.init with
  | none => TableType.codec.write t.type
  | some init => 0x40 :: 0x00 :: TableType.codec.write t.type ++ Initializer.codec.write init

/-- A table with an initializer starts with two bytes that start no reference type. -/
def codec : Codec Table := .peek (fun b =>
  if b = 0x40 then
    (((Codec.octets 2).guarded (· = [0x40, 0x00])).pair (TableType.codec.pair Initializer.codec)).convert
      (fun p => some ⟨p.2.1, some p.2.2⟩) fun t => ([0x40, 0x00], t.type, t.init.getD [])
  else TableType.codec.convert (fun t => some ⟨t, none⟩) Table.type) octets

end Table

def Global.codec : Codec Global :=
  (GlobalType.codec.pair Initializer.codec).convert (fun p => some ⟨p.1, p.2⟩) fun g => (g.type, g.init)

def Export.codec : Codec Export :=
  ((Codec.name.pair ExternKind.codec).pair Codec.u32).convert
    (fun p => some ⟨p.1.1, p.1.2, p.2⟩) fun e => ((e.name, e.kind), e.index)

namespace Element

/-- Bit zero: not active. Bit one: a table index, or declared. Bit two: expressions. -/
def flags (e : Element) : Nat :=
  (match e.mode with
    | .active none _ => 0
    | .passive => 1
    | .active (some _) _ => 2
    | .declared => 3) +
  match e.items with
    | .functions _ => 0
    | .expressions _ _ => 4

def modeCodec (flags : Nat) : Codec ElementMode :=
  match flags % 4 with
  | 0 => Initializer.codec.convert (fun o => some (.active none o)) fun
    | .active _ o => o
    | _ => []
  | 1 => .nothing .passive
  | 2 => (Codec.u32.pair Initializer.codec).convert (fun p => some (.active (some p.1) p.2)) fun
    | .active t o => (t.getD 0, o)
    | _ => (0, [])
  | _ => .nothing .declared

def functionsOf : ElementItems → List Nat
  | .functions fs => fs
  | .expressions _ _ => []

def expressionsOf : ElementItems → RefType × List Initializer
  | .functions _ => (.func, [])
  | .expressions t es => (t, es)

def itemsCodec (flags : Nat) : Codec ElementItems :=
  let functions := Codec.u32.list
  let expressions := Initializer.codec.list
  match decide (flags < 4), decide (flags % 4 = 0) with
  | true, true => functions.convert (fun fs => some (.functions fs)) functionsOf
  | true, false => ((Codec.byte.guarded (· = 0)).pair functions).convert
      (fun p => some (.functions p.2)) fun e => (0, functionsOf e)
  | false, true => expressions.convert (fun es => some (.expressions .func es)) fun e =>
      (expressionsOf e).2
  | false, false => (RefType.codec.pair expressions).convert
      (fun p => some (.expressions p.1 p.2)) expressionsOf

def codec : Codec Element := .tagged (Codec.u32.guarded (· < 8)) flags fun n =>
  ((modeCodec n).pair (itemsCodec n)).convert (fun p => some ⟨p.1, p.2⟩) fun e => (e.mode, e.items)

end Element

def Body.codec : Codec Body :=
  (((Codec.u32.pair ValType.codec).list.pair Instruction.codec.many).convert
    (fun p => some ⟨p.1, p.2⟩) fun b => (b.locals, b.code)).sized

namespace DataSegment

def flags (d : DataSegment) : Nat :=
  match d.mode with
  | .active 0 _ => 0
  | .passive => 1
  | .active _ _ => 2

def modeCodec (flags : Nat) : Codec DataMode :=
  match flags with
  | 0 => Initializer.codec.convert (fun o => some (.active 0 o)) fun
    | .active _ o => o
    | .passive => []
  | 1 => .nothing .passive
  | _ => (Codec.u32.pair Initializer.codec).convert (fun p => some (.active p.1 p.2)) fun
    | .active m o => (m, o)
    | .passive => (0, [])

def codec : Codec DataSegment := .tagged (Codec.u32.guarded (· < 3)) flags fun n =>
  ((modeCodec n).pair .blob).convert (fun p => some ⟨p.1, p.2⟩) fun d => (d.mode, d.bytes)

end DataSegment

structure RawSection where
  id : UInt8
  contents : Octets
  deriving DecidableEq, Repr

namespace RawSection

def codec : Codec RawSection :=
  (Codec.byte.pair .blob).convert (fun p => some ⟨p.1, p.2⟩) fun s => (s.id, s.contents)

def isNamed (s : RawSection) : Bool := (Codec.name.read s.contents).isSome

end RawSection

namespace Module

def header : Octets := [0x00, 0x61, 0x73, 0x6d, 0x01, 0x00, 0x00, 0x00]

def rank? : UInt8 → Option Nat
  | 1 => some 1 | 2 => some 2 | 3 => some 3 | 4 => some 4 | 5 => some 5 | 13 => some 6
  | 6 => some 7 | 7 => some 8 | 8 => some 9 | 9 => some 10 | 12 => some 11 | 10 => some 12
  | 11 => some 13 | _ => none

def ascending : List Nat → Bool
  | a :: b :: rest => a < b && ascending (b :: rest)
  | _ => true

/-- The sections but for the custom ones, if all are known and in their order. -/
def sections? (raw : List RawSection) : Option (List (UInt8 × Octets)) := do
  let custom := raw.filter (·.id = 0)
  let known := raw.filter (·.id ≠ 0)
  if !custom.all RawSection.isNamed then none
  let ranks ← known.mapM fun s => rank? s.id
  if !ascending ranks then none
  pure (known.map fun s => (s.id, s.contents))

def part? {α : Type} (sections : List (UInt8 × Octets)) (id : UInt8) (c : Codec α) (default : α) :
    Option α :=
  match sections.lookup id with
  | none => some default
  | some bs => c.readAll bs

def optional {α : Type} (c : Codec α) : Codec (Option α) where
  read bs := (c.read bs).map fun p => (some p.1, p.2)
  write a := a.elim [] c.write

def ofSections? (s : List (UInt8 × Octets)) : Option Module := do
  pure {
    types := ← part? s 1 RecGroup.codec.list []
    imports := ← part? s 2 Import.codec.list []
    functions := ← part? s 3 Codec.u32.list []
    tables := ← part? s 4 Table.codec.list []
    memories := ← part? s 5 MemoryType.codec.list []
    tags := ← part? s 13 tagCodec.list []
    globals := ← part? s 6 Global.codec.list []
    exports := ← part? s 7 Export.codec.list []
    start := ← part? s 8 (optional Codec.u32) none
    elements := ← part? s 9 Element.codec.list []
    dataCount := ← part? s 12 (optional Codec.u32) none
    code := ← part? s 10 Body.codec.list []
    data := ← part? s 11 DataSegment.codec.list [] }

def readBody? (bs : Octets) : Option Module := do
  let raw ← RawSection.codec.many.readAll bs
  ofSections? (← sections? raw)

def read? (bs : Octets) : Option Module :=
  if header.isPrefixOf bs then readBody? (bs.drop header.length) else none

def listed {α : Type} (id : UInt8) (c : Codec α) (as : List α) : Octets :=
  if as.isEmpty then [] else RawSection.codec.write ⟨id, c.list.write as⟩

def item (id : UInt8) (i : Option Nat) : Octets :=
  i.elim [] fun i => RawSection.codec.write ⟨id, Codec.u32.write i⟩

/-- The binary form: every number in its shortest form, and no empty section. -/
def write (m : Module) : Octets :=
  header ++ listed 1 RecGroup.codec m.types ++ listed 2 Import.codec m.imports ++
    listed 3 Codec.u32 m.functions ++ listed 4 Table.codec m.tables ++
    listed 5 MemoryType.codec m.memories ++ listed 13 tagCodec m.tags ++
    listed 6 Global.codec m.globals ++ listed 7 Export.codec m.exports ++ item 8 m.start ++
    listed 9 Element.codec m.elements ++ item 12 m.dataCount ++ listed 10 Body.codec m.code ++
    listed 11 DataSegment.codec m.data

end Module
end Inkwell.Wasm
