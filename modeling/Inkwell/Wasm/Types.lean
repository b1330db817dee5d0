import Inkwell.Wasm.Codec
set_option autoImplicit false

/-! The types of a module and their binary forms. -/

namespace Inkwell.Wasm

inductive AbstractHeap where
  | func | external | any | none | noExternal | noFunc | eq | struct | array | i31 | exn | noExn
  deriving DecidableEq, Repr

inductive HeapType where
  | abstract (h : AbstractHeap)
  | concrete (type : Nat)
  deriving DecidableEq, Repr

structure RefType where
  nullable : Bool
  heap : HeapType
  deriving DecidableEq, Repr

inductive ValType where
  | i32 | i64 | f32 | f64 | v128
  | ref (r : RefType)
  deriving DecidableEq, Repr

inductive Packed where
  | i8 | i16
  deriving DecidableEq, Repr

inductive StorageType where
  | packed (p : Packed)
  | val (t : ValType)
  deriving DecidableEq, Repr

structure FieldType where
  storage : StorageType
  mutable : Bool
  deriving DecidableEq, Repr

structure FuncType where
  params : List ValType
  results : List ValType
  deriving DecidableEq, Repr

inductive CompositeType where
  | func (t : FuncType)
  | struct (fields : List FieldType)
  | array (element : FieldType)
  deriving DecidableEq, Repr

structure SubType where
  final : Bool
  super : Option Nat
  composite : CompositeType
  deriving DecidableEq, Repr

/-- Types that may refer to each other; a lone type is written with or without a group's head. -/
inductive RecGroup where
  | single (t : SubType)
  | group (ts : List SubType)
  deriving DecidableEq, Repr

def RecGroup.members : RecGroup → List SubType
  | .single t => [t]
  | .group ts => ts

inductive Sharing where
  | unshared | shared
  deriving DecidableEq, Repr

inductive IndexWidth where
  | narrow | wide
  deriving DecidableEq, Repr

def IndexWidth.type : IndexWidth → ValType
  | .narrow => .i32
  | .wide => .i64

structure Limits where
  width : IndexWidth
  initial : Nat
  maximum : Option Nat
  deriving DecidableEq, Repr

structure TableType where
  element : RefType
  limits : Limits
  deriving DecidableEq, Repr

def TableType.index (t : TableType) : ValType := t.limits.width.type

structure MemoryType where
  limits : Limits
  sharing : Sharing
  deriving DecidableEq, Repr

structure GlobalType where
  content : ValType
  mutable : Bool
  deriving DecidableEq, Repr

namespace AbstractHeap

def octet : AbstractHeap → UInt8
  | .func => 0x70 | .external => 0x6f | .any => 0x6e | .none => 0x71 | .noExternal => 0x72
  | .noFunc => 0x73 | .eq => 0x6d | .struct => 0x6b | .array => 0x6a | .i31 => 0x6c
  | .exn => 0x69 | .noExn => 0x74

def ofOctet? : UInt8 → Option AbstractHeap
  | 0x70 => some .func | 0x6f => some .external | 0x6e => some .any | 0x71 => some .none
  | 0x72 => some .noExternal | 0x73 => some .noFunc | 0x6d => some .eq | 0x6b => some .struct
  | 0x6a => some .array | 0x6c => some .i31 | 0x69 => some .exn | 0x74 => some .noExn
  | _ => Option.none

end AbstractHeap

/-- An index where a negative number would stand for something else. -/
def typeIndex : Codec Nat :=
  (Leb.signed 33).convert (fun i => if 0 ≤ i then some i.toNat else none) Int.ofNat

namespace HeapType

def octets : HeapType → Octets
  | .abstract h => [h.octet]
  | .concrete i => typeIndex.write i

def codec : Codec HeapType := .peek (fun b =>
  match AbstractHeap.ofOctet? b with
  | some h => Codec.byte.convert (fun _ => some (.abstract h)) fun _ => b
  | none => typeIndex.convert (fun i => some (.concrete i)) fun h =>
      match h with
      | .concrete i => i
      | .abstract _ => 0) octets

end HeapType

namespace RefType

def func : RefType := ⟨true, .abstract .func⟩

/-- Nullable abstract types have a byte of their own. -/
def lead : RefType → UInt8
  | ⟨true, .abstract h⟩ => h.octet
  | ⟨true, .concrete _⟩ => 0x63
  | ⟨false, _⟩ => 0x64

def afterLead (lead : UInt8) : Codec RefType :=
  match lead with
  | 0x63 => HeapType.codec.convert (fun h => some ⟨true, h⟩) RefType.heap
  | 0x64 => HeapType.codec.convert (fun h => some ⟨false, h⟩) RefType.heap
  | b => match AbstractHeap.ofOctet? b with
    | some h => .nothing ⟨true, .abstract h⟩
    | none => .reject

def codec : Codec RefType := .tagged .byte lead afterLead

end RefType

namespace ValType

def lead : ValType → UInt8
  | .i32 => 0x7f | .i64 => 0x7e | .f32 => 0x7d | .f64 => 0x7c | .v128 => 0x7b
  | .ref r => r.lead

def refOf : ValType → RefType
  | .ref r => r
  | _ => .func

def afterLead (lead : UInt8) : Codec ValType :=
  match lead with
  | 0x7f => .nothing .i32
  | 0x7e => .nothing .i64
  | 0x7d => .nothing .f32
  | 0x7c => .nothing .f64
  | 0x7b => .nothing .v128
  | b => (RefType.afterLead b).convert (fun r => some (.ref r)) refOf

def codec : Codec ValType := .tagged .byte lead afterLead

def isLead (b : UInt8) : Bool :=
  b == 0x63 || b == 0x64 || (0x7b ≤ b && b ≤ 0x7f) || (AbstractHeap.ofOctet? b).isSome

end ValType

def flag : Codec Bool := Codec.byte.convert
  (fun b => match b with | 0 => some false | 1 => some true | _ => none) fun f => if f then 1 else 0

namespace StorageType

def lead : StorageType → UInt8
  | .packed .i8 => 0x78
  | .packed .i16 => 0x77
  | .val t => t.lead

def afterLead (lead : UInt8) : Codec StorageType :=
  match lead with
  | 0x78 => .nothing (.packed .i8)
  | 0x77 => .nothing (.packed .i16)
  | b => (ValType.afterLead b).convert (fun t => some (.val t)) fun s =>
      match s with
      | .val t => t
      | .packed _ => .i32

def codec : Codec StorageType := .tagged .byte lead afterLead

end StorageType

def FieldType.codec : Codec FieldType :=
  (StorageType.codec.pair flag).convert (fun p => some ⟨p.1, p.2⟩) fun f => (f.storage, f.mutable)

def FuncType.codec : Codec FuncType :=
  ((ValType.codec.listWithin 1000).pair (ValType.codec.listWithin 1000)).convert
    (fun p => some ⟨p.1, p.2⟩) fun t => (t.params, t.results)

namespace CompositeType

def lead : CompositeType → UInt8
  | .func _ => 0x60
  | .struct _ => 0x5f
  | .array _ => 0x5e

def afterLead (lead : UInt8) : Codec CompositeType :=
  match lead with
  | 0x60 => FuncType.codec.convert (fun t => some (.func t)) fun c =>
      match c with
      | .func t => t
      | _ => ⟨[], []⟩
  | 0x5f => (FieldType.codec.listWithin 10000).convert (fun fs => some (.struct fs)) fun c =>
      match c with
      | .struct fs => fs
      | _ => []
  | 0x5e => FieldType.codec.convert (fun f => some (.array f)) fun c =>
      match c with
      | .array f => f
      | _ => ⟨.packed .i8, false⟩
  | _ => .reject

def codec : Codec CompositeType := .tagged .byte lead afterLead

end CompositeType

namespace SubType

/-- A final type without a supertype has a short form. -/
def lead : SubType → UInt8
  | ⟨true, none, c⟩ => c.lead
  | ⟨true, some _, _⟩ => 0x4f
  | ⟨false, _, _⟩ => 0x50

def extended (final : Bool) : Codec SubType :=
  ((Codec.u32.listWithin 1).pair CompositeType.codec).convert
    (fun p => some ⟨final, p.1.head?, p.2⟩) fun t => (t.super.toList, t.composite)

def afterLead (lead : UInt8) : Codec SubType :=
  match lead with
  | 0x4f => extended true
  | 0x50 => extended false
  | b => (CompositeType.afterLead b).convert (fun c => some ⟨true, none, c⟩) composite

def codec : Codec SubType := .tagged .byte lead afterLead

end SubType

namespace RecGroup

def lead : RecGroup → UInt8
  | .single t => t.lead
  | .group _ => 0x4e

def afterLead (lead : UInt8) : Codec RecGroup :=
  match lead with
  | 0x4e => (SubType.codec.listWithin 1000000).convert (fun ts => some (.group ts)) members
  | b => (SubType.afterLead b).convert (fun t => some (.single t)) fun g =>
      g.members.head?.getD ⟨true, none, .func ⟨[], []⟩⟩

def codec : Codec RecGroup := .tagged .byte lead afterLead

end RecGroup

namespace Limits

/-- The two numbers behind a flag byte whose bits tell width and presence of a maximum. -/
def body (width : IndexWidth) (bounded : Bool) : Codec Limits :=
  let number := match width with
    | .narrow => Codec.u32
    | .wide => Codec.u64
  if bounded then (number.pair number).convert (fun p => some ⟨width, p.1, some p.2⟩) fun l =>
    (l.initial, l.maximum.getD 0)
  else number.convert (fun n => some ⟨width, n, none⟩) Limits.initial

def widthBit (l : Limits) : UInt8 := if l.width = .wide then 4 else 0
def maximumBit (l : Limits) : UInt8 := if l.maximum.isSome then 1 else 0

def widthOf (flags : UInt8) : IndexWidth := if flags &&& 4 = 0 then .narrow else .wide
def isBounded (flags : UInt8) : Bool := flags &&& 1 != 0

end Limits

namespace TableType

def limitsCodec : Codec Limits := .tagged (Codec.byte.guarded fun b => b &&& 0xfa == 0)
  (fun l => l.widthBit ||| l.maximumBit) fun b => Limits.body (Limits.widthOf b) (Limits.isBounded b)

def codec : Codec TableType :=
  (RefType.codec.pair limitsCodec).convert (fun p => some ⟨p.1, p.2⟩) fun t => (t.element, t.limits)

end TableType

namespace MemoryType

def sharedBit (m : MemoryType) : UInt8 := if m.sharing = .shared then 2 else 0

def codec : Codec MemoryType := .tagged (Codec.byte.guarded fun b => b &&& 0xf8 == 0)
  (fun m => m.limits.widthBit ||| m.limits.maximumBit ||| m.sharedBit) fun b =>
    (Limits.body (Limits.widthOf b) (Limits.isBounded b)).convert
      (fun l => some ⟨l, if b &&& 2 = 0 then .unshared else .shared⟩) MemoryType.limits

end MemoryType

def GlobalType.codec : Codec GlobalType :=
  (ValType.codec.pair flag).convert (fun p => some ⟨p.1, p.2⟩) fun g => (g.content, g.mutable)

end Inkwell.Wasm
