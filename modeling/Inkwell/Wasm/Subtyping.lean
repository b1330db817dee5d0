import Inkwell.Wasm.Module
set_option autoImplicit false

/-! Defined types, when two of them are the same, and when one is a subtype of another. -/

namespace Inkwell.Wasm

namespace HeapType

def mapIndex (f : Nat → Nat) : HeapType → HeapType
  | .concrete i => .concrete (f i)
  | h => h

end HeapType

def ValType.mapIndex (f : Nat → Nat) : ValType → ValType
  | .ref r => .ref { r with heap := r.heap.mapIndex f }
  | t => t

def FieldType.mapIndex (f : Nat → Nat) (t : FieldType) : FieldType :=
  match t.storage with
  | .val v => { t with storage := .val (v.mapIndex f) }
  | .packed _ => t

def CompositeType.mapIndex (f : Nat → Nat) : CompositeType → CompositeType
  | .func t => .func ⟨t.params.map (·.mapIndex f), t.results.map (·.mapIndex f)⟩
  | .struct fs => .struct (fs.map (·.mapIndex f))
  | .array e => .array (e.mapIndex f)

def SubType.mapIndex (f : Nat → Nat) (t : SubType) : SubType :=
  { t with super := t.super.map f, composite := t.composite.mapIndex f }

def ValType.indices : ValType → List Nat
  | .ref ⟨_, .concrete i⟩ => [i]
  | _ => []

def FieldType.indices (t : FieldType) : List Nat :=
  match t.storage with
  | .val v => v.indices
  | .packed _ => []

def CompositeType.indices : CompositeType → List Nat
  | .func t => (t.params ++ t.results).flatMap ValType.indices
  | .struct fs => fs.flatMap FieldType.indices
  | .array e => e.indices

/-- A defined type: `id` is the same for types that are equal, `depth` counts its supertypes. -/
structure TypeDef where
  id : Nat
  depth : Nat
  type : SubType
  deriving DecidableEq, Repr

structure Types where
  defs : Array TypeDef := #[]
  /-- The groups met so far, in a form that does not depend on their place, with their first id. -/
  groups : List (List SubType × Nat) := []
  nextId : Nat := 0

namespace Types

def composite? (ts : Types) (i : Nat) : Option CompositeType := (ts.defs[i]?).map (·.type.composite)

def func? (ts : Types) (i : Nat) : Option FuncType :=
  match ts.composite? i with
  | some (.func t) => some t
  | _ => none

def id? (ts : Types) (i : Nat) : Option Nat := (ts.defs[i]?).map TypeDef.id

/-- The ids of a type and of its supertypes, at most `fuel` of them. -/
def lineage (ts : Types) : (fuel : Nat) → Nat → List Nat
  | 0, _ => []
  | fuel+1, i =>
    match ts.defs[i]? with
    | none => []
    | some d => d.id :: d.type.super.elim [] (ts.lineage fuel)

def abstractSub (a b : AbstractHeap) : Bool :=
  a = b || match a, b with
    | .noFunc, .func | .noExternal, .external | .noExn, .exn => true
    | .eq, .any | .i31, .any | .struct, .any | .array, .any | .none, .any => true
    | .i31, .eq | .struct, .eq | .array, .eq | .none, .eq => true
    | .none, .i31 | .none, .struct | .none, .array => true
    | _, _ => false

def kindOf : CompositeType → AbstractHeap
  | .func _ => .func
  | .struct _ => .struct
  | .array _ => .array

def heapSub (ts : Types) : HeapType → HeapType → Bool
  | .abstract a, .abstract b => abstractSub a b
  | .concrete i, .abstract b => (ts.composite? i).any fun c => abstractSub (kindOf c) b
  | .abstract a, .concrete j => (ts.composite? j).any fun c =>
      match kindOf c with
      | .func => a = .noFunc
      | _ => a = .none
  | .concrete i, .concrete j => i = j || (ts.id? j).any (· ∈ ts.lineage 65 i)

def refSub (ts : Types) (a b : RefType) : Bool := (b.nullable || !a.nullable) && ts.heapSub a.heap b.heap

def valSub (ts : Types) : ValType → ValType → Bool
  | .ref a, .ref b => ts.refSub a b
  | a, b => a = b

def all2 {α : Type} (p : α → α → Bool) : List α → List α → Bool
  | [], [] => true
  | a :: as, b :: bs => p a b && all2 p as bs
  | _, _ => false

def storageSub (ts : Types) : StorageType → StorageType → Bool
  | .val a, .val b => ts.valSub a b
  | a, b => a = b

/-- A field that can be written is the same on both sides. -/
def fieldSub (ts : Types) (a b : FieldType) : Bool :=
  a.mutable = b.mutable && ts.storageSub a.storage b.storage &&
    (!b.mutable || ts.storageSub b.storage a.storage)

def compositeSub (ts : Types) : CompositeType → CompositeType → Bool
  | .func a, .func b => all2 ts.valSub b.params a.params && all2 ts.valSub a.results b.results
  | .struct as, .struct bs => all2 ts.fieldSub (as.take bs.length) bs
  | .array a, .array b => ts.fieldSub a b
  | _, _ => false

/-- A group with its own members numbered from its start and all others by their ids. -/
def placeless (ts : Types) (start : Nat) (g : List SubType) : List SubType :=
  g.map fun t => t.mapIndex fun i =>
    if start ≤ i then 2 * (i - start) + 1 else 2 * (ts.id? i).getD 0

/-- A supertype stands before its subtypes, is open, and is really above them. -/
def superOk (ts : Types) (i : Nat) (t : SubType) : Bool :=
  match t.super with
  | none => true
  | some s => s < i && (ts.defs[s]?).any fun d =>
      !d.type.final && d.depth < 63 && ts.compositeSub t.composite d.type.composite

def depthOf (ts : Types) (t : SubType) : Nat :=
  t.super.elim 0 fun s => (ts.defs[s]?).elim 0 fun d => d.depth + 1

/-- Adds the members of a group, the first of which gets the given id. -/
def push (ts : Types) (id : Nat) : List SubType → Types
  | [] => ts
  | t :: rest => push { ts with defs := ts.defs.push ⟨id, ts.depthOf t, t⟩ } (id + 1) rest

def addGroup? (ts : Types) (g : List SubType) : Option Types :=
  let start := ts.defs.size
  let bound := start + g.length
  if !g.all (fun t => t.composite.indices.all (· < bound)) then none
  else if !(g.zipIdx start).all (fun p => p.1.super.all (· < p.2)) then none
  else
    let form := ts.placeless start g
    let ts := match ts.groups.lookup form with
      | some id => ts.push id g
      | none =>
        { ts.push ts.nextId g with
          groups := (form, ts.nextId) :: ts.groups
          nextId := ts.nextId + g.length }
    if (g.zipIdx start).all (fun p => ts.superOk p.2 p.1) then some ts else none

def ofGroups? (gs : List RecGroup) : Option Types :=
  gs.foldlM (fun ts g => ts.addGroup? g.members) {}

def heapOk (ts : Types) : HeapType → Bool
  | .abstract _ => true
  | .concrete i => i < ts.defs.size

def valOk (ts : Types) : ValType → Bool
  | .ref r => ts.heapOk r.heap
  | _ => true

def top (ts : Types) : HeapType → AbstractHeap
  | .abstract h =>
    match h with
    | .func | .noFunc => .func
    | .external | .noExternal => .external
    | .exn | .noExn => .exn
    | _ => .any
  | .concrete i =>
    match ts.composite? i with
    | some (.func _) => .func
    | _ => .any

end Types

def ValType.hasDefault : ValType → Bool
  | .ref r => r.nullable
  | _ => true

def ValType.isRef : ValType → Bool
  | .ref _ => true
  | _ => false

def StorageType.unpacked : StorageType → ValType
  | .packed _ => .i32
  | .val t => t

def StorageType.isPacked : StorageType → Bool
  | .packed _ => true
  | .val _ => false

/-- Whether values of the type can be read from raw bytes. -/
def StorageType.isPlain : StorageType → Bool
  | .val (.ref _) => false
  | _ => true

end Inkwell.Wasm
