import Inkwell.Wasm.Typing
set_option autoImplicit false

/-! When a module is valid. -/

namespace Inkwell.Wasm

namespace Limits

def ordered (l : Limits) : Bool := l.maximum.all (l.initial ≤ ·)

def within (l : Limits) (bound : Nat) : Bool := l.initial ≤ bound && l.maximum.all (· ≤ bound)

end Limits

def MemoryType.valid (t : MemoryType) : Bool :=
  t.limits.ordered && t.limits.within (if t.limits.width = .narrow then 2 ^ 16 else 2 ^ 48) &&
    (t.sharing = .unshared || t.limits.maximum.isSome)

def TableType.valid (ts : Types) (t : TableType) : Bool :=
  ts.heapOk t.element.heap && t.limits.ordered && t.limits.initial ≤ 10000000

def GlobalType.valid (ts : Types) (t : GlobalType) : Bool := ts.valOk t.content

/-- Tags carry values and give none back. -/
def tagOk (ts : Types) (type : Nat) : Bool := (ts.func? type).any (·.results.isEmpty)

def ImportType.valid (ts : Types) : ImportType → Bool
  | .func i => (ts.func? i).isSome
  | .table t => t.valid ts
  | .memory t => t.valid
  | .global t => t.valid ts
  | .tag i => tagOk ts i

def Initializer.functions (init : Initializer) : List Nat :=
  init.filterMap fun i =>
    match i.op, i.arg with
    | ⟨0, 0xd2⟩, .index f => some f
    | _, _ => none

namespace ElementItems

def type : ElementItems → RefType
  | .functions _ => ⟨false, .abstract .func⟩
  | .expressions t _ => t

def functionList : ElementItems → List Nat
  | .functions fs => fs
  | .expressions _ es => es.flatMap Initializer.functions

end ElementItems

namespace Module

def importedFuncs (m : Module) : List Nat := m.imports.filterMap fun i =>
  match i.type with
  | .func t => some t
  | _ => none

def importedTables (m : Module) : List TableType := m.imports.filterMap fun i =>
  match i.type with
  | .table t => some t
  | _ => none

def importedMemories (m : Module) : List MemoryType := m.imports.filterMap fun i =>
  match i.type with
  | .memory t => some t
  | _ => none

def importedGlobals (m : Module) : List GlobalType := m.imports.filterMap fun i =>
  match i.type with
  | .global t => some t
  | _ => none

def importedTags (m : Module) : List Nat := m.imports.filterMap fun i =>
  match i.type with
  | .tag t => some t
  | _ => none

def declared (m : Module) : List Nat :=
  m.tables.flatMap (fun t => t.init.elim [] Initializer.functions) ++
    m.globals.flatMap (·.init.functions) ++
    (m.exports.filter (·.kind = .func)).map (·.index) ++ m.elements.flatMap (·.items.functionList)

/-- What bodies are checked in, but for their own locals and results. -/
def context (m : Module) (ts : Types) : Context where
  types := ts
  funcs := (m.importedFuncs ++ m.functions).toArray
  tables := (m.importedTables ++ m.tables.map (·.type)).toArray
  memories := (m.importedMemories ++ m.memories).toArray
  globals := (m.importedGlobals ++ m.globals.map (·.type)).toArray
  tags := (m.importedTags ++ m.tags).toArray
  elements := (m.elements.map (·.items.type)).toArray
  dataCount := m.dataCount
  declared := m.declared

/-- The same when only the imported globals and the first `n` others are there. -/
def early (m : Module) (c : Context) (n : Nat) : Context :=
  { c with globals := (m.importedGlobals ++ (m.globals.take n).map (·.type)).toArray }

def sizesOk (m : Module) (c : Context) : Bool :=
  c.types.defs.size ≤ 1000000 && m.imports.length ≤ 1000000 && c.funcs.size ≤ 1000000 &&
    c.tables.size ≤ 100 && c.memories.size ≤ 100 && c.globals.size ≤ 1000000 &&
    c.tags.size ≤ 1000000 && m.exports.length ≤ 1000000 && m.elements.length ≤ 100000 &&
    m.data.length ≤ 100000

def tableOk (m : Module) (c : Context) (t : Table) : Bool :=
  t.type.valid c.types && match t.init with
    | none => t.type.element.nullable
    | some init => Check.initOk (m.early c 0) (.ref t.type.element) init

def globalOk (m : Module) (c : Context) (n : Nat) (g : Global) : Bool :=
  g.type.valid c.types && Check.initOk (m.early c n) g.type.content g.init

def count (c : Context) : ExternKind → Nat
  | .func => c.funcs.size
  | .table => c.tables.size
  | .memory => c.memories.size
  | .global => c.globals.size
  | .tag => c.tags.size

def exportsOk (m : Module) (c : Context) : Bool :=
  m.exports.all (fun e => e.index < count c e.kind) &&
    (m.exports.map (·.name)).eraseDups.length = m.exports.length

/-- What an import or an export adds to the size of the module's own type. -/
def weightOf (c : Context) : ImportType → Nat
  | .func i | .tag i => (c.types.func? i).elim 0 fun t => 2 + t.params.length + t.results.length
  | _ => 1

def typeSizeOk (m : Module) (c : Context) : Bool :=
  let exported (e : Export) : Nat := match e.kind with
    | .func => (c.funcs[e.index]?).elim 0 fun t => weightOf c (.func t)
    | .tag => (c.tags[e.index]?).elim 0 fun t => weightOf c (.tag t)
    | _ => 1
  1 + (m.imports.map fun i => weightOf c i.type).sum + (m.exports.map exported).sum < 1000000

def startOk (c : Context) (f : Nat) : Bool :=
  (c.funcs[f]?).any fun t => (c.types.func? t).any fun t => t.params.isEmpty && t.results.isEmpty

def elementOk (c : Context) (e : Element) : Bool :=
  let items := match e.items with
    | .functions fs => fs.length ≤ 10000000 && fs.all (· < c.funcs.size)
    | .expressions t es =>
      c.types.heapOk t.heap && es.length ≤ 10000000 && es.all (Check.initOk c (.ref t))
  items && match e.mode with
    | .active t offset => (c.tables[t.getD 0]?).any fun t =>
        c.types.refSub e.items.type t.element && Check.initOk c t.index offset
    | _ => true

def dataOk (c : Context) (d : DataSegment) : Bool :=
  match d.mode with
  | .passive => true
  | .active i offset => (c.memories[i]?).any fun t => Check.initOk c t.limits.width.type offset

def bodyOk (c : Context) (type : Nat) (b : Body) : Bool :=
  match c.types.func? type with
  | none => false
  | some t =>
    b.locals.all (fun l => c.types.valOk l.2) &&
      t.params.length + (b.locals.map (·.1)).sum ≤ 50000 &&
      let locals := t.params ++ b.locals.flatMap fun l => List.replicate l.1 l.2
      let unset := locals.zipIdx.filter fun p => t.params.length ≤ p.2 && !p.1.hasDefault
      Check.bodyOk { c with locals := locals.toArray, results := t.results } (unset.map (·.2)) b.code

def validIn (m : Module) (c : Context) : Bool :=
  let ts := c.types
  m.sizesOk c && m.imports.all (·.type.valid ts) && m.functions.all (fun i => (ts.func? i).isSome) &&
    m.tables.all (m.tableOk c) && m.memories.all MemoryType.valid && m.tags.all (tagOk ts) &&
    m.globals.zipIdx.all (fun p => m.globalOk c p.2 p.1) && m.exportsOk c && m.typeSizeOk c &&
    m.start.all (startOk c) && m.elements.all (elementOk c) && m.data.all (dataOk c) &&
    m.dataCount.all (· = m.data.length) && m.code.length = m.functions.length &&
    (m.functions.zip m.code).all fun p => bodyOk c p.1 p.2

def valid (m : Module) : Bool :=
  match Types.ofGroups? m.types with
  | none => false
  | some ts => m.validIn (m.context ts)

end Module
end Inkwell.Wasm
