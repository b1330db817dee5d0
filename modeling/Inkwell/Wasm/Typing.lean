import Inkwell.Wasm.Stack
set_option autoImplicit false

/-! The typing rules of instructions, and of bodies and initializers made of them. -/

namespace Inkwell.Wasm.Check

def valOk (t : ValType) : Check Unit := do require ((← read).types.valOk t)

def funcType (type : Nat) : Check FuncType := do given ((← read).types.func? type)

def calleeType (func : Nat) : Check FuncType := do funcType (← given (← read).funcs[func]?)

def table (i : Nat) : Check TableType := do given (← read).tables[i]?

def memoryWidth (i : Nat) : Check IndexWidth := do pure (← given (← read).memories[i]?).limits.width

def blockType : BlockType → Check FuncType
  | .empty => pure ⟨[], []⟩
  | .value t => do
      valOk t
      pure ⟨[], [t]⟩
  | .indexed i => funcType i

def access (m : MemArg) (size : Nat) (exact : Bool) : Check ValType := do
  let width ← memoryWidth m.memory
  require (if exact then m.align = size else m.align ≤ size)
  require (width = .wide || m.offset < 2 ^ 32)
  pure width.type

/-- The type of the length when `i` and `j` index the two sides: the narrower one. -/
def shorter (i j : IndexWidth) : ValType := if i = .narrow then .i32 else j.type

def apply (t : FuncType) : Check Unit := do
  popAll t.params
  pushAll t.results

/-- A call in place of a return: the results must do for the caller's. -/
def applyLast (t : FuncType) : Check Unit := do
  let c ← read
  require (Types.all2 c.types.valSub t.results c.results)
  popAll t.params
  diverge

def indirectType (type i : Nat) : Check FuncType := do
  let t ← table i
  require ((← read).types.refSub t.element .func)
  pop t.index
  funcType type

def refOf (type : Nat) (nullable : Bool) : Check RefType := do
  require ((← read).types.heapOk (.concrete type))
  pure ⟨nullable, .concrete type⟩

def popConcrete (type : Nat) : Check Unit := do popRef (← refOf type true)

def pushConcrete (type : Nat) : Check Unit := do pushRef (← refOf type false)

def refCallType (type : Nat) : Check FuncType := do
  let t ← funcType type
  popConcrete type
  pure t

def popAbstract (h : AbstractHeap) : Check (Option RefType) := do
  match ← take (.ref ⟨true, .abstract h⟩) with
  | .known (.ref r) => pure (some r)
  | _ => pure none

/-- An abstract reference that can be null if the one it was made from could. -/
def pushConverted (r : Option RefType) (h : AbstractHeap) : Check Unit :=
  pushRef ⟨r.any RefType.nullable, .abstract h⟩

def structFields (type : Nat) : Check (List FieldType) := do
  match (← read).types.composite? type with
  | some (.struct fs) => pure fs
  | _ => reject

def structField (type i : Nat) : Check FieldType := do given (← structFields type)[i]?

def arrayElement (type : Nat) : Check FieldType := do
  match (← read).types.composite? type with
  | some (.array f) => pure f
  | _ => reject

def mutableElement (type : Nat) : Check FieldType := do
  let f ← arrayElement type
  require f.mutable
  pure f

def dataSegment (i : Nat) : Check Unit := do require ((← read).dataCount.any (i < ·))

def elementSegment (i : Nat) : Check RefType := do given (← read).elements[i]?

def elementsFit (f : FieldType) (segment : Nat) : Check Unit := do
  let r ← elementSegment segment
  require ((← read).types.storageSub (.val (.ref r)) f.storage)

/-- Pops `n` operands of one type; where nothing is reached they are all there. -/
def popTimes (t : ValType) : (n : Nat) → Check Unit
  | 0 => pure ()
  | n+1 => do
      let f ← frame
      if f.operands.isEmpty then require f.unreachable else do
        pop t
        popTimes t n

def isSet (i : Nat) : Check Bool := do pure (!(← get).unset.contains i)

def localType (i : Nat) : Check ValType := do given (← read).locals[i]?

def setLocal (i : Nat) : Check Unit := modify fun s => { s with unset := s.unset.erase i }

def branchTable (targets : List Nat) (fallback : Nat) : Check Unit := do
  pop .i32
  let last ← label fallback
  targets.forM fun n => do
    let ts ← label n
    require (ts.length = last.length)
    inspect ts
  popAll last
  diverge

def labelEnd (n : Nat) : Check (List ValType × ValType) := do
  let ts ← label n
  let last ← given ts.getLast?
  pure (ts.dropLast, last)

def handler (h : Handler) : Check Unit := do
  let target ← label h.label
  let carried ← match h.tag with
    | none => pure []
    | some tag => do
      let t ← funcType (← given (← read).tags[tag]?)
      pure t.params
  let carried := if h.withRef then carried ++ [.ref ⟨false, .abstract .exn⟩] else carried
  require (Types.all2 (← read).types.valSub carried target)

def castTypes (c : CastArg) : Check Unit := do
  let ts := (← read).types
  require (ts.heapOk c.source.heap && ts.heapOk c.target.heap && ts.refSub c.target c.source)

/-- What is left of the source type when the target type is taken out of it. -/
def remainder (c : CastArg) : RefType :=
  { c.source with nullable := !c.target.nullable && c.source.nullable }

def castBranch (c : CastArg) (branching staying : RefType) : Check Unit := do
  castTypes c
  let (rest, last) ← labelEnd c.label
  require ((← read).types.valSub (.ref branching) last)
  popRef c.source
  recast rest
  pushRef staying

def downcast (h : HeapType) (nullable : Bool) : Check RefType := do
  let ts := (← read).types
  require (ts.heapOk h)
  popRef ⟨true, .abstract (ts.top h)⟩
  pure ⟨nullable, h⟩

def select : Check Unit := do
  pop .i32
  match ← popOperand, ← popOperand with
  | .known (.ref _), _ | _, .known (.ref _) | .unknownRef, _ | _, .unknownRef => reject
  | .unknown, o | o, .unknown => pushOperand o
  | .known t, .known u => do
      require (t = u)
      push t

def finish : Check Unit := do
  let f ← leave
  let f ← if f.kind = .ifThen then do
      enter .elseThen f.params f.results
      leave
    else pure f
  unless (← get).frames.isEmpty do pushAll f.results

def special (s : Special) (arg : Immediate) : Check Unit := do
  match s, arg with
  | .unreachable, _ => diverge
  | .block, .block b => do
    let t ← blockType b
    popAll t.params
    enter .block t.params t.results
  | .loop, .block b => do
    let t ← blockType b
    popAll t.params
    enter .loop t.params t.results
  | .ifThen, .block b => do
    let t ← blockType b
    pop .i32
    popAll t.params
    enter .ifThen t.params t.results
  | .elseThen, _ => do
    let f ← leave
    require (f.kind = .ifThen)
    enter .elseThen f.params f.results
  | .finish, _ => finish
  | .tryTable, .handlers b hs => do
    let t ← blockType b
    popAll t.params
    hs.forM handler
    enter .tryTable t.params t.results
  | .throwTag, .index i => do
    let t ← funcType (← given (← read).tags[i]?)
    require t.results.isEmpty
    popAll t.params
    diverge
  | .throwRef, _ => do
    popRef ⟨true, .abstract .exn⟩
    diverge
  | .br, .index n => do
    popAll (← label n)
    diverge
  | .brIf, .index n => do
    pop .i32
    recast (← label n)
  | .brTable, .labels ts d => branchTable ts d
  | .brOnNull, .index n => do
    let r ← popAnyRef
    recast (← label n)
    pushOperand (r.elim .unknownRef fun r => .known (.ref { r with nullable := false }))
  | .brOnNonNull, .index n => do
    match ← labelEnd n with
    | (rest, .ref r) => do
      popRef { r with nullable := true }
      recast rest
    | _ => reject
  | .brOnCast, .cast c => castBranch c c.target (remainder c)
  | .brOnCastFail, .cast c => castBranch c (remainder c) c.target
  | .ret, _ => do
    popAll (← read).results
    diverge
  | .call, .index f => do apply (← calleeType f)
  | .callIndirect, .pair type t => do apply (← indirectType type t)
  | .callRef, .index type => do apply (← refCallType type)
  | .returnCall, .index f => do applyLast (← calleeType f)
  | .returnCallIndirect, .pair type t => do applyLast (← indirectType type t)
  | .returnCallRef, .index type => do applyLast (← refCallType type)
  | .drop, _ => do let _ ← popOperand
  | .select, _ => select
  | .selectTyped, .types [t] => do
    valOk t
    popAll [t, t, .i32]
    push t
  | .localGet, .index i => do
    let t ← localType i
    require (← isSet i)
    push t
  | .localSet, .index i => do
    pop (← localType i)
    setLocal i
  | .localTee, .index i => do
    let t ← localType i
    pop t
    setLocal i
    push t
  | .globalGet, .index i => do push (← given (← read).globals[i]?).content
  | .globalSet, .index i => do
    let g ← given (← read).globals[i]?
    require g.mutable
    pop g.content
  | .tableGet, .index i => do
    let t ← table i
    pop t.index
    pushRef t.element
  | .tableSet, .index i => do
    let t ← table i
    popAll [t.index, .ref t.element]
  | .tableSize, .index i => do push (← table i).index
  | .tableGrow, .index i => do
    let t ← table i
    popAll [.ref t.element, t.index]
    push t.index
  | .tableFill, .index i => do
    let t ← table i
    popAll [t.index, .ref t.element, t.index]
  | .tableCopy, .pair i j => do
    let target ← table i
    let source ← table j
    require ((← read).types.refSub source.element target.element)
    popAll [target.index, source.index, shorter target.limits.width source.limits.width]
  | .tableInit, .pair e i => do
    let t ← table i
    let r ← elementSegment e
    require ((← read).types.refSub r t.element)
    popAll [t.index, .i32, .i32]
  | .elemDrop, .index e => do let _ ← elementSegment e
  | .memorySize, .index i => do push (← memoryWidth i).type
  | .memoryGrow, .index i => do
    let w ← memoryWidth i
    pop w.type
    push w.type
  | .memoryFill, .index i => do
    let w ← memoryWidth i
    popAll [w.type, .i32, w.type]
  | .memoryCopy, .pair i j => do
    let target ← memoryWidth i
    let source ← memoryWidth j
    popAll [target.type, source.type, shorter target source]
  | .memoryInit, .pair d i => do
    let w ← memoryWidth i
    dataSegment d
    popAll [w.type, .i32, .i32]
  | .dataDrop, .index d => dataSegment d
  | .refNull, .heap h => do
    require ((← read).types.heapOk h)
    pushRef ⟨true, h⟩
  | .refIsNull, _ => do
    let _ ← popAnyRef
    push .i32
  | .refFunc, .index f => do
    let c ← read
    let type ← given c.funcs[f]?
    require (c.declared.contains f)
    pushRef ⟨false, .concrete type⟩
  | .refEq, _ => do
    popRef ⟨true, .abstract .eq⟩
    popRef ⟨true, .abstract .eq⟩
    push .i32
  | .refAsNonNull, _ => do
    let r ← popAnyRef
    pushOperand (r.elim .unknownRef fun r => .known (.ref { r with nullable := false }))
  | .structNew, .index type => do
    popAll ((← structFields type).map (·.storage.unpacked))
    pushConcrete type
  | .structNewDefault, .index type => do
    require ((← structFields type).all (·.storage.unpacked.hasDefault))
    pushConcrete type
  | .structGet, .pair type i => do
    let f ← structField type i
    require !f.storage.isPacked
    popConcrete type
    push f.storage.unpacked
  | .structGetPacked, .pair type i => do
    let f ← structField type i
    require f.storage.isPacked
    popConcrete type
    push .i32
  | .structSet, .pair type i => do
    let f ← structField type i
    require f.mutable
    pop f.storage.unpacked
    popConcrete type
  | .arrayNew, .index type => do
    popAll [(← arrayElement type).storage.unpacked, .i32]
    pushConcrete type
  | .arrayNewDefault, .index type => do
    require (← arrayElement type).storage.unpacked.hasDefault
    pop .i32
    pushConcrete type
  | .arrayNewFixed, .pair type n => do
    popTimes (← arrayElement type).storage.unpacked n
    pushConcrete type
  | .arrayNewData, .pair type d => do
    require (← arrayElement type).storage.isPlain
    dataSegment d
    popAll [.i32, .i32]
    pushConcrete type
  | .arrayNewElem, .pair type e => do
    elementsFit (← arrayElement type) e
    popAll [.i32, .i32]
    pushConcrete type
  | .arrayGet, .index type => do
    let f ← arrayElement type
    require !f.storage.isPacked
    pop .i32
    popConcrete type
    push f.storage.unpacked
  | .arrayGetPacked, .index type => do
    require (← arrayElement type).storage.isPacked
    pop .i32
    popConcrete type
    push .i32
  | .arraySet, .index type => do
    let f ← mutableElement type
    popAll [.i32, f.storage.unpacked]
    popConcrete type
  | .arrayLen, _ => do
    popRef ⟨true, .abstract .array⟩
    push .i32
  | .arrayFill, .index type => do
    let f ← mutableElement type
    popAll [.i32, f.storage.unpacked, .i32]
    popConcrete type
  | .arrayCopy, .pair target source => do
    let t ← mutableElement target
    let f ← arrayElement source
    require ((← read).types.storageSub f.storage t.storage)
    popAll [.i32, .ref (← refOf source true), .i32, .i32]
    popConcrete target
  | .arrayInitData, .pair type d => do
    require (← mutableElement type).storage.isPlain
    dataSegment d
    popAll [.i32, .i32, .i32]
    popConcrete type
  | .arrayInitElem, .pair type e => do
    elementsFit (← mutableElement type) e
    popAll [.i32, .i32, .i32]
    popConcrete type
  | .refTest nullable, .heap h => do
    let _ ← downcast h nullable
    push .i32
  | .refCast nullable, .heap h => do pushRef (← downcast h nullable)
  | .anyConvertExtern, _ => do pushConverted (← popAbstract .external) .any
  | .externConvertAny, _ => do pushConverted (← popAbstract .any) .external
  | .refI31, _ => do
    pop .i32
    pushRef ⟨false, .abstract .i31⟩
  | .i31Get, _ => do
    popRef ⟨true, .abstract .i31⟩
    push .i32
  | _, _ => reject

def rule (r : Rule) (arg : Immediate) : Check Unit := do
  match r, arg with
  | .stack pops pushes, _ => do
    popAll pops
    pushAll pushes
  | .load t size, .memory m => do
    pop (← access m size false)
    push t
  | .store t size, .memory m => do popAll [← access m size false, t]
  | .loadLane size, .memoryLane m lane => do
    require (lane < 16 / 2 ^ size)
    popAll [← access m size false, .v128]
    push .v128
  | .storeLane size, .memoryLane m lane => do
    require (lane < 16 / 2 ^ size)
    popAll [← access m size false, .v128]
  | .atomic size pops pushes, .memory m => do
    popAll ((← access m size true) :: pops)
    pushAll pushes
  | .lane lanes pops pushes, .lane n => do
    require (n < lanes)
    popAll pops
    pushAll pushes
  | .shuffle, .octets lanes => do
    require (lanes.all (· < 32))
    popAll [.v128, .v128]
    push .v128
  | .special s, _ => special s arg
  | _, _ => reject

/-- Nothing may follow the end of the outermost block. -/
def instruction (i : Instruction) : Check Unit := do
  let _ ← frame
  rule (← given i.op.family?).rule i.arg

/-- Whether the instructions, of which the last one closes the body, are well typed when the
locals of `unset` have no value at first. -/
def bodyOk (c : Context) (unset : List Nat) (code : List Instruction) : Bool :=
  let start : Scopes := ⟨[⟨.block, [], c.results, [], false, unset⟩], unset⟩
  match (code.forM instruction).run c |>.run start with
  | some (_, s) => s.frames.isEmpty
  | none => false

/-- A constant instruction may read globals that never change. -/
def constantOk (c : Context) (i : Instruction) : Bool :=
  i.op.isConstant && match i.op, i.arg with
    | ⟨0, 0x23⟩, .index n => (c.globals[n]?).any (!·.mutable)
    | _, _ => true

/-- Whether an initializer yields a value of the type. -/
def initOk (c : Context) (t : ValType) (init : Initializer) : Bool :=
  init.all (constantOk c) && bodyOk { c with results := [t], locals := #[] } [] (init ++ [.finish])

end Inkwell.Wasm.Check
