import Inkwell.Keccak
import Inkwell.Wasm.Component
set_option autoImplicit false

/-! Whether a module may run as a program, and what starting it is estimated to cost. -/

namespace Inkwell

structure CompileSettings where
  version : UInt16
  debug : Bool
  pageLimit : UInt16 := 128
  maxSize : UInt32 := 131072
  deriving DecidableEq, Repr

inductive Malformation where
  | invalid
  | multipleMemories
  deriving DecidableEq, Repr

inductive CompileError where
  | malformed (m : Malformation)
  | tooLarge (size limit : Nat)
  | missingExport (name : String)
  | badEntrypoint
  | forbiddenImport (source name : String)
  | memoryTooLarge (pages : Nat) (limit : UInt16)
  | tooExpensive (cost : String)
  deriving DecidableEq, Repr

def Malformation.message : Malformation → String
  | .invalid => "invalid module"
  | .multipleMemories => "multiple memories"

def CompileError.message : CompileError → String
  | .malformed m => "malformed module: " ++ m.message
  | .tooLarge size limit => s!"module is {size} bytes, limit is {limit}"
  | .missingExport name => "missing export `" ++ name ++ "`"
  | .badEntrypoint => "entrypoint must have type (i32) -> i32"
  | .forbiddenImport source name => "forbidden import " ++ source ++ "::" ++ name
  | .memoryTooLarge pages limit => s!"memory of {pages} pages exceeds the limit of {limit.toNat}"
  | .tooExpensive cost => cost ++ " cost too high"

structure Estimate where
  initCost : UInt16 := 0
  cachedInitCost : UInt16 := 0
  footprint : UInt16 := 0
  /-- Size of the machine code in bytes. -/
  asmSize : UInt32 := 0
  entry : UInt32 := 0
  deriving DecidableEq, Repr

def Estimate.asmKb (e : Estimate) : Nat := (e.asmSize.toNat + 1023) / 1024

structure Artifact where
  moduleHash : Word
  version : UInt16
  debug : Bool
  module : Octets
  estimate : Estimate
  deriving DecidableEq, Repr

/-- Whether the artifact may serve a call under these settings. -/
def Artifact.suits (a : Artifact) (s : CompileSettings) : Bool :=
  a.version = s.version && a.debug = s.debug

structure Outline where
  types : List Wasm.FuncType := []
  importedFuncs : Nat := 0
  functions : List Nat := []
  globals : Nat := 0
  dataSize : Nat := 0
  footprint : Option Nat := none
  memories : Nat := 0
  exportsMemory : Bool := false
  entry : Option Nat := none
  deriving DecidableEq, Repr

namespace Outline

open Wasm

/-- The type of a group that is one final function type without a supertype. -/
def plainType? (g : RecGroup) : Option FuncType :=
  match g.members with
  | [⟨true, none, .func t⟩] => some t
  | _ => none

def hostModule : Octets := Octets.ofText "vm_hooks"
def debugModule : Octets := Octets.ofText "console"
def memoryName : Octets := Octets.ofText "memory"
def entryName : Octets := Octets.ofText "user_entrypoint"

def allowed (debug : Bool) (i : Import) : Bool :=
  (i.source = hostModule || (debug && i.source = debugModule)) && i.type.kind = .func

def checkImports (debug : Bool) (is : List Import) : Except CompileError Unit :=
  match is.find? (!allowed debug ·) with
  | some i => .error (.forbiddenImport i.source.display i.name.display)
  | none => .ok ()

def addExport (o : Outline) (e : Export) : Outline :=
  if e.name = memoryName ∧ e.kind = .memory then { o with exportsMemory := true }
  else if e.name = entryName ∧ e.kind = .func then { o with entry := some e.index }
  else o

/-- Imports and globals are counted anew by every section of them, be it empty. -/
def addModule (debug : Bool) (o : Outline) (c : Core) : Except CompileError Outline := do
  let m := c.module
  let types ← match m.types.mapM plainType? with
    | some ts => .ok ts
    | none => .error (.malformed .invalid)
  checkImports debug m.imports
  let o := { o with
    types := o.types ++ types
    importedFuncs :=
      if m.imports.isEmpty && !c.sections.contains 2 then o.importedFuncs else m.imports.length
    functions := o.functions ++ m.functions
    memories := o.memories + m.memories.length
    footprint := (m.memories.getLast?.map (·.limits.initial)).or o.footprint
    globals := if m.globals.isEmpty && !c.sections.contains 6 then o.globals else m.globals.length
    dataSize := o.dataSize + (m.data.map (·.bytes.length)).sum }
  pure (m.exports.foldl addExport o)

def ofBinary (debug : Bool) (b : Binary) : Except CompileError Outline :=
  b.modules.foldlM (addModule debug) {}

/-- The type of the function that starts the program, which is not an imported one. -/
def entryType? (o : Outline) (entry : Nat) : Option FuncType :=
  if entry < o.importedFuncs then none
  else do o.types[← o.functions[entry - o.importedFuncs]?]?

def check (o : Outline) (pageLimit : UInt16) : Except CompileError Unit := do
  if 1 < o.memories then throw (.malformed .multipleMemories)
  if !o.exportsMemory then throw (.missingExport "memory")
  let pages := o.footprint.getD 0
  if pageLimit.toNat < pages then throw (.memoryTooLarge pages pageLimit)
  match o.entry with
  | none => throw (.missingExport "user_entrypoint")
  | some entry =>
    if o.entryType? entry ≠ some ⟨[.i32], [.i32]⟩ then throw .badEntrypoint

def asmSize (o : Outline) (size : Nat) : Nat :=
  512000 + o.functions.length * 996829 / 1000 + o.types.length * 11416 / 1000 + size * 62628 / 10000

def cachedInitCost (o : Outline) (size : Nat) : Nat :=
  o.functions.length * 13420 / 100000 + o.types.length * 89 / 100000 + size * 122 / 100000 +
    o.globals * 1628 / 1000 + o.dataSize * 75244 / 100000 + o.footprint.getD 0 * 5 / 1000

def initCost (o : Outline) (size : Nat) : Nat :=
  o.cachedInitCost size + o.functions.length * 8252 / 1000 + o.types.length * 1059 / 1000 +
    size * 1286 / 10000

def bounded (n bound : Nat) (cost : String) : Except CompileError Nat :=
  if n < bound then .ok n else .error (.tooExpensive cost)

def estimate (o : Outline) (size : Nat) : Except CompileError Estimate := do
  let init ← bounded (o.initCost size) (2 ^ 16) "init"
  let cached ← bounded (o.cachedInitCost size) (2 ^ 16) "cached init"
  let footprint ← bounded (o.footprint.getD 0) (2 ^ 16) "memory"
  let asm ← bounded (o.asmSize size) (2 ^ 32) "asm"
  pure {
    initCost := UInt16.ofNat init
    cachedInitCost := UInt16.ofNat cached
    footprint := UInt16.ofNat footprint
    asmSize := UInt32.ofNat asm
    entry := UInt32.ofNat (o.entry.getD 0) }

end Outline

def compile (wasm : Octets) (s : CompileSettings) : Except CompileError Artifact := do
  if s.maxSize.toNat < wasm.length then throw (.tooLarge wasm.length s.maxSize.toNat)
  match Wasm.Binary.read? wasm with
  | none => throw (.malformed .invalid)
  | some b =>
    let o ← Outline.ofBinary s.debug b
    o.check s.pageLimit
    let estimate ← o.estimate wasm.length
    pure ⟨keccak wasm, s.version, s.debug, wasm, estimate⟩

end Inkwell
