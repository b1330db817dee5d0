import Inkwell.Wasm.Subtyping
set_option autoImplicit false

/-! The state in which instructions are checked: nested blocks, each with the types of its own
operands. Behind an instruction that does not return, a block's operands may be of any type. -/

namespace Inkwell.Wasm

inductive Operand where
  | unknown
  | unknownRef
  | known (t : ValType)
  deriving DecidableEq, Repr

inductive FrameKind where
  | block | loop | ifThen | elseThen | tryTable
  deriving DecidableEq, Repr

structure Frame where
  kind : FrameKind
  params : List ValType
  results : List ValType
  /-- The last operand first. -/
  operands : List Operand
  unreachable : Bool
  /-- The locals without a value when the block was entered. -/
  unset : List Nat
  deriving DecidableEq, Repr

def Frame.label (f : Frame) : List ValType :=
  match f.kind with
  | .loop => f.params
  | _ => f.results

structure Context where
  types : Types
  funcs : Array Nat := #[]
  tables : Array TableType := #[]
  memories : Array MemoryType := #[]
  globals : Array GlobalType := #[]
  tags : Array Nat := #[]
  elements : Array RefType := #[]
  dataCount : Option Nat := none
  /-- Functions that are mentioned outside of bodies, so that bodies may take references. -/
  declared : List Nat := []
  locals : Array ValType := #[]
  results : List ValType := []

/-- The innermost block first. -/
structure Scopes where
  frames : List Frame
  unset : List Nat

abbrev Check := ReaderT Context (StateT Scopes Option)

namespace Check

def reject {α : Type} : Check α := fun _ _ => none

def require (b : Bool) : Check Unit := if b then pure () else reject

def given {α : Type} : Option α → Check α
  | some a => pure a
  | none => reject

def frame : Check Frame := do given (← get).frames.head?

def setFrame (f : Frame) : Check Unit :=
  modify fun s => { s with frames := f :: s.frames.drop 1 }

def pushOperand (o : Operand) : Check Unit := do
  let f ← frame
  setFrame { f with operands := o :: f.operands }

def push (t : ValType) : Check Unit := pushOperand (.known t)

def pushAll (ts : List ValType) : Check Unit := ts.forM push

def pushRef (r : RefType) : Check Unit := push (.ref r)

def popOperand : Check Operand := do
  let f ← frame
  match f.operands with
  | o :: rest => do
    setFrame { f with operands := rest }
    pure o
  | [] => if f.unreachable then pure .unknown else reject

def accepts (ts : Types) (t : ValType) : Operand → Bool
  | .unknown => true
  | .unknownRef => t.isRef
  | .known u => ts.valSub u t

def take (t : ValType) : Check Operand := do
  let o ← popOperand
  require (accepts (← read).types t o)
  pure o

def pop (t : ValType) : Check Unit := do let _ ← take t

/-- Pops operands of these types, the last of them first. -/
def popAll (ts : List ValType) : Check Unit := ts.reverse.forM pop

def popRef (r : RefType) : Check Unit := pop (.ref r)

/-- Any reference: `none` if its type is not known. -/
def popAnyRef : Check (Option RefType) := do
  match ← popOperand with
  | .unknown | .unknownRef => pure none
  | .known (.ref r) => pure (some r)
  | .known _ => reject

/-- Pops and pushes again, so that the operands take on these types. -/
def recast (ts : List ValType) : Check Unit := do
  popAll ts
  pushAll ts

def inspect (ts : List ValType) : Check Unit := do
  let os ← ts.reverse.mapM take
  os.reverse.forM pushOperand

/-- What follows is not reached. -/
def diverge : Check Unit := do
  let f ← frame
  setFrame { f with operands := [], unreachable := true }

def enter (kind : FrameKind) (params results : List ValType) : Check Unit := do
  modify fun s => { s with
    frames := ⟨kind, params, results, [], false, s.unset⟩ :: s.frames }
  pushAll params

/-- Leaves the innermost block, whose operands must be its results and nothing else. -/
def leave : Check Frame := do
  let f ← frame
  popAll f.results
  require (← frame).operands.isEmpty
  modify fun s => { frames := s.frames.drop 1, unset := f.unset }
  pure f

def label (n : Nat) : Check (List ValType) := do
  let f ← given (← get).frames[n]?
  pure f.label

end Check
end Inkwell.Wasm
