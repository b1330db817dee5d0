import Inkwell.Compile
import Inkwell.Meter.Ink
set_option autoImplicit false

/-! What runs the instructions of programs. Whatever it does it pays for at the meter. -/

namespace Inkwell

structure Environment where
  target : Address
  caller : Address
  value : Word
  input : Octets
  frozen : Bool
  blockNumber : Nat
  timestamp : Nat
  chainVersion : UInt16
  debug : Bool
  deriving DecidableEq, Repr

inductive Ending where
  | success
  | revert
  | failure
  | outOfInk
  | outOfStack
  | outOfMemory
  deriving DecidableEq, Repr

structure Outcome where
  ending : Ending
  output : Octets := []
  deriving DecidableEq, Repr

def MeterError.ending : MeterError → Ending
  | .outOfInk => .outOfInk
  | .outOfStack => .outOfStack
  | .outOfMemory _ _ => .outOfMemory

abbrev Runner := Artifact → Environment → Meter → Outcome × Meter

def Meter.after (m : Meter) (ops : List Meter.Op) : Meter := ops.foldl (fun m op => (m.run op).1) m

/-- A runner that uses its meter through the meter's operations only. -/
def Runner.Metered (r : Runner) : Prop := ∀ a e m, ∃ ops, (r a e m).2 = m.after ops

/-- A fixed course: operations until one fails, and how the program ends if none does. -/
structure Script where
  ops : List Meter.Op := []
  /-- Ends well, with the input as output. -/
  echo : Bool := false
  outcome : Outcome := ⟨.success, []⟩
  deriving DecidableEq, Repr

def Script.steps (s : Script) (m : Meter) : List Meter.Step := m.traceUntilError s.ops

def Script.runner (s : Script) : Runner := fun _ env m =>
  match (s.steps m).getLast? with
  | some (m, some e) => (⟨e.ending, []⟩, m)
  | some (m, none) => (if s.echo then ⟨.success, env.input⟩ else s.outcome, m)
  | none => (if s.echo then ⟨.success, env.input⟩ else s.outcome, m)

end Inkwell
