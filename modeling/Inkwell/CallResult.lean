import Inkwell.Ledger
import Inkwell.ProgramError
set_option autoImplicit false

/-! How a call ends. -/

namespace Inkwell

inductive Verdict where
  | returned
  | reverted
  | outOfGas
  | readOnly
  | stackOverflow
  | memoryOutOfGas
  | outOfFunds
  | overflowPayment
  deriving DecidableEq, Repr

def Verdict.name : Verdict → String
  | .returned => "Return"
  | .reverted => "Revert"
  | .outOfGas => "OutOfGas"
  | .readOnly => "StateChangeDuringStaticCall"
  | .stackOverflow => "StackOverflow"
  | .memoryOutOfGas => "MemoryOOG"
  | .outOfFunds => "OutOfFunds"
  | .overflowPayment => "OverflowPayment"

def TransferError.verdict : TransferError → Verdict
  | .outOfFunds => .outOfFunds
  | .overflowPayment => .overflowPayment

structure CallResult where
  verdict : Verdict
  output : Octets := []
  gasLimit : Nat
  gasLeft : Nat
  deriving DecidableEq, Repr

namespace CallResult

def succeeded (r : CallResult) : Bool := r.verdict = .returned

def halt (verdict : Verdict) (gasLimit : Nat) (output : Octets := []) : CallResult :=
  ⟨verdict, output, gasLimit, 0⟩

end CallResult

namespace ProgramError

def verdict : ProgramError → Verdict
  | .outOfGas => .outOfGas
  | .readOnly => .readOnly
  | _ => .reverted

/-- What a caller gets to see; nothing when the verdict says all. -/
def output (e : ProgramError) : Octets :=
  match e.verdict with
  | .reverted => e.octets
  | _ => []

/-- The end of a call that had no gas to begin with. -/
def result (e : ProgramError) : CallResult := ⟨e.verdict, e.output, 0, 0⟩

end ProgramError
end Inkwell
