import Inkwell.Call.Run
import Inkwell.SystemContract.Pinning
import Inkwell.SystemContract.Programs
set_option autoImplicit false

/-! Calls of the contracts that are part of the chain. -/

namespace Inkwell.SystemContract

def programsAddress : Address := 0x71
def pinningAddress : Address := 0x72

def methodsAt? (a : Address) : Option (List Method) :=
  if a = programsAddress then some Programs.methods
  else if a = pinningAddress then some Pinning.methods
  else none

/-- Calls a system contract; none if there is none at the address. The value of the call has been
moved to the contract before. Nothing that acts as another account may change state. -/
def call (c : Call) : StateM World (Option CallResult) :=
  match methodsAt? c.codeAt with
  | none => Pure.pure none
  | some methods =>
    if !c.frozen ∧ c.target ≠ c.codeAt then Pure.pure (some ⟨.reverted, [], c.gas, c.gas⟩)
    else some <$> Call.keepIfReturned (invoke methods c)

end Inkwell.SystemContract
