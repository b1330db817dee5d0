import Inkwell.Abi
import Inkwell.Compile
import Inkwell.Package
set_option autoImplicit false

/-! Why something cannot be done with a program or with the state kept about programs. -/

namespace Inkwell

inductive ProgramError where
  | outOfGas
  | readOnly
  | context (reason : String)
  | notProgram
  | notActivated
  | needsUpgrade (current wanted : UInt16)
  | expired (age : Nat)
  | notActive
  | insufficientFunds (available wanted : Word)
  | compile (e : CompileError)
  | package (e : Package.Error)
  | notManager
  deriving DecidableEq, Repr

namespace ProgramError

def message : ProgramError → String
  | .outOfGas => "out of gas"
  | .readOnly => "state change attempted during static call"
  | .context reason => "context error: " ++ reason
  | .notProgram => "program is not a wasm program"
  | .notActivated => "program not activated"
  | .needsUpgrade a b => s!"program needs upgrade from version {a.toNat} to {b.toNat}"
  | .expired age => s!"program expired {age} seconds after activation"
  | .notActive => "program not active"
  | .insufficientFunds a b => s!"insufficient funds: have {a.toNat}, want {b.toNat}"
  | .compile e => e.message
  | .package e => e.message
  | .notManager => "caller is not a cache manager"

/-- What a reverted caller is told: an error of the contract interface where it has one, the
message otherwise. -/
def octets : ProgramError → Octets
  | .notProgram => Abi.error "ProgramNotWasm()" []
  | .notActivated => Abi.error "ProgramNotActivated()" []
  | .needsUpgrade a b =>
    Abi.error "ProgramNeedsUpgrade(uint16,uint16)" [Abi.number a.toNat, Abi.number b.toNat]
  | .expired age => Abi.error "ProgramExpired(uint64)" [Abi.number age]
  | .insufficientFunds a b => Abi.error "ProgramInsufficientValue(uint256,uint256)" [a, b]
  | e => Octets.ofText e.message

end ProgramError
end Inkwell
