import Inkwell.Transaction
set_option autoImplicit false

/-! A call of a contract as the program runner and the system contracts see it. -/

namespace Inkwell

structure Call where
  /-- The account that the call acts as. -/
  target : Address
  /-- The account whose code runs. -/
  codeAt : Address
  caller : Address
  value : Word := 0
  input : Octets := []
  /-- No state may change. -/
  frozen : Bool := false
  gas : Nat
  deriving DecidableEq, Repr

inductive CallInput where
  | octets (bs : Octets)
  | shared (start stop : Nat)
  deriving DecidableEq, Repr

/-- Input outside the shared buffer is empty. -/
def CallInput.resolve (t : Transaction) : CallInput → Octets
  | .octets bs => bs
  | .shared start stop => (t.bufferPart? start stop).getD []

end Inkwell
