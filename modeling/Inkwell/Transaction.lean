import Inkwell.Octets
set_option autoImplicit false

/-! What lives as long as one transaction: memory pages in use, the buffer that frames pass input
through, and the message of a failed system contract. -/

namespace Inkwell

structure Transaction where
  pagesOpen : Nat := 0
  pagesEver : Nat := 0
  buffer : Octets := []
  notice : Option String := none
  deriving DecidableEq, Repr

namespace Transaction

def setPages (n : Nat) (t : Transaction) : Transaction :=
  { t with pagesOpen := n, pagesEver := max t.pagesEver n }

/-- Counts pages up to the largest number of sixteen bits. -/
def addPages (n : Nat) (t : Transaction) : Transaction :=
  t.setPages (min (t.pagesOpen + n) 65535)

def clear (_ : Transaction) : Transaction := {}

def bufferPart? (t : Transaction) (start stop : Nat) : Option Octets :=
  if start ≤ stop ∧ stop ≤ t.buffer.length then some ((t.buffer.take stop).drop start) else none

end Transaction
end Inkwell
