import Inkwell.Clamp
set_option autoImplicit false

/-! The rate between gas and ink. -/

namespace Inkwell

/-- Ink that one unit of gas buys; a price of zero counts as one. -/
structure InkPrice where
  perGas : Nat
  deriving DecidableEq, Repr

namespace InkPrice

def rate (p : InkPrice) : Nat := max p.perGas 1

def toInk (p : InkPrice) (gas : Nat) : Nat := clamp64 (gas * p.rate)

def toGas (p : InkPrice) (ink : Nat) : Nat := ink / p.rate

def toGasCeil (p : InkPrice) (ink : Nat) : Nat := ceilDiv ink p.rate

end InkPrice
end Inkwell
