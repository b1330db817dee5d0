import Inkwell.Clamp
set_option autoImplicit false

/-! The price of the data that programs occupy. Demand fills with the bytes of every activation
and leaks at a constant rate; the price of a byte grows exponentially with it. -/

namespace Inkwell

structure Pricer where
  demand : UInt32 := 0
  bytesPerSecond : UInt32 := 139461
  lastUpdate : UInt64 := 1421388000
  minPrice : UInt32 := 82928201
  inertia : UInt32 := 21360419
  deriving DecidableEq, Repr

namespace Pricer

def demandAfter (p : Pricer) (bytes now : Nat) : Nat :=
  let credit := clamp64 (p.bytesPerSecond.toNat * (now - p.lastUpdate.toNat))
  min (clamp64 (p.demand.toNat - credit + bytes)) (2 ^ 32 - 1)

def priceOfByte (demand minPrice inertia : UInt32) : Nat :=
  let growth := Float.exp (Float.ofNat demand.toNat / Float.ofNat (max inertia.toNat 1))
  (Float.ofNat minPrice.toNat * growth).floor.toUInt64.toNat

def update (p : Pricer) (bytes : UInt32) (now : UInt64) : Pricer × Nat :=
  let demand := UInt32.ofNat (p.demandAfter bytes.toNat now.toNat)
  ({ p with demand, lastUpdate := now },
    clamp64 (priceOfByte demand p.minPrice p.inertia * bytes.toNat))

/-- A pricer that was never written reads as the defaults. -/
def orDefault (p : Pricer) : Pricer := if p.inertia = 0 ∧ p.minPrice = 0 then {} else p

end Pricer
end Inkwell
