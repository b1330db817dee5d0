import Inkwell.Clamp
import Inkwell.Fields
set_option autoImplicit false

/-! What is kept about an activated program, and how long its activation lasts. -/

namespace Inkwell

structure Record where
  version : UInt16 := 0
  initCost : UInt16 := 0
  cachedCost : UInt16 := 0
  footprint : UInt16 := 0
  asmKb : UInt32 := 0
  /-- Set by cache managers: calls always pay the cached price. -/
  pinned : Bool := false
  activatedAt : UInt64 := 0
  activationBlock : UInt64 := 0
  expiresAt : UInt64 := 0
  keepaliveUntil : UInt64 := 0
  dataFee : Word := 0
  deriving DecidableEq, Repr

def secondsPerDay : Nat := 86400

namespace Record

def dataWord (r : Record) : Word := Word.pack
  [(2, r.version.toNat), (2, r.initCost.toNat), (2, r.cachedCost.toNat), (2, r.footprint.toNat),
   (3, min r.asmKb.toNat 0xffffff), (1, r.pinned.toNat)]

def lifetimeWord (r : Record) : Word := Word.pack
  [(8, r.activatedAt.toNat), (8, r.activationBlock.toNat), (8, r.expiresAt.toNat),
   (8, r.keepaliveUntil.toNat)]

def ofWords (data lifetime fee : Word) : Record where
  version := UInt16.ofNat (data.field 0 2)
  initCost := UInt16.ofNat (data.field 2 2)
  cachedCost := UInt16.ofNat (data.field 4 2)
  footprint := UInt16.ofNat (data.field 6 2)
  asmKb := UInt32.ofNat (data.field 8 3)
  pinned := data.field 11 1 ≠ 0
  activatedAt := UInt64.ofNat (lifetime.field 0 8)
  activationBlock := UInt64.ofNat (lifetime.field 8 8)
  expiresAt := UInt64.ofNat (lifetime.field 16 8)
  keepaliveUntil := UInt64.ofNat (lifetime.field 24 8)
  dataFee := fee

def asmSize (r : Record) : Nat := min (r.asmKb.toNat * 1024) (2 ^ 32 - 1)

/-- A record lives through its last second. -/
def isExpired (r : Record) (now : Nat) : Bool := r.expiresAt.toNat < now

def age (r : Record) (now : Nat) : Nat := now - r.activatedAt.toNat

def timeLeft (r : Record) (now : Nat) : Nat := r.expiresAt.toNat - now

def deadline (now : Nat) (days : UInt16) : Nat := clamp64 (now + days.toNat * secondsPerDay)

/-- The deadline after a keepalive, never before the current one. -/
def extended (r : Record) (now : Nat) (days : UInt16) : Nat :=
  max r.expiresAt.toNat (deadline now days)

end Record
end Inkwell
