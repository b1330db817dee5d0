import Inkwell.Clamp
import Inkwell.Octets
set_option autoImplicit false

/-! The settings that a chain runs programs under. -/

namespace Inkwell

inductive Fork where
  | cancun
  | prague
  | osaka
  deriving DecidableEq, Repr

structure ChainConfig where
  chainId : UInt64 := 1
  checksChainId : Bool := true
  fork : Fork := .prague
  codeSize : Option Nat := none
  initCodeSize : Option Nat := none
  gasCap : Option Nat := none
  maxBlobs : Option Nat := none
  checksNonce : Bool := true
  /-- Refuses to create code that starts with the byte reserved for formats. -/
  refusesReservedCode : Bool := true
  deriving DecidableEq, Repr

namespace ChainConfig

def maxCodeSize (c : ChainConfig) : Nat := c.codeSize.getD 24576

def maxInitCodeSize (c : ChainConfig) : Nat :=
  c.initCodeSize.getD (match c.codeSize with
    | some n => clamp64 (2 * n)
    | none => 49152)

def transactionGasCap (c : ChainConfig) : Nat :=
  c.gasCap.getD (if c.fork = .osaka then 16777216 else max64)

def memoryLimit (_ : ChainConfig) : Nat := max64

end ChainConfig

structure Config where
  chainVersion : UInt16 := 32
  debug : Bool := false
  /-- Keeps what calls compile. -/
  autoCache : Bool := true
  /-- Activates programs on their first call. -/
  autoActivate : Bool := true
  /-- Creates programs in place of the caller, so that addresses do not depend on who deploys. -/
  deployer : Option Address := none
  cacheCapacity : Nat := 1024
  chain : ChainConfig := {}
  deriving DecidableEq, Repr

namespace Config

/-- Output of programs is charged from this version on. -/
def chargesOutput (c : Config) : Bool := 31 ≤ c.chainVersion

/-- Least starting costs can be asked for from this version on. -/
def tellsMinInitGas (c : Config) : Bool := 32 ≤ c.chainVersion

end Config
end Inkwell
