import Inkwell.SystemContract
set_option autoImplicit false

/-! The contract that activates programs, keeps them alive, and tells about them. -/

namespace Inkwell.SystemContract.Programs

def activationGas : Nat := 1659168

def activated (c : Call) (program : Address) (codeHash : Word) (a : Activation) : Log where
  address := c.target
  topics := [Abi.topicOf "ProgramActivated(bytes32,bytes32,address,uint256,uint16)", codeHash]
  data := Abi.words [a.moduleHash, program.toWord, a.fee, Abi.number a.version.toNat]

def lifetimeExtended (c : Call) (codeHash fee : Word) : Log where
  address := c.target
  topics := [Abi.topicOf "ProgramLifetimeExtended(bytes32,uint256)", codeHash]
  data := Abi.words [fee]

def activation (version : UInt16) (fee : Word) : Octets := Abi.words [Abi.number version.toNat, fee]

/-- A program that is active already costs nothing. -/
def activateProgram (c : Call) (args : Octets) : MethodM Octets := do
  let program ← addressArgument args
  let params ← onState c State.params
  pay activationGas
  let codeHash ← onWorld (World.onLedger (Ledger.codeHash program))
  let existing ← onState c (State.record? codeHash)
  let now := (← get).world.now
  match existing.filter fun r => r.version = params.version && !r.isExpired now with
  | some r =>
    payOut c c.caller c.value
    return activation r.version r.dataFee
  | none =>
    let wasm ← moduleAt program params
    let a ← onWorld (World.activate codeHash wasm ((existing.map Record.pinned).getD false))
    settleFee c a.fee
    emit (activated c program codeHash a)
    return activation a.version a.fee

def codehashKeepalive (c : Call) (args : Octets) : MethodM Octets := do
  let codeHash ← argument args
  let k ← onWorld (World.keepalive codeHash)
  settleFee c k.fee
  emit (lifetimeExtended c codeHash k.fee)
  return []

def ofCodeHash (answer : Record → List Nat) (c : Call) (args : Octets) : MethodM Octets := do
  let codeHash ← argument args
  let now := (← get).world.now
  let r ← onState c do State.activeRecord (← State.params) now codeHash
  return Abi.words ((answer r).map Abi.number)

def ofProgram (answer : Nat → Params → Record → List Nat) (c : Call) (args : Octets) :
    MethodM Octets := do
  let program ← addressArgument args
  let now := (← get).world.now
  let (p, r) ← onState c do
    let p ← State.params
    let codeHash ← Access.codeHash program
    let r ← State.activeRecord p now codeHash
    pure (p, r)
  return Abi.words ((answer now p r).map Abi.number)

def ofParams (answer : Params → List Nat) (c : Call) (_ : Octets) : MethodM Octets := do
  return Abi.words ((answer (← onState c State.params)).map Abi.number)

def minInitGas (c : Call) (_ : Octets) : MethodM Octets := do
  let p ← onState c State.params
  if !(← get).world.config.tellsMinInitGas then throw (.reverted [])
  return Abi.words [Abi.number (p.minInitGas.toNat * 128), Abi.number (p.minCachedInitGas.toNat * 32)]

def methods : List Method := [
  ⟨"activateProgram(address)", .payable, activateProgram⟩,
  ⟨"stylusVersion()", .view, ofParams fun p => [p.version.toNat]⟩,
  ⟨"codehashVersion(bytes32)", .view, ofCodeHash fun r => [r.version.toNat]⟩,
  ⟨"codehashKeepalive(bytes32)", .payable, codehashKeepalive⟩,
  ⟨"codehashAsmSize(bytes32)", .view, ofCodeHash fun r => [r.asmSize]⟩,
  ⟨"programVersion(address)", .view, ofProgram fun _ _ r => [r.version.toNat]⟩,
  ⟨"programInitGas(address)", .view,
    ofProgram fun _ p r => [p.initGas r.initCost, p.cachedInitGas r.cachedCost]⟩,
  ⟨"programMemoryFootprint(address)", .view, ofProgram fun _ _ r => [r.footprint.toNat]⟩,
  ⟨"programTimeLeft(address)", .view, ofProgram fun now _ r => [r.timeLeft now]⟩,
  ⟨"inkPrice()", .view, ofParams fun p => [p.inkPrice.toNat]⟩,
  ⟨"maxStackDepth()", .view, ofParams fun p => [p.maxStackDepth.toNat]⟩,
  ⟨"freePages()", .view, ofParams fun p => [p.freePages.toNat]⟩,
  ⟨"pageGas()", .view, ofParams fun p => [p.pageGas.toNat]⟩,
  ⟨"pageRamp()", .view, ofParams fun p => [p.pageRamp.toNat]⟩,
  ⟨"pageLimit()", .view, ofParams fun p => [p.pageLimit.toNat]⟩,
  ⟨"minInitGas()", .view, minInitGas⟩,
  ⟨"initCostScalar()", .view, ofParams fun p => [p.initCostScalar.toNat * 2]⟩,
  ⟨"expiryDays()", .view, ofParams fun p => [p.expiryDays.toNat]⟩,
  ⟨"keepaliveDays()", .view, ofParams fun p => [p.keepaliveDays.toNat]⟩,
  ⟨"blockCacheSize()", .view, ofParams fun p => [p.blockCacheSize.toNat]⟩]

end Inkwell.SystemContract.Programs
