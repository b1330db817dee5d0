import Inkwell.SystemContract
set_option autoImplicit false

/-! The contract through which cache managers pin programs to the cached price. -/

namespace Inkwell.SystemContract.Pinning

def cacheUpdated (c : Call) (codeHash : Word) (pinned : Bool) : Log where
  address := c.target
  topics := [Abi.topicOf "UpdateProgramCache(address,bytes32,bool)", c.caller.toWord, codeHash]
  data := Abi.words [Abi.flag pinned]

def requireManager (c : Call) : MethodM Unit := do
  if !(← onState c (State.managers.contains c.caller)) then throw (.ofError .notManager)

def isCacheManager (c : Call) (args : Octets) : MethodM Octets := do
  let manager ← addressArgument args
  return Abi.words [Abi.flag (← onState c (State.managers.contains manager))]

def allCacheManagers (c : Call) (_ : Octets) : MethodM Octets := do
  return Abi.wordList ((← onState c State.managers.all).map Address.toWord)

/-- The module is compiled and kept even when calls keep nothing. -/
def cacheProgram (c : Call) (args : Octets) : MethodM Octets := do
  let program ← addressArgument args
  requireManager c
  let params ← onState c State.params
  let codeHash ← onState c (Access.codeHash program)
  let now := (← get).world.now
  let r ← onState c (State.activeRecord params now codeHash)
  if r.pinned then return []
  emit (cacheUpdated c codeHash true)
  pay r.initCost.toNat
  let wasm ← moduleAt program params
  let _ ← onWorld do World.load wasm ((← get).settings params) true
  onState c (State.setRecord codeHash { r with pinned := true })
  return []

def evictCodehash (c : Call) (args : Octets) : MethodM Octets := do
  let codeHash ← argument args
  requireManager c
  match (← onState c (State.record? codeHash)).filter (·.pinned) with
  | none => return []
  | some r =>
    emit (cacheUpdated c codeHash false)
    pay r.initCost.toNat
    let module ← onState c (State.moduleHash codeHash)
    onState c (State.setRecord codeHash { r with pinned := false })
    modify fun f => { f with world := { f.world with cache := (f.world.cache.evict module).2 } }
    return []

def codehashIsCached (c : Call) (args : Octets) : MethodM Octets := do
  let codeHash ← argument args
  let r ← onState c (State.record? codeHash)
  return Abi.words [Abi.flag ((r.map Record.pinned).getD false)]

def methods : List Method := [
  ⟨"isCacheManager(address)", .view, isCacheManager⟩,
  ⟨"allCacheManagers()", .view, allCacheManagers⟩,
  ⟨"cacheProgram(address)", .nonpayable, cacheProgram⟩,
  ⟨"evictCodehash(bytes32)", .nonpayable, evictCodehash⟩,
  ⟨"codehashIsCached(bytes32)", .view, codehashIsCached⟩]

end Inkwell.SystemContract.Pinning
