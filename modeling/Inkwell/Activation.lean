import Inkwell.World
set_option autoImplicit false

/-! Entering programs into the state, and keeping them there. -/

namespace Inkwell

structure Activation where
  version : UInt16
  fee : Word
  moduleHash : Word
  record : Record
  artifact : Artifact
  deriving DecidableEq, Repr

structure Keepalive where
  expiresAt : UInt64
  fee : Word
  deriving DecidableEq, Repr

namespace Record

def ofArtifact (a : Artifact) (p : Params) (b : Block) (pinned : Bool) (fee : Word) : Record where
  version := p.version
  initCost := a.estimate.initCost
  cachedCost := a.estimate.cachedInitCost
  footprint := a.estimate.footprint
  asmKb := UInt32.ofNat a.estimate.asmKb
  pinned := pinned
  activatedAt := UInt64.ofNat b.time
  activationBlock := UInt64.ofNat b.height
  expiresAt := UInt64.ofNat (deadline b.time p.expiryDays)
  keepaliveUntil := 0
  dataFee := fee

def keptAlive (r : Record) (p : Params) (now : Nat) (fee : Word) : Record :=
  { r with
    expiresAt := UInt64.ofNat (r.extended now p.keepaliveDays)
    keepaliveUntil := UInt64.ofNat (deadline now p.keepaliveDays)
    dataFee := BitVec.ofNat 256 (min (r.dataFee.toNat + fee.toNat) (2 ^ 256 - 1)) }

end Record

namespace World

/-- Compiles a module and enters it as the program of a code hash. Whose fee it is remains to be
settled. -/
def activate (codeHash : Word) (wasm : Octets) (pinned : Bool) : WorldM Activation := do
  let params ← onState false State.params
  let w ← get
  let artifact := (← load wasm (w.settings params) w.config.autoCache).artifact
  onState false do
    State.setModuleHash codeHash artifact.moduleHash
    let fee := BitVec.ofNat 256 (← State.priceData artifact.estimate.asmSize w.now)
    let record := Record.ofArtifact artifact params w.block pinned fee
    State.setRecord codeHash record
    pure ⟨record.version, fee, artifact.moduleHash, record, artifact⟩

def chargeFee (payer : Address) (fee : Word) : WorldM Unit := do
  if fee = 0 then return
  let h ← onLedger (Ledger.hold payer)
  if h.balance < fee then throw (.insufficientFunds h.balance fee)
  let receiver ← onState false State.feeAccount
  match ← onLedger (Ledger.transfer payer receiver fee) with
  | some e => throw (.context e.name)
  | none => pure ()

def activateAndCharge (codeHash : Word) (wasm : Octets) (pinned : Bool) (payer : Address) :
    WorldM Activation :=
  atomically do
    let a ← activate codeHash wasm pinned
    chargeFee payer a.fee
    pure a

def inactive : ProgramError → ProgramError
  | .notActivated | .expired _ => .notActive
  | e => e

def keepalive (codeHash : Word) : WorldM Keepalive := do
  let now := (← get).now
  onState false do
    let params ← State.params
    let record ← tryCatch (State.activeRecord params now codeHash) fun e => throw (inactive e)
    let fee := BitVec.ofNat 256 (← State.priceData (UInt32.ofNat record.asmSize) now)
    let record := record.keptAlive params now fee
    State.setRecord codeHash record
    pure ⟨record.expiresAt, fee⟩

end World
end Inkwell
