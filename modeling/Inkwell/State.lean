import Inkwell.Record
import Inkwell.State.AddressSet
import Inkwell.State.Layout
import Inkwell.StateParams
set_option autoImplicit false

/-! The state of programs: parameters, the price of data, who manages the cache, who receives fees,
and for each code hash its record and the hash of its module. -/

namespace Inkwell.State

open Access

def feeAccount : Access Address := loadAddress Layout.feeAccount

def setFeeAccount (a : Address) : Access Unit := storeAddress Layout.feeAccount a

/-- Both words cost together what a single one does that was read before. -/
def params : Access Params := do
  pay Gas.readParams
  free do
    let p := Params.ofWord (← load Layout.paramsWord)
    let ramp ← loadNat 64 Layout.pageRamp
    pure (if ramp = 0 then p else { p with pageRamp := UInt64.ofNat ramp })

def setParams (p : Params) : Access Unit := do
  store Layout.paramsWord p.toWord
  storeNat Layout.pageRamp p.pageRamp.toNat

def pricer : Access Pricer := do
  let demand ← loadNat 32 Layout.demand
  let bytesPerSecond ← loadNat 32 Layout.bytesPerSecond
  let lastUpdate ← loadNat 64 Layout.lastUpdate
  let minPrice ← loadNat 32 Layout.minPrice
  let inertia ← loadNat 32 Layout.inertia
  let p : Pricer := {
    demand := UInt32.ofNat demand
    bytesPerSecond := UInt32.ofNat bytesPerSecond
    lastUpdate := UInt64.ofNat lastUpdate
    minPrice := UInt32.ofNat minPrice
    inertia := UInt32.ofNat inertia }
  pure p.orDefault

def setPricer (p : Pricer) : Access Unit := do
  storeNat Layout.demand p.demand.toNat
  storeNat Layout.bytesPerSecond p.bytesPerSecond.toNat
  storeNat Layout.lastUpdate p.lastUpdate.toNat
  storeNat Layout.minPrice p.minPrice.toNat
  storeNat Layout.inertia p.inertia.toNat

def priceData (bytes : UInt32) (now : Nat) : Access Nat := do
  let (p, fee) := (← pricer).update bytes (UInt64.ofNat now)
  setPricer p
  pure fee

def managers : AddressSet := ⟨Layout.managers⟩

def moduleHash (codeHash : Word) : Access Word := load (Layout.moduleHash codeHash)

def setModuleHash (codeHash module : Word) : Access Unit :=
  store (Layout.moduleHash codeHash) module

/-- None if the code was never activated. -/
def record? (codeHash : Word) : Access (Option Record) := do
  let data ← load (Layout.recordData codeHash)
  if data = 0 then return none
  let lifetime ← load (Layout.recordLifetime codeHash)
  let fee ← load (Layout.recordFee codeHash)
  pure (some (Record.ofWords data lifetime fee))

def setRecord (codeHash : Word) (r : Record) : Access Unit := do
  store (Layout.recordData codeHash) r.dataWord
  store (Layout.recordLifetime codeHash) r.lifetimeWord
  store (Layout.recordFee codeHash) r.dataFee

def activeRecord (p : Params) (now : Nat) (codeHash : Word) : Access Record := do
  match ← record? codeHash with
  | none => throw .notActivated
  | some r =>
    if r.version = 0 then throw .notActivated
    if r.version ≠ p.version then throw (.needsUpgrade r.version p.version)
    if r.isExpired now then throw (.expired (r.age now))
    pure r

def install (s : StateParams) : Access Unit := do
  setFeeAccount s.feeAccount
  setParams s.params
  setPricer s.pricer
  s.managers.forM managers.add

def summary : Access StateParams := do
  pure {
    feeAccount := ← feeAccount
    params := ← params
    pricer := ← pricer
    managers := ← managers.all }

end Inkwell.State
