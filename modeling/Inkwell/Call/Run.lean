import Inkwell.Activation
import Inkwell.Call
import Inkwell.CallResult
set_option autoImplicit false

/-! Calls of programs: finding the record, activating on the first call, charging for the start,
running, and settling what is left. -/

namespace Inkwell

namespace Ending

def verdict : Ending → Verdict
  | .success => .returned
  | .revert | .failure => .reverted
  | .outOfInk => .outOfGas
  | .outOfStack => .stackOverflow
  | .outOfMemory => .memoryOutOfGas

def consumesAll (e : Ending) : Bool := e = .outOfInk || e = .outOfStack

end Ending

/-- The end of a call whose program left so much gas: its output has to fit the gas limit too. -/
def CallResult.settle (charges : Bool) (limit left : Nat) (o : Outcome) : CallResult :=
  let left := if o.ending.consumesAll then 0 else left
  if charges && !o.output.isEmpty then
    let cost := outputGas o.output.length
    if limit < cost then .halt .outOfGas limit
    else ⟨o.ending.verdict, o.output, limit, min left (limit - cost)⟩
  else ⟨o.ending.verdict, o.output, limit, left⟩

abbrev CallM := ExceptT CallResult (StateM World)

namespace Call

/-- Ends a call that cannot be served, with all of its gas spent. -/
def refusal (gas : Nat) (e : ProgramError) : CallResult := .halt .reverted gas e.octets

def unavailable (gas : Nat) : ProgramError → CallResult
  | .notActivated => .halt .outOfGas gas ProgramError.notActivated.octets
  | e => refusal gas e

/-- Errors that an activation remedies. -/
def remediable : ProgramError → Bool
  | .notActivated | .expired _ | .needsUpgrade _ _ => true
  | _ => false

/-- The record that a call runs under, and the artifact if this call activated the program. -/
def findRecord (c : Call) (p : Params) (codeHash : Word) (wasm : Octets) :
    CallM (Record × Option Artifact) := do
  let w ← get
  match ← (World.onState true (State.activeRecord p w.now codeHash)).run with
  | .ok r => pure (r, none)
  | .error e =>
    let previous ← (World.onState true (State.record? codeHash)).adapt ProgramError.result
    if !remediable e || c.frozen || !w.config.autoActivate then throw (unavailable c.gas e)
    let pinned := (previous.map Record.pinned).getD false
    let a ← (World.activateAndCharge codeHash wasm pinned c.caller).adapt (refusal c.gas)
    pure (a.record, some a.artifact)

def environment (w : World) (c : Call) : Environment where
  target := c.target
  caller := c.caller
  value := c.value
  input := c.input
  frozen := c.frozen
  blockNumber := w.block.height
  timestamp := w.block.time
  chainVersion := w.config.chainVersion
  debug := w.config.debug

/-- Sells ink for the gas that is left, runs the program, and closes its pages. -/
def runProgram (runner : Runner) (c : Call) (p : Params) (r : Record) (a : Artifact) (left : Nat) :
    CallM CallResult := do
  let w ← get
  let before := w.transaction
  let t := before.addPages r.footprint.toNat
  let ink := InkPrice.toInk ⟨p.inkPrice.toNat⟩ left
  let meter := Meter.start p ink t.pagesOpen (max before.pagesEver t.pagesOpen)
  let env := environment w c
  let (outcome, meter') := runner a env meter
  set { w with
    transaction := (t.setPages meter'.pagesEver).setPages before.pagesOpen
    starts := ⟨a, env, meter⟩ :: w.starts }
  pure (.settle w.config.chargesOutput c.gas meter'.gasLeft outcome)

/-- Uses a module in the caches, and tells whether it is priced as cached. -/
def touchModule (p : Params) (module : Word) : CallM Bool := do
  let w ← get
  let (recent, cache) := w.cache.touchRecent w.block.height module p.blockCacheSize.toNat
  set { w with cache }
  pure (w.cache.contains module || recent)

/-- The price is that of the caches before the call. -/
def execute (runner : Runner) (c : Call) (p : Params) (codeHash : Word) (wasm : Octets) :
    CallM CallResult := do
  let warm ← touchModule p (keccak wasm)
  let (record, activated) ← findRecord c p codeHash wasm
  let artifact ← match activated with
    | some a => pure a
    | none => do
      let w ← get
      let l ← (World.load wasm (w.settings p) w.config.autoCache).adapt (refusal c.gas)
      pure l.artifact
  let t := (← get).transaction
  let entry : Entry := {
    footprint := record.footprint, initCost := record.initCost, cachedCost := record.cachedCost
    pagesOpen := t.pagesOpen, pagesEver := t.pagesEver, cached := record.pinned || warm }
  let cost := entry.gas p
  if c.gas < cost then throw (.halt .outOfGas c.gas)
  runProgram runner c p record artifact (c.gas - cost)

/-- The result, whether or not the call ended early. -/
def finish (m : CallM CallResult) : StateM World CallResult := do
  match ← m.run with
  | .ok r | .error r => pure r

/-- Runs something, and undoes its changes unless it returns. -/
def keepIfReturned (m : StateM World CallResult) : StateM World CallResult := do
  let c := (← get).ledger.checkpoint
  let r ← m
  if !r.succeeded then modify (World.revert c)
  pure r

/-- Calls the program in an account; none if there is no program. -/
def run (runner : Runner) (c : Call) : StateM World (Option CallResult) := do
  modify fun w => { w with cache := w.cache.startBlock w.block.height }
  match ← (World.onLedger (Ledger.holdCode c.codeAt)).run with
  | .error _ => pure none
  | .ok code =>
    match ← (World.onState true State.params).run with
    | .error e => pure (some e.result)
    | .ok p =>
      match Package.module? p.maxWasmSize.toNat code with
      | .ok none => pure none
      | .error e => pure (some (refusal c.gas (.package e)))
      | .ok (some wasm) =>
        some <$> keepIfReturned (finish (execute runner c p (keccak code) wasm))

end Call
end Inkwell
