import Inkwell.Activation
import Inkwell.Call
import Inkwell.CallResult
set_option autoImplicit false

/-! Contracts that are part of the chain. A method is found by its selector, pays for what it reads,
writes, logs and answers, and changes nothing unless it returns. -/

namespace Inkwell

namespace Gas

def perWord : Nat := 3

def words (size : Nat) : Nat := perWord * ceilDiv size 32

def log (g : Log) : Nat := 375 + 375 * g.topics.length + 8 * g.data.length

end Gas

namespace SystemContract

inductive Mutability where
  | pure
  | view
  | nonpayable
  | payable
  deriving DecidableEq, Repr

inductive Stop where
  | outOfGas
  | readOnly
  | reverted (output : Octets)
  | unpaid (e : TransferError)
  deriving DecidableEq, Repr

def Stop.ofError : ProgramError → Stop
  | .outOfGas => .outOfGas
  | .readOnly => .readOnly
  | e => .reverted e.octets

def Stop.ofText (s : String) : Stop := .reverted (Octets.ofText s)

structure Frame where
  world : World
  gas : Nat

abbrev MethodM := ExceptT Stop (StateM Frame)

structure Method where
  signature : String
  mutability : Mutability
  run : Call → Octets → MethodM Octets

def Method.selector (m : Method) : Octets := Abi.selectorOf m.signature

def pay (cost : Nat) : MethodM Unit := do
  let f ← get
  if f.gas < cost then throw .outOfGas
  set { f with gas := f.gas - cost }

def onWorld {α : Type} (m : WorldM α) : MethodM α := do
  let f ← get
  let (r, world) := m.run.run f.world
  set { f with world }
  MonadExcept.ofExcept (r.mapError Stop.ofError)

/-- Works on the accounts; faults are told as they are. -/
def onLedger {α : Type} (m : LedgerM α) : MethodM α := do
  let f ← get
  let (r, ledger) := m.run.run f.world.ledger
  set { f with world := { f.world with ledger } }
  MonadExcept.ofExcept (r.mapError fun e => Stop.ofText e.message)

/-- Fetches the account of the state. Where it cannot be had all gas is spent, and none is left to pay
for what would be read or written next. -/
def holdState : MethodM Unit := do
  try
    let _ ← onLedger (Ledger.hold stateAccount)
  catch _ =>
    modify fun f => { f with gas := 0 }
    throw .outOfGas

/-- Works on the state, once its account is held, at the expense of the method. -/
def onHeldState {α : Type} (c : Call) (m : Access α) : MethodM α := do
  let f ← get
  let (r, d) := m.run.run ⟨f.world.ledger, some f.gas, c.frozen⟩
  set ({ world := { f.world with ledger := d.ledger }, gas := d.gas.getD 0 } : Frame)
  MonadExcept.ofExcept (r.mapError Stop.ofError)

def onState {α : Type} (c : Call) (m : Access α) : MethodM α := do
  holdState
  onHeldState c m

def payOut (c : Call) (dest : Address) (value : Word) : MethodM Unit := do
  match ← onLedger (Ledger.transfer c.target dest value) with
  | some e => throw (.unpaid e)
  | none => Pure.pure ()

def emit (g : Log) : MethodM Unit := do
  pay (Gas.log g)
  modify fun f => { f with world := { f.world with ledger := f.world.ledger.addLog g } }

def argument (args : Octets) : MethodM Word :=
  match Abi.firstWord? args with
  | some w => Pure.pure w
  | none => throw (.ofText "Invalid calldata")

def addressArgument (args : Octets) : MethodM Address := return Address.ofWord (← argument args)

/-- Settles a fee out of the value of the call, and hands the rest back. -/
def settleFee (c : Call) (fee : Word) : MethodM Unit := do
  if c.value < fee then throw (.ofError (.insufficientFunds c.value fee))
  let receiver ← onState c State.feeAccount
  payOut c receiver fee
  payOut c c.caller (c.value - fee)

def moduleAt (program : Address) (p : Params) : MethodM Octets := do
  let code ← onLedger (Ledger.holdCode program)
  match Package.module? p.maxWasmSize.toNat code with
  | .ok (some wasm) => Pure.pure wasm
  | .ok none => throw (.ofError .notProgram)
  | .error e => throw (.ofError (.package e))

/-- Finds a method and runs it. What no method answers to has no answer. -/
def dispatch (methods : List Method) (c : Call) : MethodM Octets := do
  let args := c.input.drop 4
  pay (Gas.words args.length)
  match methods.find? (·.selector = c.input.take 4) with
  | none => Pure.pure []
  | some m =>
    if m.mutability ≠ .pure then pay Gas.read
    if c.frozen ∧ (m.mutability = .nonpayable ∨ m.mutability = .payable) then throw .readOnly
    if m.mutability ≠ .payable ∧ c.value ≠ 0 then throw (.reverted [])
    m.run c args

def outOfGas (limit : Nat) : CallResult := .halt .outOfGas limit (Octets.ofText "out of gas")

def result (limit gas : Nat) : Except Stop Octets → CallResult
  | .ok output => ⟨.returned, output, limit, gas⟩
  | .error .outOfGas => outOfGas limit
  | .error .readOnly => .halt .readOnly limit
  | .error (.reverted output) => ⟨.reverted, output, limit, gas⟩
  | .error (.unpaid e) => ⟨e.verdict, [], limit, gas⟩

def chargeOutput (r : CallResult) : CallResult :=
  let cost := Gas.words r.output.length
  if r.gasLeft < cost then outOfGas r.gasLimit else { r with gasLeft := r.gasLeft - cost }

/-- Input without a selector returns, and takes all gas. -/
def invoke (methods : List Method) (c : Call) : StateM World CallResult := do
  if c.input.length < 4 then return .halt .returned c.gas (Octets.ofText "Input too short")
  let (r, f) := (dispatch methods c).run.run ⟨← get, c.gas⟩
  set f.world
  return chargeOutput (result c.gas f.gas r)

end SystemContract
end Inkwell
