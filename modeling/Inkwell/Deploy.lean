import Inkwell.Call.Run
import Inkwell.Deploy.InitCode
import Inkwell.Deploy.NewAddress
import Inkwell.Normalize
set_option autoImplicit false

/-! Installing programs. The code is written directly, as a creation with its init code would leave
it. -/

namespace Inkwell

inductive BuildKind where
  | module
  | package
  deriving DecidableEq, Repr

structure Build where
  kind : BuildKind
  octets : Octets
  deriving DecidableEq, Repr

inductive DeployError where
  | unsupportedPath (path : String)
  | unreadable (path : String)
  | normalize (e : NormalizeError)
  | noMark
  | codeTooLarge (size limit : Nat)
  | addressInUse (a : Address)
  | constructorFailed (verdict : Verdict) (output : Octets)
  | state (e : ProgramError)
  deriving DecidableEq, Repr

def NormalizeError.message : NormalizeError → String
  | .invalid => "invalid module"
  | .component => "not a module but a component"

def DeployError.message : DeployError → String
  | .unsupportedPath path => "unsupported artifact " ++ path ++ ", expected .wasm or .wasm.br"
  | .unreadable path => "cannot read " ++ path
  | .normalize e => "failed to normalize module: " ++ e.message
  | .noMark => "compressed artifact does not start with the Stylus discriminant"
  | .codeTooLarge size limit => s!"program code is {size} bytes, limit is {limit}"
  | .addressInUse a => "account " ++ a.checksummed ++ " already has code or a nonce"
  | .constructorFailed v _ => "constructor failed with " ++ v.name
  | .state e => e.message

namespace Build

/-- The last name in a path; empty if the path ends by going up. -/
def fileName (path : String) : String :=
  let names := (path.splitOn "/").filter fun s => s ≠ "" ∧ s ≠ "."
  match names.getLast? with
  | some ".." | none => ""
  | some name => name

def kindOfPath? (path : String) : Option BuildKind :=
  let name := fileName path
  if name.endsWith ".wasm.br" then some .package
  else if name.endsWith ".wasm" then some .module
  else none

/-- A build from a file; there are no contents if it cannot be read. -/
def ofFile (path : String) (contents : Option Octets) : Except DeployError Build :=
  match kindOfPath? path, contents with
  | none, _ => .error (.unsupportedPath path)
  | some _, none => .error (.unreadable path)
  | some kind, some octets => .ok ⟨kind, octets⟩

def code (b : Build) : Except DeployError Octets :=
  match b.kind with
  | .module =>
    match normalize b.octets with
    | .ok wasm => .ok (Package.pack wasm)
    | .error e => .error (.normalize e)
  | .package => if Package.isProgram b.octets then .ok b.octets else .error .noMark

end Build

def InitCode.ofCode (code : Octets) : Except DeployError Octets :=
  match InitCode.ofCode? code with
  | some init => .ok init
  | none => .error (.codeTooLarge code.length InitCode.maxLength)

def Build.initCode (b : Build) : Except DeployError Octets := do InitCode.ofCode (← b.code)

structure DeployRequest where
  build : Build
  caller : Address
  /-- Given, even as nothing, they make the constructor run. -/
  constructorArgs : Option Octets := none
  value : Word := 0
  salt : Option Word := none
  gas : Nat := 30000000
  deriving DecidableEq, Repr

namespace Deploy

abbrev DeployM := ExceptT DeployError (StateM World)

def constructorSelector : Octets := Abi.selectorOf "stylus_constructor()"

def onLedger {α : Type} (m : LedgerM α) : DeployM α := (World.onLedger m).adapt .state

def orFail {α : Type} : Except DeployError α → DeployM α
  | .ok a => pure a
  | .error e => throw e

def creator (w : World) (r : DeployRequest) : Address := w.config.deployer.getD r.caller

def newAddress (r : DeployRequest) (creator : Address) (init : Octets) : DeployM Address := do
  match r.salt with
  | some salt => pure (creator.createdWithSalt salt (keccak init))
  | none =>
    let h ← onLedger (Ledger.hold creator)
    pure (creator.created h.nonce)

def construct (runner : Runner) (r : DeployRequest) (address : Address) : DeployM Unit := do
  match ← onLedger (Ledger.transfer r.caller address r.value) with
  | some e => throw (.constructorFailed e.verdict [])
  | none =>
    let c : Call := {
      target := address, codeAt := address, caller := r.caller, value := r.value
      input := constructorSelector ++ r.constructorArgs.getD [], gas := r.gas }
    match ← (c.run runner : StateM World _) with
    | none => throw (.constructorFailed .reverted [])
    | some result => if !result.succeeded then throw (.constructorFailed result.verdict result.output)

def install (runner : Runner) (r : DeployRequest) (creator address : Address) (code : Octets) :
    DeployM Unit := do
  onLedger (Ledger.bumpNonce creator)
  onLedger (Ledger.setCode address code)
  onLedger (Ledger.bumpNonce address)
  if r.constructorArgs.isSome ∨ r.value ≠ 0 then construct runner r address

end Deploy

/-- Installs a program, and runs its constructor when arguments or value are given. Nothing is
changed if that fails. -/
def deploy (runner : Runner) (r : DeployRequest) : Deploy.DeployM Address := do
  let code ← Deploy.orFail r.build.code
  let init ← Deploy.orFail (InitCode.ofCode code)
  let w ← get
  let limit := w.config.chain.maxCodeSize
  if limit < code.length then throw (.codeTooLarge code.length limit)
  let creator := Deploy.creator w r
  let address ← Deploy.newAddress r creator init
  let target ← Deploy.onLedger (Ledger.hold address)
  if target.nonce ≠ 0 ∨ target.code ≠ [] then throw (.addressInUse address)
  World.atomically (Deploy.install runner r creator address code)
  pure address

end Inkwell
