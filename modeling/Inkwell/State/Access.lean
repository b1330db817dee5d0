import Inkwell.Clamp
import Inkwell.Ledger
import Inkwell.ProgramError
set_option autoImplicit false

/-! Reading and writing the account that keeps the state of programs, at the expense of a frame or
of nobody. -/

namespace Inkwell

/-- The account whose storage is the state of programs. -/
def stateAccount : Address := 0xA4B05FFFFFFFFFFFFFFFFFFFFFFFFFFFFFFFFFFF#160

namespace Gas

def read : Nat := 800
def readParams : Nat := 100
def readCodeHash : Nat := 2600
def write : Nat := 20000
def clear : Nat := 5000

def store (w : Word) : Nat := if w = 0 then clear else write

end Gas

/-- Where reads and writes are made from. -/
structure Desk where
  ledger : Ledger
  /-- What is left to pay with; none if everything is free. -/
  gas : Option Nat := none
  frozen : Bool := false

abbrev Access := ExceptT ProgramError (StateM Desk)

namespace Access

def pay (cost : Nat) : Access Unit := do
  match (← get).gas with
  | none => pure ()
  | some left =>
    if left < cost then throw .outOfGas
    modify fun d => { d with gas := some (left - cost) }

def onLedger {α : Type} (m : LedgerM α) : Access α := do
  let d ← get
  let (r, ledger) := m.run.run d.ledger
  set { d with ledger }
  MonadExcept.ofExcept (r.mapError fun f => ProgramError.context f.message)

def free {α : Type} (m : Access α) : Access α := do
  let d ← get
  let (r, e) := m.run.run { d with gas := none }
  set { e with gas := d.gas }
  MonadExcept.ofExcept r

def load (slot : Word) : Access Word := do
  pay Gas.read
  onLedger do
    let _ ← Ledger.hold stateAccount
    Ledger.read (stateAccount, slot)

def store (slot w : Word) : Access Unit := do
  if (← get).frozen then throw .readOnly
  pay (Gas.store w)
  onLedger do
    let _ ← Ledger.hold stateAccount
    Ledger.write (stateAccount, slot) w
    modify (Ledger.touch stateAccount)

/-- Words that exceed a narrower number read as the largest one. -/
def loadNat (bits : Nat) (slot : Word) : Access Nat := do
  pure (min (← load slot).toNat (2 ^ bits - 1))

def storeNat (slot : Word) (n : Nat) : Access Unit := store slot (BitVec.ofNat 256 n)

def loadAddress (slot : Word) : Access Address := return Address.ofWord (← load slot)

def storeAddress (slot : Word) (a : Address) : Access Unit := store slot a.toWord

def codeHash (a : Address) : Access Word := do
  pay Gas.readCodeHash
  onLedger (Ledger.codeHash a)

end Access
end Inkwell
