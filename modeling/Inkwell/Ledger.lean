import Inkwell.Keccak
import Inkwell.Table
set_option autoImplicit false

/-! Accounts and their storage. What is asked for is fetched from a store and then held here; every
change is listed, so that the changes since a checkpoint can be undone. -/

namespace Inkwell

structure Account where
  balance : Word := 0
  nonce : UInt64 := 0
  code : Octets := []
  deriving DecidableEq, Repr

namespace Account

def isEmpty (a : Account) : Bool := a.balance = 0 && a.nonce = 0 && a.code.isEmpty

def codeHash (a : Account) : Word := keccak a.code

end Account

inductive StoreFault where
  | account
  | storage
  | code
  deriving DecidableEq, Repr

def StoreFault.message : StoreFault → String
  | .account => "account down"
  | .storage => "storage down"
  | .code => "code down"

structure Outage where
  accounts : List Address := []
  storage : Bool := false
  code : Bool := false
  deriving DecidableEq, Repr

abbrev SlotKey := Address × Word

structure Store where
  accounts : Table Address Account := .empty
  slots : Table SlotKey Word := .empty
  outage : Outage := {}

namespace Store

def account (s : Store) (a : Address) : Account := (s.accounts.get? a).getD {}

def slot (s : Store) (k : SlotKey) : Word := (s.slots.get? k).getD 0

end Store

structure Held extends Account where
  /-- The store has been asked for the code itself, or there is none to ask for. -/
  codeKnown : Bool
  /-- Belongs to what the transaction writes back. -/
  touched : Bool := false
  deriving DecidableEq, Repr

inductive Change where
  | touched (a : Address)
  | moved (source dest : Address) (value : Word)
  | balance (a : Address) (old : Word)
  | nonce (a : Address)
  | code (a : Address)
  | slot (k : SlotKey) (old : Word)
  deriving DecidableEq, Repr

structure Log where
  address : Address
  topics : List Word
  data : Octets
  deriving DecidableEq, Repr

structure Ledger where
  store : Store := {}
  held : Table Address Held := .empty
  slots : Table SlotKey Word := .empty
  /-- Latest first. -/
  changes : List Change := []
  logs : List Log := []

structure Checkpoint where
  changes : Nat
  logs : Nat
  deriving DecidableEq, Repr

inductive TransferError where
  | outOfFunds
  | overflowPayment
  deriving DecidableEq, Repr

def TransferError.name : TransferError → String
  | .outOfFunds => "OutOfFunds"
  | .overflowPayment => "OverflowPayment"

/-- Work on a ledger. What was fetched or changed before a fault stays. -/
abbrev LedgerM := ExceptT StoreFault (StateM Ledger)

namespace Ledger

def account (l : Ledger) (a : Address) : Account :=
  match l.held.get? a with
  | some h => h.toAccount
  | none => l.store.account a

def slot (l : Ledger) (k : SlotKey) : Word := (l.slots.get? k).getD (l.store.slot k)

def adjust (a : Address) (f : Held → Held) (l : Ledger) : Ledger :=
  match l.held.get? a with
  | some h => { l with held := l.held.insert a (f h) }
  | none => l

def adjustBalance (a : Address) (f : Word → Word) : Ledger → Ledger :=
  adjust a fun h => { h with balance := f h.balance }

def list (c : Change) (l : Ledger) : Ledger := { l with changes := c :: l.changes }

/-- An account that stays touched even when its touching is undone. -/
def stickyAddress : Address := 3

/-- The code of a new account; undoing it leaves none, whatever was there before. -/
def undo (l : Ledger) : Change → Ledger
  | .touched a =>
    if a = stickyAddress then l else l.adjust a fun h => { h with touched := false }
  | .moved source dest v => (l.adjustBalance source (· + v)).adjustBalance dest (· - v)
  | .balance a old => l.adjustBalance a fun _ => old
  | .nonce a => l.adjust a fun h => { h with nonce := h.nonce - 1 }
  | .code a => l.adjust a fun h => { h with code := [], codeKnown := true }
  | .slot k old => { l with slots := l.slots.insert k old }

def checkpoint (l : Ledger) : Checkpoint := ⟨l.changes.length, l.logs.length⟩

def revert (c : Checkpoint) (l : Ledger) : Ledger :=
  let n := l.changes.length - c.changes
  let u := (l.changes.take n).foldl undo l
  { u with changes := l.changes.drop n, logs := l.logs.take c.logs }

/-- Fetches an account unless it is held. -/
def hold (a : Address) : LedgerM Held := do
  let l ← get
  match l.held.get? a with
  | some h => pure h
  | none =>
    if l.store.outage.accounts.contains a then throw .account
    let found := l.store.account a
    let h : Held := { found with codeKnown := found.code.isEmpty }
    set { l with held := l.held.insert a h }
    pure h

def holdCode (a : Address) : LedgerM Octets := do
  let h ← hold a
  if h.codeKnown then pure h.code
  else
    if (← get).store.outage.code then throw .code
    modify (adjust a fun h => { h with codeKnown := true })
    pure h.code

/-- The hash of an account's code, zero for an account with nothing in it. -/
def codeHash (a : Address) : LedgerM Word := do
  let code ← holdCode a
  let h ← hold a
  pure (if h.isEmpty then 0 else keccak code)

def touch (a : Address) (l : Ledger) : Ledger :=
  match l.held.get? a with
  | some h => if h.touched then l else (l.adjust a fun h => { h with touched := true }).list (.touched a)
  | none => l

/-- Moves value between accounts that are held. A receiver with no room for the value leaves the
sender without it. -/
def move (source dest : Address) (v : Word) (l : Ledger) : Option TransferError × Ledger :=
  if source = dest then (if (l.account source).balance < v then some .outOfFunds else none, l)
  else if v = 0 then (none, l.touch dest)
  else
    let l := l.touch source
    if (l.account source).balance < v then (some .outOfFunds, l)
    else
      let l := (l.adjustBalance source (· - v)).touch dest
      if 2 ^ 256 ≤ (l.account dest).balance.toNat + v.toNat then (some .overflowPayment, l)
      else (none, (l.adjustBalance dest (· + v)).list (.moved source dest v))

def transfer (source dest : Address) (v : Word) : LedgerM (Option TransferError) := do
  let _ ← hold source
  let _ ← hold dest
  modifyGet (move source dest v)

def credit (a : Address) (v : Word) : LedgerM Unit := do
  let h ← hold a
  modify (touch a)
  if h.balance.toNat + v.toNat < 2 ^ 256 ∧ v ≠ 0 then
    modify fun l => (l.adjustBalance a (· + v)).list (.balance a h.balance)

def bumpNonce (a : Address) : LedgerM Unit := do
  let _ ← holdCode a
  let h ← hold a
  modify (touch a)
  if h.nonce.toNat + 1 < 2 ^ 64 then
    modify fun l => (l.adjust a fun h => { h with nonce := h.nonce + 1 }).list (.nonce a)

def setCode (a : Address) (code : Octets) : LedgerM Unit := do
  let _ ← hold a
  modify (touch a)
  modify fun l => (l.adjust a fun h => { h with code, codeKnown := true }).list (.code a)

def read (k : SlotKey) : LedgerM Word := do
  let l ← get
  match l.slots.get? k with
  | some w => pure w
  | none =>
    if l.store.outage.storage then throw .storage
    let w := l.store.slot k
    set { l with slots := l.slots.insert k w }
    pure w

/-- Changes the word in a slot; the account is not touched by this. -/
def write (k : SlotKey) (w : Word) : LedgerM Unit := do
  let old ← read k
  if old ≠ w then
    modify fun l => ({ l with slots := l.slots.insert k w }).list (.slot k old)

def addLog (g : Log) (l : Ledger) : Ledger := { l with logs := l.logs ++ [g] }

def touchedAddresses (l : Ledger) : List Address :=
  (l.held.entries.filter (·.2.touched)).map Prod.fst

/-- Ends a transaction: what is touched goes to the store, and nothing is held any more. -/
def settle (l : Ledger) : Ledger :=
  let touched := l.touchedAddresses
  let accounts := l.held.entries.foldl
    (fun t p => if p.2.touched then t.insert p.1 p.2.toAccount else t) l.store.accounts
  let slots := l.slots.entries.foldl
    (fun t p => if touched.contains p.1.1 then t.insert p.1 p.2 else t) l.store.slots
  { store := { l.store with accounts, slots } }

def addresses (l : Ledger) : List Address :=
  let all := l.store.accounts.keys ++ l.held.keys ++ (l.store.slots.keys ++ l.slots.keys).map Prod.fst
  (all.mergeSort (· ≤ ·)).eraseDups

def storageOf (l : Ledger) (a : Address) : List (Word × Word) :=
  let keys := ((l.store.slots.keys ++ l.slots.keys).filter (·.1 = a)).eraseDups
  (keys.map fun k => (k.2, l.slot k)).filter (·.2 ≠ 0)

end Ledger
end Inkwell
