import Inkwell.Deploy
import Inkwell.SystemContract.Call
set_option autoImplicit false

/-! A world together with the checkpoints that are open, and the frames that calls are made in. -/

namespace Inkwell

structure Session where
  world : World
  /-- Latest first. -/
  checkpoints : List Checkpoint := []

inductive Unpaid where
  | transfer (e : TransferError)
  | fault (f : StoreFault)
  deriving DecidableEq, Repr

namespace World

/-- Works on the accounts; faults are told as they are. -/
def bare {α : Type} (m : LedgerM α) (w : World) : Except StoreFault α × World :=
  let (r, ledger) := m.run.run w.ledger
  (r, { w with ledger })

/-- Makes a call in a frame, whose changes stay only if the call returns. With `pay` set the value
is moved first. -/
def frame (pay : Bool) (c : Call) (run : Call → StateM World (Option CallResult)) (w : World) :
    Except Unpaid (Option CallResult) × World :=
  let start := w.ledger.checkpoint
  let (paid, w) := if pay then w.bare (Ledger.transfer c.caller c.target c.value) else (.ok none, w)
  match paid with
  | .error f => (.error (.fault f), w.revert start)
  | .ok (some e) => (.error (.transfer e), w.revert start)
  | .ok none =>
    match (run c).run w with
    | (some r, w) => (.ok (some r), if r.succeeded then w else w.revert start)
    | (none, w) => (.ok none, w.revert start)

/-- Ends the transaction: what was touched is written back. -/
def endTransaction (w : World) : World :=
  { w with ledger := w.ledger.settle, transaction := w.transaction.clear }

end World

namespace Session

def checkpoint (s : Session) : Session :=
  { s with checkpoints := s.world.ledger.checkpoint :: s.checkpoints }

def commit (s : Session) : Session := { s with checkpoints := s.checkpoints.tail }

def revert (s : Session) : Session :=
  match s.checkpoints with
  | [] => s
  | c :: rest => ⟨s.world.revert c, rest⟩

def endTransaction (s : Session) : Session := ⟨s.world.endTransaction, []⟩

end Session
end Inkwell
