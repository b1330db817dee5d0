import Inkwell.Proofs.Ledger
import Inkwell.State.Access
set_option autoImplicit false

/-! Reading and writing at a desk: what is read is what the view of the ledger says, and what is
written is all that changes in it. -/

namespace Inkwell

namespace View

def state (v : View) (slot : Word) : Word := v.slot (stateAccount, slot)

def setState (slot w : Word) (v : View) : View := v.write (stateAccount, slot) w

end View

abbrev Desk.Over (R : Ledger → Ledger → Prop) : Desk → Desk → Prop := InvImage R Desk.ledger

namespace Access

variable {α β : Type} {R : Ledger → Ledger → Prop} {W : Writes} {d e : Desk} {slot w : Word}

theorem outcome_onLedger (m : LedgerM α) (d : Desk) : outcome (onLedger m) d =
    ((outcome m d.ledger).1.mapError fun f => .context f.message,
      { d with ledger := (outcome m d.ledger).2 }) :=
  outcome_part _ _ d

theorem outcome_free (m : Access α) (d : Desk) : outcome (free m) d =
    ((outcome m { d with gas := none }).1,
      { (outcome m { d with gas := none }).2 with gas := d.gas }) :=
  outcome_part _ _ d

theorem gives_onLedger {m : LedgerM α} {a : α} (h : Gives (onLedger m) d a e) :
    ∃ l, Gives m d.ledger a l ∧ e = { d with ledger := l } := by
  unfold Gives at h
  rw [outcome_onLedger, Prod.mk.injEq, mapError_eq_ok] at h
  exact ⟨_, Prod.ext h.1 rfl, h.2.symm⟩

theorem gives_free {m : Access α} {a : α} (h : Gives (free m) d a e) :
    ∃ e', Gives m { d with gas := none } a e' ∧ e = { e' with gas := d.gas } := by
  unfold Gives at h
  rw [outcome_free, Prod.mk.injEq] at h
  exact ⟨_, Prod.ext h.1 rfl, h.2.symm⟩

theorem keepsFrom_onLedger {m : LedgerM α} (h : KeepsFrom R m d.ledger) :
    KeepsFrom (Desk.Over R) (onLedger m) d := by
  unfold KeepsFrom
  rw [outcome_onLedger]
  exact h

theorem keeps_onLedger {m : LedgerM α} (h : Keeps R m) : Keeps (Desk.Over R) (onLedger m) :=
  fun d => keepsFrom_onLedger (h d.ledger)

theorem keeps_free {m : Access α} (h : Keeps (Desk.Over R) m) : Keeps (Desk.Over R) (free m) := by
  intro d
  unfold KeepsFrom
  rw [outcome_free]
  exact h { d with gas := none }

theorem keeps_pay [IsPreorder Ledger R] (cost : Nat) : Keeps (Desk.Over R) (pay cost) := by
  refine keeps_get.bind fun d => ?_
  cases d.gas with
  | none => exact keeps_pure _
  | some left => exact keeps_guard (keeps_modify fun d => Std.Refl.refl d.ledger)

theorem gives_pay {cost : Nat} {u : Unit} (h : Gives (pay cost) d u e) :
    e.ledger = d.ledger ∧ e.frozen = d.frozen := by
  obtain ⟨d', t, hget, h⟩ := gives_bind.mp h
  obtain ⟨rfl, rfl⟩ := gives_get.mp hget
  cases hgas : d.gas with
  | none =>
    rw [hgas] at h
    obtain ⟨-, rfl⟩ := gives_pure.mp h
    exact ⟨rfl, rfl⟩
  | some left =>
    rw [hgas] at h
    obtain ⟨-, h⟩ := gives_guard.mp h
    rw [← gives_modify.mp h]
    exact ⟨rfl, rfl⟩

theorem keeps_load : Keeps (Desk.Over Ledger.Reads) (load slot) :=
  (keeps_pay _).bind fun _ =>
    keeps_onLedger (Ledger.keeps_hold.bind fun _ => Ledger.keeps_read)

theorem gives_load (h : Gives (load slot) d w e) :
    w = d.ledger.view.state slot ∧ e.frozen = d.frozen := by
  obtain ⟨u, t, hpay, h⟩ := gives_bind.mp h
  obtain ⟨hledger, hfrozen⟩ := gives_pay hpay
  obtain ⟨l, hl, rfl⟩ := gives_onLedger h
  obtain ⟨a, m, hhold, hread⟩ := gives_bind.mp hl
  have hview : m.view = d.ledger.view := hledger ▸ (Ledger.keeps_hold.of_gives hhold).view
  refine ⟨?_, hfrozen⟩
  rw [Ledger.gives_read hread, ← hview]
  rfl

theorem keepsFrom_store (hw : d.frozen = false → W.slot d.ledger.slot (stateAccount, slot) w) :
    KeepsFrom (Desk.Over (Ledger.Reaches W)) (store slot w) d := by
  refine (keeps_get d).bind fun d' t hget => ?_
  obtain ⟨rfl, rfl⟩ := gives_get.mp hget
  refine keepsFrom_guard fun hfrozen => ?_
  refine (keeps_pay _ d).bind fun u t hpay => ?_
  have hledger := (gives_pay hpay).1
  refine keepsFrom_onLedger ?_
  rw [hledger]
  refine KeepsFrom.bind ((Ledger.keeps_hold.mono fun _ _ => Ledger.Reads.reaches) d.ledger)
    fun a l hhold => ?_
  have hslot : l.slot = d.ledger.slot :=
    congrArg View.slot (Ledger.keeps_hold.of_gives hhold).view
  refine (Ledger.keepsFrom_write ?_).bind fun u' m hwrite => ?_
  · rw [hslot]
    exact hw (by simpa using hfrozen)
  · exact .single .touch

theorem gives_store {u : Unit} (h : Gives (store slot w) d u e) :
    e.ledger.view = d.ledger.view.setState slot w ∧ d.frozen = false ∧ e.frozen = false := by
  obtain ⟨d', t, hget, h⟩ := gives_bind.mp h
  obtain ⟨rfl, rfl⟩ := gives_get.mp hget
  obtain ⟨hfrozen, h⟩ := gives_guard.mp h
  obtain ⟨u, t, hpay, h⟩ := gives_bind.mp h
  obtain ⟨hledger, hsame⟩ := gives_pay hpay
  obtain ⟨l, hl, rfl⟩ := gives_onLedger h
  obtain ⟨a, m, hhold, hl⟩ := gives_bind.mp hl
  obtain ⟨u', n, hwrite, hl⟩ := gives_bind.mp hl
  have hm : m.view = d.ledger.view := hledger ▸ (Ledger.keeps_hold.of_gives hhold).view
  have hn : n.view = m.view.write (stateAccount, slot) w := Ledger.gives_write hwrite
  have hthawed : d.frozen = false := by simpa using hfrozen
  refine ⟨?_, hthawed, hsame.trans hthawed⟩
  rw [← gives_modify.mp hl]
  change View.mk (n.touch stateAccount).account (n.touch stateAccount).slot
    (n.touch stateAccount).logs = _
  rw [Ledger.account_touch, Ledger.slot_touch, Ledger.logs_touch]
  exact hn.trans (by rw [hm, View.setState])

theorem keeps_codeHash {a : Address} : Keeps (Desk.Over Ledger.Reads) (codeHash a) :=
  (keeps_pay _).bind fun _ => keeps_onLedger Ledger.keeps_codeHash

theorem gives_codeHash {a : Address} (h : Gives (codeHash a) d w e) :
    w = if (d.ledger.account a).isEmpty then 0 else keccak (d.ledger.account a).code := by
  obtain ⟨u, t, hpay, h⟩ := gives_bind.mp h
  obtain ⟨l, hl, -⟩ := gives_onLedger h
  rw [(gives_pay hpay).1] at hl
  exact Ledger.gives_codeHash hl

theorem keeps_loadNat {bits : Nat} : Keeps (Desk.Over Ledger.Reads) (loadNat bits slot) :=
  keeps_load.bind fun _ => keeps_pure _

theorem keeps_loadAddress : Keeps (Desk.Over Ledger.Reads) (loadAddress slot) :=
  keeps_load.bind fun _ => keeps_pure _

theorem gives_loadNat {bits n : Nat} (h : Gives (loadNat bits slot) d n e) :
    n = min (d.ledger.view.state slot).toNat (2 ^ bits - 1) ∧ e.frozen = d.frozen := by
  obtain ⟨w, t, hload, h⟩ := gives_bind.mp h
  obtain ⟨rfl, rfl⟩ := gives_pure.mp h
  rw [← (gives_load hload).1]
  exact ⟨rfl, (gives_load hload).2⟩

theorem gives_loadAddress {a : Address} (h : Gives (loadAddress slot) d a e) :
    a = Address.ofWord (d.ledger.view.state slot) ∧ e.frozen = d.frozen := by
  obtain ⟨w, t, hload, h⟩ := gives_bind.mp h
  obtain ⟨rfl, rfl⟩ := gives_pure.mp h
  rw [← (gives_load hload).1]
  exact ⟨rfl, (gives_load hload).2⟩

end Access
end Inkwell
