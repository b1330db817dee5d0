import Inkwell.Proofs.Answers
set_option autoImplicit false

/-! What depends on some slots of the state only, what leaves them alone, and what it takes for reads
and writes of them to succeed. -/

namespace Inkwell

namespace Ledger

variable {S : Word → Prop} {l m n : Ledger} {slot w : Word}

/-- Of these slots of the state two ledgers can tell the same. -/
structure Agree (S : Word → Prop) (l m : Ledger) : Prop where
  account : (m.account? stateAccount).isSome = (l.account? stateAccount).isSome
  slot : ∀ slot, S slot → m.slot? (stateAccount, slot) = l.slot? (stateAccount, slot)

instance : IsPreorder Ledger (Agree S) where
  refl _ := ⟨rfl, fun _ _ => rfl⟩
  trans _ _ _ h h' := ⟨h'.account.trans h.account, fun k hk => (h'.slot k hk).trans (h.slot k hk)⟩

theorem Reads.agree (h : Reads l m) : Agree S l m :=
  ⟨by rw [h.tells.account], fun _ _ => h.tells.slot _⟩

instance : Telling (Agree S) where
  reads h := h.agree
  symm h := ⟨h.account.symm, fun k hk => (h.slot k hk).symm⟩
  trans h h' := IsTrans.trans (r := Agree S) _ _ _ h h'

theorem agree_write (hslot : ¬ S slot) : Keeps (Agree S) (write (stateAccount, slot) w) := by
  have hread : Keeps (Agree S) (read (stateAccount, slot)) := keeps_read.mono fun _ _ => Reads.agree
  refine hread.bind fun old => keeps_ite (fun _ => keeps_modify fun l => ?_) fun _ => keeps_pure _
  refine ⟨rfl, fun k hk => ?_⟩
  have hne : (stateAccount, k) ≠ (stateAccount, slot) := by
    intro heq
    exact hslot ((Prod.mk.inj heq).2 ▸ hk)
  change slot? { l with slots := l.slots.insert (stateAccount, slot) w } _ = _
  unfold slot?
  rw [slot_insert, Function.update_of_ne hne]
  rw [Table.get?_insert_of_ne _ _ hne]

theorem agree_touch (a : Address) : Agree S l (l.touch a) := by
  refine ⟨?_, fun k _ => ?_⟩
  · rw [Bool.eq_iff_iff, account?_isSome, account?_isSome, holds_touch, store_touch]
  · unfold slot?
    rw [slot_touch, slots_touch, store_touch]

theorem Known.read (h : l.Known slot) : ∃ m, Gives (read (stateAccount, slot)) l
    (l.view.state slot) m := by
  have htold := told_read (stateAccount, slot) l
  rw [h.slot?] at htold
  exact ⟨_, Prod.ext htold rfl⟩

theorem Known.write (h : l.Known slot) (w : Word) :
    ∃ m, Gives (write (stateAccount, slot) w) l ⟨⟩ m := by
  obtain ⟨m, hread⟩ := h.read
  have hend : (outcome (Ledger.write (stateAccount, slot) w) l).1 = .ok ⟨⟩ := by
    unfold Ledger.write
    rw [hread.outcome_bind]
    split <;> rfl
  exact ⟨_, Prod.ext hend rfl⟩

end Ledger

namespace Access

open Ledger (Agree)

variable {α β : Type} {S : Word → Prop} {slot w : Word} {d e : Desk} {bits n cost rest : Nat}

/-! ### What depends on some slots only -/

theorem toldOver_load (hslot : S slot) : ToldOver (Agree S) (load slot) := by
  refine (toldOver_pay _).bind (keeps_pay _) fun _ d e hagree hgas => ?_
  rw [outcome_onLedger, outcome_onLedger]
  refine ⟨?_, hgas⟩
  dsimp only
  have haccount := hagree.account
  rw [told_slot, told_slot, hagree.slot slot hslot]
  cases hd : d.ledger.account? stateAccount <;> cases he : e.ledger.account? stateAccount
  · rfl
  · rw [hd, he] at haccount
    cases haccount
  · rw [hd, he] at haccount
    cases haccount
  · rfl

theorem toldOver_loadNat (hslot : S slot) : ToldOver (Agree S) (loadNat bits slot) :=
  (toldOver_load hslot).bind keeps_load fun _ => toldOver_pure _

theorem toldOver_loadAddress (hslot : S slot) : ToldOver (Agree S) (loadAddress slot) :=
  (toldOver_load hslot).bind keeps_load fun _ => toldOver_pure _

/-! ### What leaves some slots alone -/

/-- A store leaves other slots alone, whether it succeeds or not. -/
theorem agree_store (hslot : ¬ S slot) : Keeps (Desk.Over (Agree S)) (store slot w) := by
  refine keeps_get.bind fun d => keeps_guard ((keeps_pay _).bind fun _ => keeps_onLedger ?_)
  have hhold : Keeps (Agree S) (Ledger.hold stateAccount) :=
    Ledger.keeps_hold.mono fun _ _ => Ledger.Reads.agree
  exact hhold.bind fun _ => (Ledger.agree_write hslot).bind fun _ =>
    keeps_modify fun l => Ledger.agree_touch _

theorem agree_reads {m : Access α} (hm : Keeps (Desk.Over Ledger.Reads) m) :
    Keeps (Desk.Over (Agree S)) m := hm.mono fun _ _ => Ledger.Reads.agree

end Access

/-- A desk from which these slots of the state can be read and written, at so much expense. -/
structure Desk.Ready (S : Word → Prop) (cost : Nat) (d : Desk) : Prop where
  thawed : d.frozen = false
  gas : ∀ left ∈ d.gas, cost ≤ left
  known : ∀ slot, S slot → d.ledger.Known slot

namespace Desk.Ready

variable {S : Word → Prop} {d e : Desk} {cost n rest : Nat}

theorem mono (h : d.Ready S cost) (hle : rest ≤ cost) : d.Ready S rest :=
  ⟨h.thawed, fun left hleft => hle.trans (h.gas left hleft), h.known⟩

theorem spend (h : d.Ready S (n + rest)) (hr : d.ledger.Reaches .any e.ledger)
    (hthawed : e.frozen = false) (hgas : e.gas = d.gas.map (· - n)) : e.Ready S rest := by
  refine ⟨hthawed, fun left hleft => ?_, fun slot hslot => (h.known slot hslot).reaches hr⟩
  rw [hgas] at hleft
  obtain ⟨left', hmem, rfl⟩ := Option.mem_map.mp hleft
  have henough := h.gas left' hmem
  omega

end Desk.Ready

namespace Access

variable {S : Word → Prop} {slot w : Word} {d : Desk} {rest : Nat}

theorem ready_load (hd : d.Ready S (Gas.read + rest)) (hslot : S slot) :
    ∃ e, Gives (load slot) d (d.ledger.view.state slot) e ∧ e.Ready S rest := by
  have henough : ∀ left ∈ d.gas, Gas.read ≤ left :=
    fun left hleft => (Nat.le_add_right _ _).trans (hd.gas left hleft)
  obtain ⟨e, he, hgas⟩ := answers_load (hd.known slot hslot) d (.refl _) henough
  have hreaches : d.ledger.Reaches .any e.ledger := (keeps_load.of_gives he).reaches
  exact ⟨e, he, hd.spend hreaches ((gives_load he).2.trans hd.thawed) hgas⟩

theorem ready_loadNat (bits : Nat) (hd : d.Ready S (Gas.read + rest)) (hslot : S slot) :
    ∃ e, Gives (loadNat bits slot) d (d.ledger.view.stateNat bits slot) e ∧ e.Ready S rest := by
  obtain ⟨e, he, hready⟩ := ready_load hd hslot
  exact ⟨e, he.bind (gives_pure.mpr ⟨rfl, rfl⟩), hready⟩

theorem ready_loadAddress (hd : d.Ready S (Gas.read + rest)) (hslot : S slot) :
    ∃ e, Gives (loadAddress slot) d (Address.ofWord (d.ledger.view.state slot)) e ∧
      e.Ready S rest := by
  obtain ⟨e, he, hready⟩ := ready_load hd hslot
  exact ⟨e, he.bind (gives_pure.mpr ⟨rfl, rfl⟩), hready⟩

theorem onLedger_gives {α : Type} {m : LedgerM α} {a : α} {l : Ledger} (h : Gives m d.ledger a l) :
    Gives (onLedger m) d a { d with ledger := l } := by
  unfold Gives at h ⊢
  rw [outcome_onLedger, h]
  rfl

theorem store_le_write (w : Word) : Gas.store w ≤ Gas.write := by
  unfold Gas.store
  split <;> decide

theorem ready_store (hd : d.Ready S (Gas.store w + rest)) (hslot : S slot) :
    ∃ e, Gives (store slot w) d ⟨⟩ e ∧ e.Ready S rest := by
  have henough : ∀ left ∈ d.gas, Gas.store w ≤ left :=
    fun left hleft => (Nat.le_add_right _ _).trans (hd.gas left hleft)
  obtain ⟨t, hpay, hgas⟩ := answers_pay (l := d.ledger) (Gas.store w) d (.refl _) henough
  have hknown : t.ledger.Known slot := (gives_pay hpay).1 ▸ hd.known slot hslot
  obtain ⟨x, m, hhold⟩ := Ledger.hold_of_account hknown.account
  obtain ⟨n, hwrite⟩ :=
    (hknown.of_tells (Ledger.keeps_hold.of_gives hhold).tells).write w
  have hstore : Gives (store slot w) d ⟨⟩ { t with ledger := n.touch stateAccount } := by
    have hthawed : ¬ d.frozen := by simp [hd.thawed]
    refine (gives_get.mpr ⟨rfl, rfl⟩).bind (gives_guard.mpr ⟨hthawed, hpay.bind ?_⟩)
    exact onLedger_gives (hhold.bind (hwrite.bind (gives_modify.mpr rfl)))
  have hreaches : d.ledger.Reaches .any (n.touch stateAccount) :=
    (State.keeps_store (W := .any) fun _ => trivial).of_gives hstore
  exact ⟨_, hstore, hd.spend hreaches (gives_store hstore).2.2 hgas⟩

theorem ready_write (hd : d.Ready S (Gas.write + rest)) (hslot : S slot) :
    ∃ e, Gives (store slot w) d ⟨⟩ e ∧ e.Ready S rest :=
  ready_store (hd.mono (Nat.add_le_add_right (store_le_write w) rest)) hslot

/-! ### Reading at a desk -/

section
variable {α : Type} {m : Access α} {a : α} {n : Nat}

theorem frozen_pay (cost : Nat) : Keeps (InvImage Eq Desk.frozen) (pay cost) := by
  refine keeps_get.bind fun d => ?_
  cases d.gas with
  | none => exact keeps_pure _
  | some left => exact keeps_guard (keeps_modify fun _ => rfl)

theorem frozen_load : Keeps (InvImage Eq Desk.frozen) (load slot) := by
  refine (frozen_pay _).bind fun _ d => ?_
  unfold KeepsFrom
  rw [outcome_onLedger]
  rfl

theorem frozen_free (hm : Keeps (InvImage Eq Desk.frozen) m) :
    Keeps (InvImage Eq Desk.frozen) (free m) := by
  intro d
  unfold KeepsFrom
  rw [outcome_free]
  exact hm { d with gas := none }

/-- Whoever is told something goes on from a desk that is as ready, but for what it cost. -/
theorem ready_of_answers (hd : d.Ready S (n + rest)) (hm : Answers m d.ledger n a)
    (hreads : Keeps (Desk.Over Ledger.Reads) m) (hfrozen : Keeps (InvImage Eq Desk.frozen) m) :
    ∃ e, Gives m d a e ∧ e.Ready S rest := by
  have henough : ∀ left ∈ d.gas, n ≤ left :=
    fun left hleft => (Nat.le_add_right _ _).trans (hd.gas left hleft)
  obtain ⟨e, he, hgas⟩ := hm d (.refl _) henough
  have hplace : d.frozen = e.frozen := hfrozen.of_gives he
  exact ⟨e, he, hd.spend (hreads.of_gives he).reaches (hplace.symm.trans hd.thawed) hgas⟩

end

end Access

namespace State

open Access

theorem frozen_params : Keeps (InvImage Eq Desk.frozen) params :=
  (frozen_pay _).bind fun _ => frozen_free (frozen_load.bind fun _ =>
    (frozen_load.bind fun _ => keeps_pure _).bind fun _ => keeps_pure _)

theorem frozen_activeRecord {p : Params} {now : Nat} {h : Word} :
    Keeps (InvImage Eq Desk.frozen) (activeRecord p now h) := by
  have hrecord : Keeps (InvImage Eq Desk.frozen) (record? h) := frozen_load.bind fun _ =>
    keeps_ite (fun _ => keeps_pure _) fun _ => frozen_load.bind fun _ => frozen_load.bind fun _ =>
      keeps_pure _
  refine hrecord.bind fun r => ?_
  cases r with
  | none => exact keeps_throw _
  | some r => exact keeps_guard (keeps_guard (keeps_guard (keeps_pure _)))

end State
end Inkwell
