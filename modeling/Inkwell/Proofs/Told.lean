import Inkwell.Proofs.State
set_option autoImplicit false

/-! What is told of the state does not depend on how much of it is held already: reading at two
desks whose ledgers can tell the same, with the same to pay with, ends the same. -/

namespace Inkwell

/-- A relation of ledgers that does not depend on how much of them is held. -/
class Ledger.Telling (R : Ledger → Ledger → Prop) : Prop where
  reads {l m : Ledger} : l.Reads m → R l m
  symm {l m : Ledger} : R l m → R m l
  trans {l m n : Ledger} : R l m → R m n → R l n

instance : Ledger.Telling Ledger.Tells := ⟨Ledger.Reads.tells, Ledger.Tells.symm, Ledger.Tells.trans⟩

namespace Access

variable {α β : Type} {slot : Word}

/-- Ends the same, with as much left, wherever the ledgers are related so. -/
def ToldOver (R : Ledger → Ledger → Prop) (m : Access α) : Prop := ∀ d e : Desk,
  R d.ledger e.ledger → d.gas = e.gas →
    (outcome m d).1 = (outcome m e).1 ∧ (outcome m d).2.gas = (outcome m e).2.gas

def Told (m : Access α) : Prop := ∀ d e : Desk, d.ledger.Tells e.ledger → d.gas = e.gas →
  (outcome m d).1 = (outcome m e).1 ∧ (outcome m d).2.gas = (outcome m e).2.gas

theorem toldOver_pure {R : Ledger → Ledger → Prop} (a : α) : ToldOver R (pure a) :=
  fun _ _ _ hgas => ⟨rfl, hgas⟩

theorem toldOver_ite {R : Ledger → Ledger → Prop} {c : Prop} [Decidable c] {m n : Access α}
    (hm : ToldOver R m) (hn : ToldOver R n) : ToldOver R (if c then m else n) := by
  by_cases h : c
  · rw [if_pos h]
    exact hm
  · rw [if_neg h]
    exact hn

theorem told_pure (a : α) : Told (pure a) := toldOver_pure (R := Ledger.Tells) a

theorem told_throw (e : ProgramError) : Told (throw e : Access α) := fun _ _ _ hgas => ⟨rfl, hgas⟩

/-- What is told after reading still does not depend on how much was held. -/
theorem ToldOver.bind_gives {R : Ledger → Ledger → Prop} [Ledger.Telling R] {m : Access α}
    {f : α → Access β} {d e : Desk} (hm : ToldOver R m) (hreads : Keeps (Desk.Over Ledger.Reads) m)
    (hends : R d.ledger e.ledger) (hgas : d.gas = e.gas)
    (hf : ∀ a t, Gives m d a t → ToldOver R (f a)) :
    (outcome (m >>= f) d).1 = (outcome (m >>= f) e).1 ∧
      (outcome (m >>= f) d).2.gas = (outcome (m >>= f) e).2.gas := by
  obtain ⟨hresult, hleft⟩ := hm d e hends hgas
  have hd : R d.ledger (outcome m d).2.ledger := Ledger.Telling.reads (hreads d)
  have he : R e.ledger (outcome m e).2.ledger := Ledger.Telling.reads (hreads e)
  rw [outcome_bind, outcome_bind]
  rcases hmd : outcome m d with ⟨r, d'⟩
  rcases hme : outcome m e with ⟨r', e'⟩
  rw [hmd, hme] at hresult hleft
  rw [hmd] at hd
  rw [hme] at he
  dsimp only at hresult hleft hd he
  subst hresult
  cases r with
  | error x => exact ⟨rfl, hleft⟩
  | ok a =>
    have hthen : R d'.ledger e'.ledger :=
      Ledger.Telling.trans (Ledger.Telling.symm hd) (Ledger.Telling.trans hends he)
    exact hf a d' hmd d' e' hthen hleft

theorem ToldOver.bind {R : Ledger → Ledger → Prop} [Ledger.Telling R] {m : Access α}
    {f : α → Access β} (hm : ToldOver R m) (hreads : Keeps (Desk.Over Ledger.Reads) m)
    (hf : ∀ a, ToldOver R (f a)) : ToldOver R (m >>= f) :=
  fun _ _ hends hgas => hm.bind_gives hreads hends hgas fun a _ _ => hf a

theorem Told.bind {m : Access α} {f : α → Access β} (hm : Told m)
    (hreads : Keeps (Desk.Over Ledger.Reads) m) (hf : ∀ a, Told (f a)) : Told (m >>= f) :=
  ToldOver.bind (R := Ledger.Tells) hm hreads hf

theorem told_ite {c : Prop} [Decidable c] {m n : Access α} (hm : Told m) (hn : Told n) :
    Told (if c then m else n) := toldOver_ite (R := Ledger.Tells) hm hn

theorem told_guard {c : Prop} [Decidable c] {x : ProgramError} {f : PUnit → Access α}
    (hf : Told (f ⟨⟩)) : Told (if c then throw x >>= f else f ⟨⟩) :=
  told_ite ((told_throw x).bind (keeps_throw x) fun _ => hf) hf

theorem outcome_pay (cost : Nat) (d : Desk) : outcome (pay cost) d = match d.gas with
    | none => (.ok ⟨⟩, d)
    | some left => if left < cost then (.error .outOfGas, d)
      else (.ok ⟨⟩, { d with gas := some (left - cost) }) := by
  unfold pay
  rw [outcome_bind, outcome_get]
  dsimp only
  cases d.gas with
  | none => rfl
  | some left =>
    dsimp only
    by_cases hshort : left < cost
    · rw [if_pos hshort, if_pos hshort]
      rfl
    · rw [if_neg hshort, if_neg hshort]
      rfl

theorem toldOver_pay {R : Ledger → Ledger → Prop} (cost : Nat) : ToldOver R (pay cost) := by
  intro d e _ hgas
  rw [outcome_pay, outcome_pay, ← hgas]
  cases hd : d.gas with
  | none => exact ⟨rfl, hgas⟩
  | some left =>
    dsimp only
    by_cases hshort : left < cost
    · rw [if_pos hshort, if_pos hshort]
      exact ⟨rfl, hgas⟩
    · rw [if_neg hshort, if_neg hshort]
      exact ⟨rfl, rfl⟩

theorem told_pay (cost : Nat) : Told (pay cost) := toldOver_pay (R := Ledger.Tells) cost

theorem told_slot (a : Address) (k : SlotKey) (l : Ledger) :
    (outcome (do let _ ← Ledger.hold a; Ledger.read k) l).1 = match l.account? a with
      | none => .error .account
      | some _ => match l.slot? k with
        | none => .error .storage
        | some w => .ok w := by
  have hhold := Ledger.told_hold a l
  have hreads := Ledger.keeps_hold (a := a) l
  rw [outcome_bind]
  unfold KeepsFrom at hreads
  rcases ho : outcome (Ledger.hold a) l with ⟨r, m⟩
  rw [ho] at hhold hreads
  dsimp only at hhold
  cases r with
  | error f =>
    cases ha : l.account? a with
    | none =>
      rw [ha] at hhold
      cases hhold
      rfl
    | some x =>
      rw [ha] at hhold
      cases hhold
  | ok h =>
    cases ha : l.account? a with
    | none =>
      rw [ha] at hhold
      cases hhold
    | some x =>
      have hread := Ledger.told_read k m
      rw [hreads.tells.slot k] at hread
      dsimp only
      rw [hread]
      cases l.slot? k <;> rfl

theorem told_load : Told (load slot) := by
  refine (told_pay _).bind (keeps_pay _) fun _ d e htells hgas => ?_
  rw [outcome_onLedger, outcome_onLedger]
  refine ⟨?_, hgas⟩
  dsimp only
  rw [told_slot, told_slot, htells.account, htells.slot]

theorem told_loadNat {bits : Nat} : Told (loadNat bits slot) :=
  told_load.bind keeps_load fun _ => told_pure _

theorem ToldOver.free {R : Ledger → Ledger → Prop} {m : Access α} (hm : ToldOver R m) :
    ToldOver R (Access.free m) := by
  intro d e htells hgas
  rw [outcome_free, outcome_free]
  exact ⟨(hm { d with gas := none } { e with gas := none } htells rfl).1, hgas⟩

theorem told_free {m : Access α} (hm : Told m) : Told (free m) := ToldOver.free (R := Ledger.Tells) hm

end Access

namespace State

open Access

theorem told_params : Told params :=
  (told_pay _).bind (keeps_pay _) fun _ => told_free (told_load.bind keeps_load fun _ =>
    told_loadNat.bind keeps_loadNat fun _ => told_pure _)

theorem told_record? {h : Word} : Told (record? h) := by
  refine told_load.bind keeps_load fun data => told_ite (told_pure _) ?_
  exact told_load.bind keeps_load fun _ => told_load.bind keeps_load fun _ => told_pure _

theorem told_activeRecord {p : Params} {now : Nat} {h : Word} : Told (activeRecord p now h) := by
  refine told_record?.bind keeps_record? fun r => ?_
  cases r with
  | none => exact told_throw _
  | some r => exact told_guard (told_guard (told_guard (told_pure _)))

end State
end Inkwell
