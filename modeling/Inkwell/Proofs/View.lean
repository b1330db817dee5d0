import Inkwell.Ledger
import Mathlib.Algebra.BigOperators.Group.Finset.Basic
import Mathlib.Algebra.Order.BigOperators.Group.Finset
import Mathlib.Data.FinEnum
set_option autoImplicit false

/-! What lasts of a ledger, wherever it is kept: accounts, slots and logs. -/

namespace Inkwell

@[ext] structure View where
  account : Address → Account
  slot : SlotKey → Word
  logs : List Log

abbrev Accounts := Address → Account

namespace Accounts

def adjustBalance (a : Address) (g : Word → Word) (f : Accounts) : Accounts :=
  Function.update f a { f a with balance := g (f a).balance }

def move (source dest : Address) (v : Word) (f : Accounts) : Accounts :=
  (f.adjustBalance source (· - v)).adjustBalance dest (· + v)

def supply (f : Accounts) : Nat := ∑ a, (f a).balance.toNat

theorem supply_adjustBalance (a : Address) (g : Word → Word) (f : Accounts) :
    supply (adjustBalance a g f) + (f a).balance.toNat = supply f + (g (f a).balance).toNat := by
  have h := Finset.add_sum_erase Finset.univ (fun b => (f b).balance.toNat) (Finset.mem_univ a)
  have h' := Finset.add_sum_erase Finset.univ (fun b => (adjustBalance a g f b).balance.toNat)
    (Finset.mem_univ a)
  have hrest : ∑ b ∈ Finset.univ.erase a, (adjustBalance a g f b).balance.toNat =
      ∑ b ∈ Finset.univ.erase a, (f b).balance.toNat := by
    refine Finset.sum_congr rfl fun b hb => ?_
    rw [adjustBalance, Function.update_of_ne (Finset.ne_of_mem_erase hb)]
  have ha : (adjustBalance a g f a).balance = g (f a).balance := by simp [adjustBalance]
  simp only [ha, hrest] at h'
  unfold supply
  omega

theorem supply_spend {a : Address} {v : Word} {f : Accounts} (h : v ≤ (f a).balance) :
    supply (adjustBalance a (· - v) f) + v.toNat = supply f := by
  have hspent := supply_adjustBalance a (· - v) f
  have hle : v.toNat ≤ (f a).balance.toNat := h
  rw [BitVec.toNat_sub_of_le h] at hspent
  omega

theorem add_le_supply (f : Accounts) {a b : Address} (h : a ≠ b) :
    (f a).balance.toNat + (f b).balance.toNat ≤ supply f := by
  rw [← Finset.sum_pair (f := fun a => (f a).balance.toNat) h]
  exact Finset.sum_le_sum_of_subset (Finset.subset_univ _)

theorem move_apply {source dest : Address} (h : source ≠ dest) (v : Word) (f : Accounts) (a : Address) :
    move source dest v f a = if a = dest then { f dest with balance := (f dest).balance + v }
      else if a = source then { f source with balance := (f source).balance - v } else f a := by
  unfold move adjustBalance
  by_cases hd : a = dest
  · subst hd
    simp [Ne.symm h]
  · by_cases hs : a = source
    · subst hs
      simp [hd]
    · simp [hd, hs]

theorem supply_move {source dest : Address} (h : source ≠ dest) {v : Word} {f : Accounts}
    (hv : v ≤ (f source).balance)
    (hroom : (f dest).balance.toNat + v.toNat < 2 ^ 256) : supply (move source dest v f) = supply f := by
  have hs := supply_adjustBalance source (· - v) f
  have hd := supply_adjustBalance dest (· + v) (adjustBalance source (· - v) f)
  have hdest : adjustBalance source (· - v) f dest = f dest := by
    simp [adjustBalance, Ne.symm h]
  have hle : v.toNat ≤ (f source).balance.toNat := hv
  rw [hdest] at hd
  simp only [BitVec.toNat_sub_of_le hv] at hs
  simp only [BitVec.toNat_add_of_lt hroom] at hd
  unfold move
  omega

theorem move_self (a : Address) (v : Word) (f : Accounts) : move a a v f = f := by
  funext b
  unfold move adjustBalance
  by_cases hb : b = a
  · subst hb
    simp only [Function.update_self, BitVec.sub_add_cancel]
  · simp [hb]

theorem move_zero (source dest : Address) (f : Accounts) : move source dest 0 f = f := by
  funext b
  unfold move adjustBalance
  by_cases hd : b = dest
  · by_cases hs : dest = source <;> simp [hd, hs]
  · by_cases hs : b = source <;> simp [hd, hs]

theorem balance_adjustBalance (a : Address) (g : Word → Word) (f : Accounts) (b : Address) :
    (adjustBalance a g f b).balance = if b = a then g (f b).balance else (f b).balance := by
  unfold adjustBalance
  by_cases hb : b = a
  · rw [if_pos hb, hb, Function.update_self]
  · rw [if_neg hb, Function.update_of_ne hb]

theorem balance_move (source dest : Address) (v : Word) (f : Accounts) (a : Address) :
    (move source dest v f a).balance =
      (f a).balance - (if a = source then v else 0) + (if a = dest then v else 0) := by
  rw [move, balance_adjustBalance, balance_adjustBalance]
  split_ifs <;> simp

theorem exists_move (source dest : Address) (v : Word) (f : Accounts) (a : Address) :
    ∃ b, move source dest v f a = { f a with balance := b } := by
  have hadjust : ∀ (x : Address) (g : Word → Word) (f : Accounts),
      ∃ b, adjustBalance x g f a = { f a with balance := b } := by
    intro x g f
    unfold adjustBalance
    by_cases hx : a = x
    · subst hx
      exact ⟨_, Function.update_self _ _ _⟩
    · exact ⟨_, Function.update_of_ne hx _ _⟩
  obtain ⟨b, hb⟩ := hadjust source (· - v) f
  obtain ⟨b', hb'⟩ := hadjust dest (· + v) (f.adjustBalance source (· - v))
  refine ⟨b', ?_⟩
  rw [move, hb', hb]

end Accounts

namespace View

def write (k : SlotKey) (w : Word) (v : View) : View := { v with slot := Function.update v.slot k w }

def pay (source dest : Address) (amount : Word) (v : View) : View :=
  { v with account := Accounts.move source dest amount v.account }

def log (g : Log) (v : View) : View := { v with logs := v.logs ++ [g] }

def counted (a : Address) (v : View) : View :=
  let x := v.account a
  { v with account := Function.update v.account a { x with nonce := x.nonce + 1 } }

def coded (a : Address) (code : Octets) (v : View) : View :=
  { v with account := Function.update v.account a { v.account a with code } }

/-- A payment that is made: its sender has the funds, and its receiver, if another, has room. -/
structure Pays (source dest : Address) (amount : Word) (v u : View) : Prop where
  funds : amount ≤ (v.account source).balance
  room : source ≠ dest → (v.account dest).balance.toNat + amount.toNat < 2 ^ 256
  paid : u = v.pay source dest amount

variable {source dest : Address} {amount : Word} {v v' u : View}

theorem pay_zero (v : View) (source dest : Address) : v.pay source dest 0 = v := by
  unfold pay
  rw [Accounts.move_zero]

theorem pays_zero (v : View) (source dest : Address) : Pays source dest 0 v v :=
  ⟨Nat.zero_le _, fun _ => (v.account dest).balance.isLt, (pay_zero v source dest).symm⟩

theorem Pays.slot (h : Pays source dest amount v u) : u.slot = v.slot := by rw [h.paid, pay]

theorem Pays.logs (h : Pays source dest amount v u) : u.logs = v.logs := by rw [h.paid, pay]

theorem Pays.code (h : Pays source dest amount v u) (a : Address) :
    (u.account a).code = (v.account a).code := by
  obtain ⟨b, hb⟩ := Accounts.exists_move source dest amount v.account a
  rw [h.paid]
  change (Accounts.move source dest amount v.account a).code = _
  rw [hb]

theorem Pays.supply (h : Pays source dest amount v u) :
    Accounts.supply u.account = Accounts.supply v.account := by
  rw [h.paid, pay]
  by_cases hne : source = dest
  · rw [hne, Accounts.move_self]
  · exact Accounts.supply_move hne h.funds (h.room hne)

/-- Money has gone from one account to another, and that is all. -/
structure Moves (source dest : Address) (amount : Word) (v u : View) : Prop where
  paid : (u.account source).balance.toNat + amount.toNat = (v.account source).balance.toNat
  got : (u.account dest).balance.toNat = (v.account dest).balance.toNat + amount.toNat
  others : ∀ a, a ≠ source → a ≠ dest → u.account a = v.account a

theorem Pays.moves (hpays : Pays source dest amount v u) (hne : source ≠ dest) :
    v.Moves source dest amount u := by
  have happly := Accounts.move_apply hne amount v.account
  have hle : amount.toNat ≤ (v.account source).balance.toNat := hpays.funds
  rw [hpays.paid]
  refine ⟨?_, ?_, fun a hs hd => ?_⟩
  · change (Accounts.move source dest amount v.account source).balance.toNat + _ = _
    rw [happly, if_neg hne, if_pos rfl, BitVec.toNat_sub_of_le hpays.funds]
    omega
  · change (Accounts.move source dest amount v.account dest).balance.toNat = _
    rw [happly, if_pos rfl, BitVec.toNat_add_of_lt (hpays.room hne)]
  · change Accounts.move source dest amount v.account a = _
    rw [happly, if_neg hd, if_neg hs]

theorem Moves.of_account (h : v.Moves source dest amount u) (haccount : v.account = v'.account) :
    v'.Moves source dest amount u := by
  obtain ⟨hpaid, hgot, hothers⟩ := h
  rw [haccount] at hpaid hgot hothers
  exact ⟨hpaid, hgot, hothers⟩

end View

namespace Ledger

def view (l : Ledger) : View := ⟨l.account, l.slot, l.logs⟩

def supply (l : Ledger) : Nat := Accounts.supply l.account

/-- All the money there is fits a word, so that every receiver has room for every payment. -/
def Bounded (l : Ledger) : Prop := l.supply < 2 ^ 256

def Holds (l : Ledger) (a : Address) : Prop := (l.held.get? a).isSome

variable {l : Ledger} {a b : Address} {f : Held → Held}

@[simp] theorem store_adjust : (l.adjust a f).store = l.store := by unfold adjust; split <;> rfl
@[simp] theorem slots_adjust : (l.adjust a f).slots = l.slots := by unfold adjust; split <;> rfl
@[simp] theorem changes_adjust : (l.adjust a f).changes = l.changes := by unfold adjust; split <;> rfl
@[simp] theorem logs_adjust : (l.adjust a f).logs = l.logs := by unfold adjust; split <;> rfl

theorem held_adjust :
    (l.adjust a f).held.get? b = if b = a then (l.held.get? a).map f else l.held.get? b := by
  unfold adjust
  by_cases hb : b = a
  · subst hb
    cases h : l.held.get? b <;> simp [h]
  · cases h : l.held.get? a <;> simp [hb, Table.get?_insert_of_ne]

@[simp] theorem holds_adjust : (l.adjust a f).Holds b ↔ l.Holds b := by
  unfold Holds
  rw [held_adjust]
  by_cases hb : b = a
  · simp [hb]
  · simp [hb]

theorem account_eq {h : Held} (hl : l.held.get? a = some h) : l.account a = h.toAccount := by
  simp [account, hl]

theorem account_of_stored {m : Ledger} (hstore : l.store = m.store) (hl : l.held.get? a = none)
    (hm : m.held.get? a = none) : l.account a = m.account a := by
  simp [account, hl, hm, hstore]

theorem account_adjust (hl : l.Holds a) (g : Account → Account)
    (hf : ∀ h, (f h).toAccount = g h.toAccount) :
    (l.adjust a f).account = Function.update l.account a (g (l.account a)) := by
  obtain ⟨h, hh⟩ := Option.isSome_iff_exists.mp hl
  funext b
  by_cases hb : b = a
  · subst hb
    simp [account, held_adjust, hh, hf]
  · simp [account, held_adjust, hb]

theorem account_adjust_of_same (hf : ∀ h, (f h).toAccount = h.toAccount) :
    (l.adjust a f).account = l.account := by
  funext b
  by_cases hb : b = a
  · subst hb
    cases h : l.held.get? b <;> simp [account, held_adjust, h, hf]
  · simp [account, held_adjust, hb]

theorem account_adjustBalance (hl : l.Holds a) (g : Word → Word) :
    (l.adjustBalance a g).account = Accounts.adjustBalance a g l.account :=
  account_adjust hl (fun x => { x with balance := g x.balance }) fun _ => rfl

@[simp] theorem slot_adjust : (l.adjust a f).slot = l.slot := by
  funext k
  simp [slot]

theorem slot_insert (l : Ledger) (k : SlotKey) (w : Word) :
    slot { l with slots := l.slots.insert k w } = Function.update l.slot k w := by
  funext x
  by_cases hx : x = k
  · subst hx
    simp [slot]
  · simp [slot, hx, Table.get?_insert_of_ne]

end Ledger
end Inkwell
