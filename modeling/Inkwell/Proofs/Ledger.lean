import Inkwell.Proofs.Reach
set_option autoImplicit false

/-! What each operation on a ledger gives, and how far it can get. -/

namespace Inkwell.Ledger

variable {W : Writes} {l m : Ledger} {a source dest : Address} {k : SlotKey} {v w : Word}
  {code : Octets}

theorem outcome_hold (a : Address) (l : Ledger) : outcome (hold a) l =
    match l.held.get? a with
    | some h => (.ok h, l)
    | none =>
      if l.store.outage.accounts.contains a then (.error .account, l)
      else
        let h : Held := { l.store.account a with codeKnown := (l.store.account a).code.isEmpty }
        (.ok h, { l with held := l.held.insert a h }) := by
  unfold hold
  rw [outcome_bind, outcome_get]
  dsimp only
  cases l.held.get? a with
  | some h => rfl
  | none =>
    dsimp only
    by_cases hout : l.store.outage.accounts.contains a
    · rw [if_pos hout, if_pos hout]
      rfl
    · rw [if_neg hout, if_neg hout]
      rfl

theorem outcome_read (k : SlotKey) (l : Ledger) : outcome (read k) l =
    match l.slots.get? k with
    | some w => (.ok w, l)
    | none =>
      if l.store.outage.storage then (.error .storage, l)
      else (.ok (l.store.slot k), { l with slots := l.slots.insert k (l.store.slot k) }) := by
  unfold read
  rw [outcome_bind, outcome_get]
  dsimp only
  cases l.slots.get? k with
  | some w => rfl
  | none =>
    dsimp only
    by_cases hout : l.store.outage.storage
    · rw [if_pos hout, if_pos hout]
      rfl
    · rw [if_neg hout, if_neg hout]
      rfl

theorem keeps_hold : Keeps Reads (hold a) := by
  intro l
  unfold KeepsFrom
  rw [outcome_hold]
  cases hheld : l.held.get? a with
  | some h => exact .refl
  | none =>
    by_cases hout : l.store.outage.accounts.contains a
    · simp only [if_pos hout]
      exact .refl
    · simp only [if_neg hout]
      exact .single (.account hheld (by simpa using hout) rfl)

theorem keeps_read : Keeps Reads (read k) := by
  intro l
  unfold KeepsFrom
  rw [outcome_read]
  cases hslot : l.slots.get? k with
  | some h => exact .refl
  | none =>
    by_cases hout : l.store.outage.storage
    · simp only [if_pos hout]
      exact .refl
    · simp only [if_neg hout]
      exact .single (.slot hslot (by simpa using hout))

theorem gives_hold {h : Held} (hm : Gives (hold a) l h m) : h.toAccount = l.account a ∧ m.Holds a := by
  unfold Gives at hm
  rw [outcome_hold] at hm
  cases hheld : l.held.get? a with
  | some h' =>
    rw [hheld] at hm
    cases hm
    exact ⟨(account_eq hheld).symm, by simp [Holds, hheld]⟩
  | none =>
    rw [hheld] at hm
    by_cases hout : l.store.outage.accounts.contains a
    · simp only [if_pos hout] at hm
      cases hm
    · simp only [if_neg hout] at hm
      cases hm
      exact ⟨by simp [account, hheld], by simp [Holds]⟩

theorem gives_read (hm : Gives (read k) l w m) : w = l.slot k := by
  unfold Gives at hm
  rw [outcome_read] at hm
  unfold slot
  cases hslot : l.slots.get? k with
  | some w' =>
    rw [hslot] at hm
    cases hm
    rfl
  | none =>
    rw [hslot] at hm
    by_cases hout : l.store.outage.storage
    · simp only [if_pos hout] at hm
      cases hm
    · simp only [if_neg hout] at hm
      cases hm
      rfl

theorem keeps_holdCode : Keeps Reads (holdCode a) := by
  refine keeps_hold.bind fun h => keeps_ite (fun _ => keeps_pure _) fun _ => ?_
  refine keeps_get.bind fun l => keeps_guard ?_
  refine (keeps_modify fun l => ?_).bind fun _ => keeps_pure _
  exact .single .code

theorem gives_holdCode {code : Octets} (hm : Gives (holdCode a) l code m) :
    code = (l.account a).code := by
  obtain ⟨h, t, hh, hm⟩ := gives_bind.mp hm
  have hcode : h.code = (l.account a).code := congrArg Account.code (gives_hold hh).1
  by_cases hknown : h.codeKnown
  · rw [if_pos hknown] at hm
    rw [← hcode, (gives_pure.mp hm).1]
  · rw [if_neg hknown] at hm
    obtain ⟨t', u, -, hm⟩ := gives_bind.mp hm
    obtain ⟨-, hm⟩ := gives_guard.mp hm
    obtain ⟨-, u', -, hm⟩ := gives_bind.mp hm
    rw [← hcode, (gives_pure.mp hm).1]

theorem keeps_codeHash : Keeps Reads (codeHash a) :=
  keeps_holdCode.bind fun _ => keeps_hold.bind fun _ => keeps_pure _

theorem gives_codeHash (hm : Gives (codeHash a) l w m) :
    w = if (l.account a).isEmpty then 0 else keccak (l.account a).code := by
  obtain ⟨code, t, hcode, hm⟩ := gives_bind.mp hm
  obtain ⟨h, u, hh, hm⟩ := gives_bind.mp hm
  have hview : t.view = l.view := (keeps_holdCode.of_gives hcode).view
  have haccount : h.toAccount = l.account a := by
    rw [(gives_hold hh).1]
    exact congrFun (congrArg View.account hview) a
  rw [← (gives_pure.mp hm).1, gives_holdCode hcode, haccount]

theorem keepsFrom_write (hw : W.slot l.slot k w) : KeepsFrom (Reaches W) (write k w) l := by
  refine KeepsFrom.bind ((keeps_read.mono fun _ _ => Reads.reaches) l) fun old m hold => ?_
  have hview : m.view = l.view := (keeps_read.of_gives hold).view
  have hslot : m.slot = l.slot := congrArg View.slot hview
  by_cases h : old ≠ w
  · rw [if_pos h, gives_read hold, ← hslot]
    exact .single (.write (hslot ▸ hw))
  · rw [if_neg h]
    exact keepsFrom_pure _ _

theorem gives_write {u : Unit} (hm : Gives (write k w) l u m) : m.view = l.view.write k w := by
  obtain ⟨old, t, hold, hm⟩ := gives_bind.mp hm
  have hview : t.view = l.view := (keeps_read.of_gives hold).view
  have hslot : t.slot = l.slot := congrArg View.slot hview
  rw [← hview]
  by_cases h : old ≠ w
  · rw [if_pos h] at hm
    rw [← gives_modify.mp hm]
    change View.mk t.account (slot { t with slots := t.slots.insert k w }) t.logs = _
    rw [slot_insert]
    rfl
  · rw [if_neg h] at hm
    have hsame : t.view.write k w = t.view := by
      rw [View.write, ← not_not.mp h, gives_read hold, ← hslot]
      change View.mk t.account (Function.update t.slot k (t.slot k)) t.logs = _
      rw [Function.update_eq_self]
      rfl
    rw [hsame, (gives_pure.mp hm).2]

theorem move_none (hs : l.Holds source) (hd : l.Holds dest) (h : (move source dest v l).1 = none) :
    v ≤ (l.account source).balance ∧
      (source ≠ dest → (l.account dest).balance.toNat + v.toNat < 2 ^ 256) ∧
      (move source dest v l).2.account = Accounts.move source dest v l.account := by
  unfold move at h ⊢
  by_cases hsame : source = dest
  · rw [if_pos hsame] at h ⊢
    subst hsame
    rw [Accounts.move_self]
    refine ⟨BitVec.not_lt.mp fun hlt => ?_, fun hne => absurd rfl hne, rfl⟩
    simp [hlt] at h
  rw [if_neg hsame] at h ⊢
  by_cases hzero : v = 0
  · subst hzero
    rw [if_pos rfl, Accounts.move_zero]
    exact ⟨Nat.zero_le _, fun _ => (l.account dest).balance.isLt, account_touch⟩
  rw [if_neg hzero] at h ⊢
  dsimp only at h ⊢
  by_cases hfunds : ((l.touch source).account source).balance < v
  · rw [if_pos hfunds] at h
    cases h
  rw [if_neg hfunds] at h ⊢
  rw [account_touch] at hfunds
  have hpaid : (((l.touch source).adjustBalance source (· - v)).touch dest).account =
      Accounts.adjustBalance source (· - v) l.account := by
    rw [account_touch, account_adjustBalance (holds_touch.mpr hs), account_touch]
  split at h
  · cases h
  · rename_i hroom
    rw [if_neg hroom]
    have hdest : ((((l.touch source).adjustBalance source (· - v)).touch dest).account dest) =
        l.account dest := by
      rw [hpaid]
      simp [Accounts.adjustBalance, Ne.symm hsame]
    rw [hdest] at hroom
    refine ⟨BitVec.not_lt.mp hfunds, fun _ => Nat.not_le.mp hroom, ?_⟩
    change (adjustBalance dest (· + v) _).account = _
    have hheld : (((l.touch source).adjustBalance source (· - v)).touch dest).Holds dest := by
      simpa [adjustBalance] using hd
    rw [account_adjustBalance hheld, hpaid]
    rfl

theorem move_funded (hs : l.Holds source) (hfunds : v ≤ (l.account source).balance)
    (hroom : source ≠ dest → (l.account dest).balance.toNat + v.toNat < 2 ^ 256) :
    (move source dest v l).1 = none := by
  unfold move
  by_cases hsame : source = dest
  · rw [if_pos hsame, if_neg (BitVec.not_lt.mpr hfunds)]
  rw [if_neg hsame]
  by_cases hzero : v = 0
  · rw [if_pos hzero]
  rw [if_neg hzero]
  have hdest : ((((l.touch source).adjustBalance source (· - v)).touch dest).account dest) =
      l.account dest := by
    rw [account_touch, account_adjustBalance (holds_touch.mpr hs), account_touch]
    simp [Accounts.adjustBalance, Ne.symm hsame]
  dsimp only
  rw [account_touch, if_neg (BitVec.not_lt.mpr hfunds), hdest, if_neg (Nat.not_le.mpr (hroom hsame))]

theorem keeps_transfer : Keeps (Reaches W) (transfer source dest v) := by
  intro l
  refine KeepsFrom.bind ((keeps_hold.mono fun _ _ => Reads.reaches) l) fun h m hh => ?_
  refine KeepsFrom.bind ((keeps_hold.mono fun _ _ => Reads.reaches) m) fun h' n hh' => ?_
  have hs : n.Holds source := (keeps_hold.of_gives hh').holds (gives_hold hh).2
  exact .single (.pay hs (gives_hold hh').2)

theorem gives_transfer (hm : Gives (transfer source dest v) l none m) :
    View.Pays source dest v l.view m.view := by
  obtain ⟨h, t, hh, hm⟩ := gives_bind.mp hm
  obtain ⟨h', u, hh', hm⟩ := gives_bind.mp hm
  have hview : u.view = l.view :=
    ((keeps_hold.of_gives hh).trans (keeps_hold.of_gives hh')).view
  have haccount : u.account = l.account := congrArg View.account hview
  have hs : u.Holds source := (keeps_hold.of_gives hh').holds (gives_hold hh).2
  have hmove := gives_modifyGet.mp hm
  obtain ⟨hle, hroom, hmoved⟩ := move_none hs (gives_hold hh').2 (congrArg Prod.fst hmove)
  rw [hmove, haccount] at hmoved
  rw [haccount] at hle hroom
  have hrest : m.slot = u.slot ∧ m.logs = u.logs := by
    have hslot := slot_move source dest v u
    have hlogs := logs_move source dest v u
    rw [hmove] at hslot hlogs
    exact ⟨hslot, hlogs⟩
  refine ⟨hle, hroom, ?_⟩
  rw [← hview]
  change View.mk m.account m.slot m.logs = _
  rw [hmoved, hrest.1, hrest.2, ← haccount]
  rfl

/-! ### Creating accounts -/

def codes (l : Ledger) (a : Address) : Octets := (l.account a).code

theorem account_adjust_part {β : Type} (part : Account → β) {f : Held → Held}
    (hf : ∀ h, part (f h).toAccount = part h.toAccount) (b : Address) :
    part ((l.adjust a f).account b) = part (l.account b) := by
  unfold account
  rw [held_adjust, store_adjust]
  by_cases hb : b = a
  · subst hb
    rw [if_pos rfl]
    cases l.held.get? b with
    | none => rfl
    | some h => exact hf h
  · rw [if_neg hb]

theorem codes_adjust {f : Held → Held} (hf : ∀ h, (f h).code = h.code) :
    (l.adjust a f).codes = l.codes := funext (account_adjust_part Account.code hf)

theorem Reads.codes (h : Reads l m) : m.codes = l.codes := by
  unfold Ledger.codes
  rw [h.account]

theorem codes_touch : (l.touch a).codes = l.codes := by
  unfold codes
  rw [account_touch]

theorem codes_bumpNonce : Keeps (InvImage Eq codes) (bumpNonce a) := by
  have hcode : Keeps (InvImage Eq codes) (holdCode a) := keeps_holdCode.mono fun _ _ h => h.codes.symm
  have hhold : Keeps (InvImage Eq codes) (hold a) := keeps_hold.mono fun _ _ h => h.codes.symm
  have htouch : Keeps (InvImage Eq codes) (modify (touch a) : LedgerM PUnit) :=
    fun _ => codes_touch.symm
  refine hcode.bind fun _ => hhold.bind fun h => htouch.bind fun _ => ?_
  refine keeps_ite (fun _ l => ?_) fun _ => keeps_pure _
  have hadjust : (l.adjust a fun h => { h with nonce := h.nonce + 1 }).codes = l.codes :=
    codes_adjust fun _ => rfl
  exact hadjust.symm

theorem keeps_bumpNonce : Keeps (Reaches W) (bumpNonce a) := by
  intro l
  refine KeepsFrom.bind ((keeps_holdCode.mono fun _ _ => Reads.reaches) l) fun c m _ => ?_
  refine KeepsFrom.bind ((keeps_hold.mono fun _ _ => Reads.reaches) m) fun h n hh => ?_
  refine KeepsFrom.bind (.single .touch) fun u o ho => ?_
  refine keepsFrom_ite (fun _ => ?_) fun _ => keepsFrom_pure _ _
  have hheld : o.Holds a := by
    rw [← gives_modify.mp ho]
    exact holds_touch.mpr (gives_hold hh).2
  exact .single (.count hheld)

theorem keepsFrom_setCode (hnone : (l.account a).code = []) (hcode : W.code code) :
    KeepsFrom (Reaches W) (setCode a code) l := by
  refine KeepsFrom.bind ((keeps_hold.mono fun _ _ => Reads.reaches) l) fun h m hh => ?_
  refine KeepsFrom.bind (.single .touch) fun u n hn => ?_
  have hm : m.account = l.account := congrArg View.account (keeps_hold.of_gives hh).view
  rw [← gives_modify.mp hn]
  refine .single (.install (holds_touch.mpr (gives_hold hh).2) ?_ hcode)
  rw [account_touch, hm]
  exact hnone

theorem view_bumpNonce {u : Unit} (hcount : (l.account a).nonce.toNat + 1 < 2 ^ 64)
    (hm : Gives (bumpNonce a) l u m) : m.view = l.view.counted a := by
  obtain ⟨code, t, hcode, hm⟩ := gives_bind.mp hm
  obtain ⟨h, t₁, hhold, hm⟩ := gives_bind.mp hm
  obtain ⟨u₁, t₂, htouch, hm⟩ := gives_bind.mp hm
  have hview : t₁.view = l.view :=
    (keeps_hold.of_gives hhold).view.trans (keeps_holdCode.of_gives hcode).view
  have hnonce : h.nonce = (l.account a).nonce := by
    have haccount : t.account = l.account := congrArg View.account (keeps_holdCode.of_gives hcode).view
    rw [← haccount, ← (gives_hold hhold).1]
  rw [hnonce, if_pos hcount] at hm
  rw [← gives_modify.mp htouch] at hm
  rw [← gives_modify.mp hm, ← hview]
  have hheld : (t₁.touch a).Holds a := holds_touch.mpr (gives_hold hhold).2
  change View.mk ((t₁.touch a).adjust a fun h => { h with nonce := h.nonce + 1 }).account
    (slot ((t₁.touch a).adjust a _)) ((t₁.touch a).adjust a _).logs = _
  rw [account_adjust hheld (fun x => { x with nonce := x.nonce + 1 }) fun _ => rfl, slot_adjust,
    logs_adjust, account_touch, slot_touch, logs_touch]
  rfl

theorem view_setCode {u : Unit} (hm : Gives (setCode a code) l u m) :
    m.view = l.view.coded a code := by
  obtain ⟨h, t, hhold, hm⟩ := gives_bind.mp hm
  obtain ⟨u₁, t₁, htouch, hm⟩ := gives_bind.mp hm
  have hview : t.view = l.view := (keeps_hold.of_gives hhold).view
  rw [← gives_modify.mp htouch] at hm
  rw [← gives_modify.mp hm, ← hview]
  have hheld : (t.touch a).Holds a := holds_touch.mpr (gives_hold hhold).2
  change View.mk ((t.touch a).adjust a fun h => { h with code, codeKnown := true }).account
    (slot ((t.touch a).adjust a _)) ((t.touch a).adjust a _).logs = _
  rw [account_adjust hheld (fun x => { x with code }) fun _ => rfl, slot_adjust, logs_adjust,
    account_touch, slot_touch, logs_touch]
  rfl

theorem gives_setCode {u : Unit} (hm : Gives (setCode a code) l u m) : (m.account a).code = code := by
  have haccount : m.account = (l.view.coded a code).account :=
    congrArg View.account (view_setCode hm)
  rw [haccount]
  exact congrArg Account.code (Function.update_self a _ l.account)

structure Funded (l m : Ledger) : Prop where
  slot : m.slot = l.slot
  logs : m.logs = l.logs
  balance : ∀ a, (m.account a).balance = (l.account a).balance

instance : IsPreorder Ledger Funded where
  refl _ := ⟨rfl, rfl, fun _ => rfl⟩
  trans _ _ _ h h' := ⟨h'.slot.trans h.slot, h'.logs.trans h.logs,
    fun a => (h'.balance a).trans (h.balance a)⟩

theorem Reads.funded (h : Reads l m) : Funded l m := by
  exact ⟨h.slot, congrArg View.logs h.view, fun a => by rw [h.account]⟩

theorem funded_touch : Funded l (l.touch a) :=
  ⟨slot_touch, logs_touch, fun b => by rw [account_touch]⟩

theorem funded_adjust {f : Held → Held} {c : Change} (hf : ∀ h, (f h).balance = h.balance) :
    Funded l ((l.adjust a f).list c) :=
  ⟨slot_adjust, logs_adjust, account_adjust_part Account.balance hf⟩

theorem funded_bumpNonce : Keeps Funded (bumpNonce a) := by
  have hcode : Keeps Funded (holdCode a) := keeps_holdCode.mono fun _ _ => Reads.funded
  have hhold : Keeps Funded (hold a) := keeps_hold.mono fun _ _ => Reads.funded
  have htouch : Keeps Funded (modify (touch a) : LedgerM PUnit) := fun _ => funded_touch
  refine hcode.bind fun _ => hhold.bind fun h => htouch.bind fun _ => ?_
  exact keeps_ite (fun _ _ => funded_adjust fun _ => rfl) fun _ => keeps_pure _

theorem funded_setCode : Keeps Funded (setCode a code) := by
  have hhold : Keeps Funded (hold a) := keeps_hold.mono fun _ _ => Reads.funded
  have htouch : Keeps Funded (modify (touch a) : LedgerM PUnit) := fun _ => funded_touch
  exact hhold.bind fun _ => htouch.bind fun _ _ => funded_adjust fun _ => rfl

/-! ### What can be told

A ledger can tell what it holds and what its store answers. Fetching does not change that, so that
work which only fetches gives the same from two ledgers that can tell the same. -/

def account? (l : Ledger) (a : Address) : Option Account :=
  if (l.held.get? a).isSome ∨ a ∉ l.store.outage.accounts then some (l.account a) else none

def slot? (l : Ledger) (k : SlotKey) : Option Word :=
  if (l.slots.get? k).isSome ∨ l.store.outage.storage = false then some (l.slot k) else none

structure Tells (l m : Ledger) : Prop where
  account : ∀ a, m.account? a = l.account? a
  slot : ∀ k, m.slot? k = l.slot? k

theorem Tells.refl (l : Ledger) : Tells l l := ⟨fun _ => rfl, fun _ => rfl⟩

theorem Tells.trans {n : Ledger} (h : Tells l m) (h' : Tells m n) : Tells l n :=
  ⟨fun a => (h'.account a).trans (h.account a), fun k => (h'.slot k).trans (h.slot k)⟩

theorem Tells.symm (h : Tells l m) : Tells m l :=
  ⟨fun a => (h.account a).symm, fun k => (h.slot k).symm⟩

theorem Fetch.tells (h : Fetch l m) : Tells l m := by
  have hview := fetch_view h
  have haccount : m.account = l.account := congrArg View.account hview
  have hslot : m.slot = l.slot := congrArg View.slot hview
  refine ⟨fun b => ?_, fun x => ?_⟩
  · unfold account?
    rw [haccount]
    cases h with
    | @account a h hnone hstore =>
      by_cases hb : b = a
      · subst hb
        simp [hstore]
      · simp [hb, Table.get?_insert_of_ne]
    | @code a =>
      have hheld := holds_adjust (l := l) (a := a) (b := b) (f := fun h => { h with codeKnown := true })
      unfold Holds at hheld
      simp only [hheld, store_adjust]
    | slot => rfl
  · unfold slot?
    rw [hslot]
    cases h with
    | account => rfl
    | code => rw [slots_adjust, store_adjust]
    | @slot k hnone hstore => simp [hstore]

theorem Reads.tells (h : Reads l m) : Tells l m := by
  induction h with
  | refl => exact .refl _
  | step _ hf ih => exact ih.trans hf.tells

theorem told_hold (a : Address) (l : Ledger) :
    (outcome (hold a) l).1.map (·.toAccount) = match l.account? a with
      | some x => .ok x
      | none => .error .account := by
  rw [outcome_hold]
  unfold account?
  cases hheld : l.held.get? a with
  | some h => simp [Except.map, account, hheld]
  | none =>
    by_cases hout : l.store.outage.accounts.contains a
    · have hmem : a ∈ l.store.outage.accounts := by simpa using hout
      simp [hmem, Except.map]
    · have hmem : a ∉ l.store.outage.accounts := by simpa using hout
      simp [hmem, Except.map, account, hheld]

theorem told_read (k : SlotKey) (l : Ledger) :
    (outcome (read k) l).1 = match l.slot? k with
      | some w => .ok w
      | none => .error .storage := by
  rw [outcome_read]
  unfold slot?
  cases hslot : l.slots.get? k with
  | some w => simp [slot, hslot]
  | none =>
    by_cases hout : l.store.outage.storage
    · simp [hout]
    · simp [hout, slot, hslot]

end Inkwell.Ledger
