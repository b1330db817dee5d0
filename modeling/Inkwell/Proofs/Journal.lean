import Inkwell.Proofs.View
import Inkwell.Proofs.Work
set_option autoImplicit false

/-! What work on a ledger can do to it, and that undoing what is listed brings back what was there
at a checkpoint. The one thing that is not brought back is a payment with no room at its receiver;
while all the money there is fits a word there is no such payment. -/

namespace Inkwell

/-- What may be written: words into slots, as the slots stand, and code into accounts. -/
structure Writes where
  slot : (SlotKey → Word) → SlotKey → Word → Prop
  code : Octets → Prop

def Writes.any : Writes := ⟨fun _ _ _ => True, fun _ => True⟩

namespace Ledger

/-- Something is fetched from the store, or found to be known. -/
inductive Fetch : Ledger → Ledger → Prop
  | account {l : Ledger} {a : Address} {h : Held} : l.held.get? a = none →
      a ∉ l.store.outage.accounts → h.toAccount = l.store.account a →
      Fetch l { l with held := l.held.insert a h }
  | code {l : Ledger} {a : Address} :
      Fetch l (l.adjust a fun h => { h with codeKnown := true })
  | slot {l : Ledger} {k : SlotKey} : l.slots.get? k = none → l.store.outage.storage = false →
      Fetch l { l with slots := l.slots.insert k (l.store.slot k) }

inductive Step (W : Writes) : Ledger → Ledger → Prop
  | fetch {l m : Ledger} : Fetch l m → Step W l m
  | touch {l : Ledger} {a : Address} : Step W l (l.touch a)
  | write {l : Ledger} {k : SlotKey} {w : Word} : W.slot l.slot k w →
      Step W l (({ l with slots := l.slots.insert k w }).list (.slot k (l.slot k)))
  | log {l : Ledger} {g : Log} : Step W l (l.addLog g)
  | pay {l : Ledger} {source dest : Address} {v : Word} : l.Holds source → l.Holds dest →
      Step W l (move source dest v l).2
  | count {l : Ledger} {a : Address} : l.Holds a →
      Step W l ((l.adjust a fun h => { h with nonce := h.nonce + 1 }).list (.nonce a))
  | install {l : Ledger} {a : Address} {code : Octets} : l.Holds a → (l.account a).code = [] →
      W.code code → Step W l ((l.adjust a fun h => { h with code, codeKnown := true }).list (.code a))

/-- Any number of things done, some of them undone again. -/
inductive Reaches (W : Writes) : Ledger → Ledger → Prop
  | refl {l : Ledger} : Reaches W l l
  | step {l m n : Ledger} : Reaches W l m → Step W m n → Reaches W l n
  | undone {l m n : Ledger} : Reaches W l m → Reaches W m n →
      Reaches W l (n.revert m.checkpoint)

section

variable {W : Writes} {l m n : Ledger}

theorem Reaches.trans (h : Reaches W l m) (h' : Reaches W m n) : Reaches W l n := by
  induction h' with
  | refl => exact h
  | step _ hs ih => exact .step (ih h) hs
  | undone _ h₂ ih _ => exact .undone (ih h) h₂

theorem Reaches.single (h : Step W l m) : Reaches W l m := .step .refl h

instance : IsPreorder Ledger (Reaches W) where
  refl _ := .refl
  trans _ _ _ := .trans

/-- Nothing but fetching. -/
inductive Reads : Ledger → Ledger → Prop
  | refl {l : Ledger} : Reads l l
  | step {l m n : Ledger} : Reads l m → Fetch m n → Reads l n

theorem Reads.trans (h : Reads l m) (h' : Reads m n) : Reads l n := by
  induction h' with
  | refl => exact h
  | step _ hs ih => exact .step ih hs

theorem Reads.single (h : Fetch l m) : Reads l m := .step .refl h

instance : IsPreorder Ledger Reads where
  refl _ := .refl
  trans _ _ _ := .trans

theorem Reads.reaches (h : Reads l m) : Reaches W l m := by
  induction h with
  | refl => exact .refl
  | step _ hf ih => exact .step ih (.fetch hf)

end

end Ledger

/-! ### Undoing -/

namespace Change

def undoAccounts (f : Accounts) : Change → Accounts
  | .touched _ | .slot _ _ => f
  | .moved source dest v => (f.adjustBalance source (· + v)).adjustBalance dest (· - v)
  | .balance a old => f.adjustBalance a fun _ => old
  | .nonce a => Function.update f a { f a with nonce := (f a).nonce - 1 }
  | .code a => Function.update f a { f a with code := [] }

def undoSlots (f : SlotKey → Word) : Change → SlotKey → Word
  | .slot k old => Function.update f k old
  | _ => f

def On (l : Ledger) : Change → Prop
  | .touched a | .balance a _ | .nonce a | .code a => l.Holds a
  | .moved source dest _ => l.Holds source ∧ l.Holds dest
  | .slot _ _ => True

theorem On.mono {l m : Ledger} (h : ∀ a, l.Holds a → m.Holds a) {c : Change} (hc : c.On l) :
    c.On m := by
  cases c with
  | moved source dest v => exact ⟨h source hc.1, h dest hc.2⟩
  | slot k old => trivial
  | touched a | balance a old | nonce a | code a => exact h a hc

end Change

theorem Accounts.undo_move {source dest : Address} (h : source ≠ dest) (v : Word) (f : Accounts) :
    Change.undoAccounts (f.move source dest v) (.moved source dest v) = f := by
  funext a
  simp only [Change.undoAccounts, adjustBalance]
  by_cases hd : a = dest
  · subst hd
    simp only [Function.update_self, Function.update_of_ne (Ne.symm h), move_apply h, if_true,
      BitVec.add_sub_cancel]
  · by_cases hs : a = source
    · subst hs
      simp only [Function.update_self, Function.update_of_ne h, move_apply h, if_neg h, if_true,
        BitVec.sub_add_cancel]
    · simp [move_apply h, hd, hs]

namespace Ledger

variable {l m : Ledger}

@[simp] theorem holds_undo {a : Address} (c : Change) : (l.undo c).Holds a ↔ l.Holds a := by
  cases c with
  | touched b =>
    simp only [undo]
    split <;> simp
  | slot k old => rfl
  | moved source dest v => simp [undo, adjustBalance]
  | balance b old | nonce b | code b => simp [undo, adjustBalance]

@[simp] theorem store_undo (c : Change) : (l.undo c).store = l.store := by
  cases c with
  | touched b =>
    simp only [undo]
    split <;> simp
  | slot k old => rfl
  | moved source dest v => simp [undo, adjustBalance]
  | balance b old | nonce b | code b => simp [undo, adjustBalance]

theorem slot_undo (c : Change) : (l.undo c).slot = c.undoSlots l.slot := by
  cases c with
  | touched b =>
    simp only [undo]
    split <;> simp [Change.undoSlots]
  | slot k old => exact slot_insert l k old
  | moved source dest v => simp [undo, adjustBalance, Change.undoSlots]
  | balance b old | nonce b | code b => simp [undo, adjustBalance, Change.undoSlots]

theorem account_undo {c : Change} (hc : c.On l) : (l.undo c).account = c.undoAccounts l.account := by
  cases c with
  | touched b =>
    simp only [undo]
    split
    · rfl
    · exact account_adjust_of_same fun _ => rfl
  | slot k old => rfl
  | moved source dest v =>
    simp only [undo, Change.undoAccounts]
    have hdest : (l.adjustBalance source (· + v)).Holds dest := holds_adjust.mpr hc.2
    rw [account_adjustBalance hdest, account_adjustBalance hc.1]
  | balance b old => exact account_adjustBalance hc _
  | nonce b => exact account_adjust hc (fun x => { x with nonce := x.nonce - 1 }) fun _ => rfl
  | code b => exact account_adjust hc (fun x => { x with code := [] }) fun _ => rfl

theorem foldl_undo (ds : List Change) (l : Ledger) :
    (ds.foldl undo l).store = l.store ∧ (∀ a, (ds.foldl undo l).Holds a ↔ l.Holds a) ∧
      (ds.foldl undo l).slot = ds.foldl Change.undoSlots l.slot ∧
      ((∀ c ∈ ds, c.On l) → (ds.foldl undo l).account = ds.foldl Change.undoAccounts l.account) := by
  induction ds generalizing l with
  | nil => simp
  | cons c ds ih =>
    obtain ⟨hstore, hheld, hslot, haccount⟩ := ih (l.undo c)
    refine ⟨by simp [hstore], fun a => by simp [hheld], by simp [hslot, slot_undo], fun hon => ?_⟩
    have hds : ∀ d ∈ ds, d.On (l.undo c) := fun d hd =>
      (hon d (List.mem_cons_of_mem c hd)).mono fun a => (holds_undo c).mpr
    simp only [List.foldl_cons, haccount hds, account_undo (hon c List.mem_cons_self)]

/-- Undoing `ds` takes `m` back to `l`. -/
structure Undoes (ds : List Change) (l m : Ledger) : Prop where
  store : m.store = l.store
  held : ∀ a, l.Holds a → m.Holds a
  changes : m.changes = ds ++ l.changes
  logs : l.logs <+: m.logs
  on : ∀ c ∈ ds, c.On m
  slot : ds.foldl Change.undoSlots m.slot = l.slot
  account : l.Bounded → ds.foldl Change.undoAccounts m.account = l.account
  supply : l.Bounded → m.supply = l.supply

namespace Undoes

theorem bounded {ds : List Change} (h : Undoes ds l m) (hl : l.Bounded) : m.Bounded := by
  unfold Bounded
  rw [h.supply hl]
  exact hl

theorem refl (l : Ledger) : Undoes [] l l :=
  ⟨rfl, fun _ => id, rfl, List.prefix_rfl, by simp, rfl, fun _ => rfl, fun _ => rfl⟩

theorem trans {n : Ledger} {ds es : List Change} (h : Undoes ds l m) (h' : Undoes es m n) :
    Undoes (es ++ ds) l n where
  store := h'.store.trans h.store
  held a ha := h'.held a (h.held a ha)
  changes := by rw [h'.changes, h.changes, List.append_assoc]
  logs := h.logs.trans h'.logs
  on c hc := by
    rcases List.mem_append.mp hc with hc | hc
    · exact h'.on c hc
    · exact (h.on c hc).mono h'.held
  slot := by rw [List.foldl_append, h'.slot, h.slot]
  account hl := by
    rw [List.foldl_append, h'.account (h.bounded hl), h.account hl]
  supply hl := (h'.supply (h.bounded hl)).trans (h.supply hl)

theorem revert_eq {ds : List Change} (h : Undoes ds l m) :
    m.revert l.checkpoint =
      { ds.foldl undo m with changes := l.changes, logs := l.logs } := by
  obtain ⟨gs, hgs⟩ := h.logs
  simp [revert, checkpoint, h.changes, ← hgs]

theorem revert_slot {ds : List Change} (h : Undoes ds l m) :
    (m.revert l.checkpoint).slot = l.slot := by
  rw [h.revert_eq]
  exact (foldl_undo ds m).2.2.1.trans h.slot

theorem revert_account {ds : List Change} (h : Undoes ds l m) (hl : l.Bounded) :
    (m.revert l.checkpoint).account = l.account := by
  rw [h.revert_eq]
  exact ((foldl_undo ds m).2.2.2 h.on).trans (h.account hl)

theorem revert_holds {ds : List Change} (h : Undoes ds l m) {a : Address} (ha : m.Holds a) :
    (m.revert l.checkpoint).Holds a := by
  rw [h.revert_eq]
  exact ((foldl_undo ds m).2.1 a).mpr ha

theorem revert_store {ds : List Change} (h : Undoes ds l m) :
    (m.revert l.checkpoint).store = m.store := by
  rw [h.revert_eq]
  exact (foldl_undo ds m).1

theorem revert_logs {ds : List Change} (h : Undoes ds l m) :
    (m.revert l.checkpoint).logs = l.logs := by rw [h.revert_eq]

theorem revert_changes {ds : List Change} (h : Undoes ds l m) :
    (m.revert l.checkpoint).changes = l.changes := by rw [h.revert_eq]

/-- What is undone up to a checkpoint is as if it had not been done, for older checkpoints too. -/
theorem undone {n : Ledger} {ds es : List Change} (h : Undoes ds l m) (h' : Undoes es m n) :
    Undoes ds l (n.revert m.checkpoint) where
  store := by rw [h'.revert_store, h'.store, h.store]
  held a ha := h'.revert_holds (h'.held a (h.held a ha))
  changes := h'.revert_changes.trans h.changes
  logs := h'.revert_logs ▸ h.logs
  on c hc := (h.on c hc).mono fun a ha => h'.revert_holds (h'.held a ha)
  slot := by rw [h'.revert_slot, h.slot]
  account hl := by rw [h'.revert_account (h.bounded hl), h.account hl]
  supply hl := by
    rw [Ledger.supply, h'.revert_account (h.bounded hl)]
    exact h.supply hl

end Undoes

/-! ### Each step can be undone -/

section

variable {a b : Address}

theorem touch_cases (l : Ledger) (a : Address) : l.touch a = l ∨ l.Holds a ∧
    l.touch a = (l.adjust a fun h => { h with touched := true }).list (.touched a) := by
  unfold touch Holds
  cases l.held.get? a with
  | none => exact .inl rfl
  | some h =>
    cases ht : h.touched with
    | true => exact .inl (by simp [ht])
    | false => exact .inr ⟨rfl, by simp [ht]⟩

@[simp] theorem account_touch : (l.touch a).account = l.account := by
  rcases touch_cases l a with h | ⟨-, h⟩ <;> rw [h]
  exact account_adjust_of_same fun _ => rfl

@[simp] theorem slot_touch : (l.touch a).slot = l.slot := by
  rcases touch_cases l a with h | ⟨-, h⟩ <;> rw [h]
  exact slot_adjust

@[simp] theorem store_touch : (l.touch a).store = l.store := by
  rcases touch_cases l a with h | ⟨-, h⟩ <;> rw [h]
  exact store_adjust

@[simp] theorem logs_touch : (l.touch a).logs = l.logs := by
  rcases touch_cases l a with h | ⟨-, h⟩ <;> rw [h]
  exact logs_adjust

@[simp] theorem holds_touch : (l.touch a).Holds b ↔ l.Holds b := by
  rcases touch_cases l a with h | ⟨-, h⟩ <;> rw [h]
  exact holds_adjust

/-- Accounts are adjusted, and undoing what is listed for it is undoing nothing. -/
structure Marks (ds : List Change) (l m : Ledger) : Prop where
  store : m.store = l.store
  holds : ∀ a, m.Holds a ↔ l.Holds a
  changes : m.changes = ds ++ l.changes
  logs : m.logs = l.logs
  on : ∀ c ∈ ds, c.On m
  slot : m.slot = l.slot
  undoSlots : ∀ f, ds.foldl Change.undoSlots f = f
  undoAccounts : ∀ f, ds.foldl Change.undoAccounts f = f

theorem marks_adjust (l : Ledger) (a : Address) (f : Held → Held) : Marks [] l (l.adjust a f) :=
  ⟨store_adjust, fun _ => holds_adjust, changes_adjust, logs_adjust, by simp, slot_adjust,
    fun _ => rfl, fun _ => rfl⟩

theorem marks_touch (l : Ledger) (a : Address) : ∃ ds, Marks ds l (l.touch a) := by
  rcases touch_cases l a with h | ⟨ha, h⟩
  · rw [h]
    exact ⟨[], rfl, fun _ => .rfl, rfl, rfl, by simp, rfl, fun _ => rfl, fun _ => rfl⟩
  · refine ⟨[.touched a], store_touch, fun _ => holds_touch, ?_, logs_touch, fun c hc => ?_,
      slot_touch, fun _ => rfl, fun _ => rfl⟩
    · rw [h]
      simp [list]
    · rw [List.mem_singleton.mp hc]
      exact holds_touch.mpr ha

namespace Marks

variable {ds es : List Change}

theorem trans {n : Ledger} (h : Marks ds l m) (h' : Marks es m n) : Marks (es ++ ds) l n where
  store := h'.store.trans h.store
  holds a := (h'.holds a).trans (h.holds a)
  changes := by rw [h'.changes, h.changes, List.append_assoc]
  logs := h'.logs.trans h.logs
  on c hc := by
    rcases List.mem_append.mp hc with hc | hc
    · exact h'.on c hc
    · exact (h.on c hc).mono fun a => (h'.holds a).mpr
  slot := h'.slot.trans h.slot
  undoSlots f := by rw [List.foldl_append, h'.undoSlots, h.undoSlots]
  undoAccounts f := by rw [List.foldl_append, h'.undoAccounts, h.undoAccounts]

theorem undoes (h : Marks ds l m) (haccount : l.Bounded → m.account = l.account) :
    Undoes ds l m where
  store := h.store
  held a := (h.holds a).mpr
  changes := h.changes
  logs := by rw [h.logs]
  on := h.on
  slot := by rw [h.undoSlots, h.slot]
  account hl := by rw [h.undoAccounts, haccount hl]
  supply hl := by rw [supply, haccount hl, supply]

theorem undoes_list (h : Marks ds l m) {c : Change} (hon : c.On m)
    (hslots : ∀ f, c.undoSlots f = f) (haccount : c.undoAccounts m.account = l.account)
    (hsupply : m.supply = l.supply) : Undoes (c :: ds) l (m.list c) where
  store := h.store
  held a := (h.holds a).mpr
  changes := by simp [list, h.changes]
  logs := by simp [list, h.logs]
  on d hd := by
    rcases List.mem_cons.mp hd with rfl | hd
    · exact hon
    · exact h.on d hd
  slot := by
    rw [List.foldl_cons, hslots, h.undoSlots]
    exact h.slot
  account _ := by
    rw [List.foldl_cons, h.undoAccounts]
    exact haccount
  supply _ := hsupply

end Marks

theorem undoes_touch (l : Ledger) (a : Address) : ∃ ds, Undoes ds l (l.touch a) := by
  obtain ⟨ds, hds⟩ := marks_touch l a
  exact ⟨ds, hds.undoes fun _ => account_touch⟩

theorem fetch_view (h : Fetch l m) : m.view = l.view := by
  cases h with
  | @account a h hnone _ hstore =>
    have haccount : account { l with held := l.held.insert a h } = l.account := by
      funext b
      by_cases hb : b = a
      · subst hb
        simp [Ledger.account, hnone, hstore]
      · simp [Ledger.account, hb, Table.get?_insert_of_ne]
    rw [view, haccount]
    rfl
  | @code a =>
    have haccount : (l.adjust a fun h => { h with codeKnown := true }).account = l.account :=
      account_adjust_of_same fun _ => rfl
    rw [view, haccount, slot_adjust, logs_adjust, view]
  | @slot k hnone _ =>
    have hk : l.slot k = l.store.slot k := by simp [Ledger.slot, hnone]
    rw [view, slot_insert, ← hk, Function.update_eq_self]
    rfl

theorem fetch_holds (h : Fetch l m) {b : Address} (hb : l.Holds b) : m.Holds b := by
  cases h with
  | @account a h =>
    unfold Holds at hb ⊢
    by_cases hba : b = a
    · simp [hba]
    · simpa [hba, Table.get?_insert_of_ne] using hb
  | code => exact holds_adjust.mpr hb
  | slot => exact hb

theorem undoes_fetch (h : Fetch l m) : Undoes [] l m := by
  have hview := fetch_view h
  have haccount : m.account = l.account := congrArg View.account hview
  have hslot : m.slot = l.slot := congrArg View.slot hview
  have hlogs : m.logs = l.logs := congrArg View.logs hview
  have hrest : m.store = l.store ∧ m.changes = l.changes := by
    cases h <;> simp
  exact ⟨hrest.1, fun _ => fetch_holds h, hrest.2, by rw [hlogs], by simp, hslot,
    fun _ => haccount, fun _ => by rw [supply, haccount, supply]⟩

theorem room_of_bounded (hl : l.Bounded) {source dest : Address} (hne : source ≠ dest) {v : Word}
    (hv : v ≤ (l.account source).balance) : (l.account dest).balance.toNat + v.toNat < 2 ^ 256 := by
  have hle := Accounts.add_le_supply l.account hne
  have hv' : v.toNat ≤ (l.account source).balance.toNat := hv
  have hl' : Accounts.supply l.account < 2 ^ 256 := hl
  omega

/-- Once the sender has paid, the receiver has room or there is too much money. -/
theorem undoes_pay {source dest : Address} (v : Word) (hs : l.Holds source) (hd : l.Holds dest)
    (hne : source ≠ dest) (hv : v ≤ (l.account source).balance) :
    ∃ ds, Undoes ds l (if 2 ^ 256 ≤
        (((l.adjustBalance source (· - v)).touch dest).account dest).balance.toNat + v.toNat
      then (l.adjustBalance source (· - v)).touch dest
      else (((l.adjustBalance source (· - v)).touch dest).adjustBalance dest (· + v)).list
        (.moved source dest v)) := by
  have haccount : ((l.adjustBalance source (· - v)).touch dest).account =
      Accounts.adjustBalance source (· - v) l.account := by
    rw [account_touch, account_adjustBalance hs]
  have hdest : ((l.adjustBalance source (· - v)).touch dest).account dest = l.account dest := by
    rw [haccount]
    simp [Accounts.adjustBalance, Ne.symm hne]
  obtain ⟨ts, htouched⟩ := marks_touch (l.adjustBalance source (· - v)) dest
  have hmarks := (marks_adjust l source _).trans htouched
  change Marks (ts ++ []) l ((l.adjustBalance source (· - v)).touch dest) at hmarks
  generalize (l.adjustBalance source (· - v)).touch dest = m at *
  rw [hdest]
  by_cases hover : 2 ^ 256 ≤ (l.account dest).balance.toNat + v.toNat
  · rw [if_pos hover]
    refine ⟨_, hmarks.undoes fun hl => ?_⟩
    have hroom := room_of_bounded hl hne hv
    omega
  · rw [if_neg hover]
    have hmoved : (m.adjustBalance dest (· + v)).account = Accounts.move source dest v l.account := by
      rw [account_adjustBalance ((hmarks.holds dest).mpr hd), haccount, Accounts.move]
    have hpaid := hmarks.trans (marks_adjust m dest fun h => { h with balance := h.balance + v })
    refine ⟨_, hpaid.undoes_list ⟨?_, ?_⟩ (fun _ => rfl) ?_ ?_⟩
    · exact (hpaid.holds source).mpr hs
    · exact (hpaid.holds dest).mpr hd
    · change Change.undoAccounts (m.adjustBalance dest (· + v)).account _ = _
      rw [hmoved, Accounts.undo_move hne]
    · change Accounts.supply (m.adjustBalance dest (· + v)).account = l.supply
      rw [hmoved, Accounts.supply_move hne hv (by omega), supply]

theorem undoes_move {source dest : Address} (v : Word) (hs : l.Holds source) (hd : l.Holds dest) :
    ∃ ds, Undoes ds l (move source dest v l).2 := by
  unfold move
  by_cases hne : source = dest
  · rw [if_pos hne]
    exact ⟨[], .refl l⟩
  rw [if_neg hne]
  by_cases hv : v = 0
  · rw [if_pos hv]
    exact undoes_touch l dest
  rw [if_neg hv]
  obtain ⟨ts, hts⟩ := undoes_touch l source
  by_cases hfunds : ((l.touch source).account source).balance < v
  · simp only [if_pos hfunds]
    exact ⟨ts, hts⟩
  · simp only [if_neg hfunds]
    obtain ⟨ds, hds⟩ := undoes_pay v (holds_touch.mpr hs) (holds_touch.mpr hd) hne
      (BitVec.not_lt.mp hfunds)
    rw [apply_ite Prod.snd]
    exact ⟨ds ++ ts, hts.trans hds⟩

theorem undoes_write (l : Ledger) (k : SlotKey) (w : Word) :
    Undoes [.slot k (l.slot k)] l
      (({ l with slots := l.slots.insert k w }).list (.slot k (l.slot k))) := by
  refine ⟨rfl, fun _ => id, rfl, List.prefix_rfl, by simp [Change.On], ?_, fun _ => rfl,
    fun _ => rfl⟩
  change Function.update (slot { l with slots := l.slots.insert k w }) k (l.slot k) = l.slot
  rw [slot_insert, Function.update_idem, Function.update_eq_self]

theorem undoes_log (l : Ledger) (g : Log) : Undoes [] l (l.addLog g) :=
  ⟨rfl, fun _ => id, rfl, List.prefix_append _ _, by simp, rfl, fun _ => rfl, fun _ => rfl⟩

theorem undoes_adjust {c : Change} (ha : l.Holds a) {f : Held → Held} {g : Account → Account}
    (hf : ∀ h, (f h).toAccount = g h.toAccount) (hbalance : ∀ x, (g x).balance = x.balance)
    (hon : c.On l) (hslots : ∀ s, c.undoSlots s = s)
    (hundo : c.undoAccounts (Function.update l.account a (g (l.account a))) = l.account) :
    Undoes [c] l ((l.adjust a f).list c) := by
  have haccount : (l.adjust a f).account = Function.update l.account a (g (l.account a)) :=
    account_adjust ha g hf
  refine (marks_adjust l a f).undoes_list (hon.mono fun b => holds_adjust.mpr) hslots ?_ ?_
  · rw [haccount, hundo]
  · rw [supply, haccount, supply]
    refine Finset.sum_congr rfl fun b _ => ?_
    by_cases hb : b = a
    · rw [hb, Function.update_self, hbalance]
    · rw [Function.update_of_ne hb]

theorem undoes_count (ha : l.Holds a) : Undoes [.nonce a] l
    ((l.adjust a fun h => { h with nonce := h.nonce + 1 }).list (.nonce a)) := by
  refine undoes_adjust ha (g := fun x => { x with nonce := x.nonce + 1 }) (fun _ => rfl)
    (fun _ => rfl) ha (fun _ => rfl) ?_
  simp [Change.undoAccounts]

theorem undoes_install (ha : l.Holds a) (hnone : (l.account a).code = []) (code : Octets) :
    Undoes [.code a] l
      ((l.adjust a fun h => { h with code, codeKnown := true }).list (.code a)) := by
  refine undoes_adjust ha (g := fun x => { x with code }) (fun _ => rfl) (fun _ => rfl) ha
    (fun _ => rfl) ?_
  simp [Change.undoAccounts, ← hnone]

end

section

variable {W : Writes}

theorem Step.undoes (h : Step W l m) : ∃ ds, Undoes ds l m := by
  cases h with
  | fetch hf => exact ⟨[], undoes_fetch hf⟩
  | @touch a => exact undoes_touch l a
  | @write k w _ => exact ⟨_, undoes_write l k w⟩
  | log => exact ⟨[], undoes_log l _⟩
  | @pay _ _ v hs hd => exact undoes_move v hs hd
  | count ha => exact ⟨_, undoes_count ha⟩
  | install ha hnone _ => exact ⟨_, undoes_install ha hnone _⟩

theorem Reaches.undoes (h : Reaches W l m) : ∃ ds, Undoes ds l m := by
  induction h with
  | refl => exact ⟨[], .refl _⟩
  | step _ hs ih =>
    obtain ⟨ds, hds⟩ := ih
    obtain ⟨es, hes⟩ := hs.undoes
    exact ⟨es ++ ds, hds.trans hes⟩
  | undone _ _ ih ih' =>
    obtain ⟨ds, hds⟩ := ih
    obtain ⟨es, hes⟩ := ih'
    exact ⟨ds, hds.undone hes⟩

theorem Reaches.revert_slot (h : Reaches W l m) : (m.revert l.checkpoint).slot = l.slot := by
  obtain ⟨ds, hds⟩ := h.undoes
  exact hds.revert_slot

theorem Reaches.revert_logs (h : Reaches W l m) : (m.revert l.checkpoint).logs = l.logs := by
  obtain ⟨ds, hds⟩ := h.undoes
  exact hds.revert_logs

theorem Reaches.revert_account (h : Reaches W l m) (hl : l.Bounded) :
    (m.revert l.checkpoint).account = l.account := by
  obtain ⟨ds, hds⟩ := h.undoes
  exact hds.revert_account hl

/-- What is undone up to a checkpoint leaves everything as it was there. -/
theorem Reaches.revert_view (h : Reaches W l m) (hl : l.Bounded) :
    (m.revert l.checkpoint).view = l.view := by
  rw [view, view, h.revert_account hl, h.revert_slot, h.revert_logs]

theorem Reaches.bounded (h : Reaches W l m) (hl : l.Bounded) : m.Bounded := by
  obtain ⟨ds, hds⟩ := h.undoes
  exact hds.bounded hl

theorem Reaches.store (h : Reaches W l m) : m.store = l.store := by
  obtain ⟨ds, hds⟩ := h.undoes
  exact hds.store

/-- Undoing everything that is done from here on brings back what lasts. -/
def Exact (l : Ledger) : Prop := ∀ m, Reaches .any l m → (m.revert l.checkpoint).view = l.view

theorem Bounded.exact (hl : l.Bounded) : l.Exact := fun _ h => h.revert_view hl

/-- While all the money there is fits a word, it does at every later ledger, so that undoing brings
back what was there from wherever a checkpoint is taken. -/
theorem Reaches.exact (h : Reaches W l m) (hl : l.Bounded) : m.Exact := (h.bounded hl).exact

theorem bounded_of_poor (h : ∀ a, (l.account a).balance = 0) : l.Bounded := by
  have hzero : l.supply = 0 := by simp [supply, Accounts.supply, h]
  rw [Bounded, hzero]
  exact Nat.two_pow_pos 256

end

theorem Reads.view (h : Reads l m) : m.view = l.view := by
  induction h with
  | refl => rfl
  | step _ hf ih => exact (fetch_view hf).trans ih

theorem Reads.account (h : Reads l m) : m.account = l.account := congrArg View.account h.view

theorem Reads.slot (h : Reads l m) : m.slot = l.slot := congrArg View.slot h.view

theorem Reads.holds (h : Reads l m) {a : Address} (ha : l.Holds a) : m.Holds a := by
  induction h with
  | refl => exact ha
  | step _ hf ih => exact fetch_holds hf ih

theorem Reads.checkpoint (h : Reads l m) : m.checkpoint = l.checkpoint := by
  induction h with
  | refl => rfl
  | step _ hf ih =>
    rw [← ih]
    cases hf with
    | account => rfl
    | code => simp [Ledger.checkpoint]
    | slot => rfl

theorem Reads.exact (h : Reads l m) (hl : l.Exact) : m.Exact := by
  intro n hn
  rw [h.checkpoint, hl n (h.reaches.trans hn), h.view]

end Ledger
end Inkwell
