import Inkwell.Proofs.Told
set_option autoImplicit false

/-! What can be told is told to who pays for it. Whatever was read or written once can be told from
then on, whatever else is done or undone. -/

namespace Inkwell

namespace Ledger

variable {W : Writes} {l m : Ledger} {k : SlotKey} {a : Address} {slot w : Word} {f : Held → Held}

def HoldsSlot (l : Ledger) (k : SlotKey) : Prop := (l.slots.get? k).isSome

theorem holdsSlot_insert {x : SlotKey} (h : l.HoldsSlot k ∨ k = x) :
    HoldsSlot { l with slots := l.slots.insert x w } k := by
  unfold HoldsSlot at h ⊢
  dsimp only
  rw [Table.get?_insert]
  by_cases hk : k = x
  · rw [if_pos hk]
    rfl
  · rw [if_neg hk]
    exact h.resolve_right hk

theorem slots_undo (c : Change) (h : l.HoldsSlot k) : (l.undo c).HoldsSlot k := by
  unfold HoldsSlot at *
  cases c with
  | touched a =>
    simp only [undo]
    split
    · exact h
    · rwa [slots_adjust]
  | slot x old => exact holdsSlot_insert (.inl h)
  | moved source dest v => simpa only [undo, adjustBalance, slots_adjust] using h
  | balance a old | nonce a | code a => simpa only [undo, adjustBalance, slots_adjust] using h

theorem holdsSlot_revert (c : Checkpoint) (h : l.HoldsSlot k) : (l.revert c).HoldsSlot k := by
  change (List.foldl undo l (l.changes.take (l.changes.length - c.changes))).HoldsSlot k
  generalize l.changes.take (l.changes.length - c.changes) = ds
  induction ds generalizing l with
  | nil => exact h
  | cons d ds ih => exact ih (slots_undo d h)

theorem slots_touch : (l.touch a).slots = l.slots := by
  rcases touch_cases l a with h | ⟨-, h⟩ <;> rw [h]
  exact slots_adjust

theorem Step.holdsSlot (hs : Step W l m) (h : l.HoldsSlot k) : m.HoldsSlot k := by
  cases hs with
  | fetch hf =>
    cases hf with
    | account => exact h
    | code => rwa [HoldsSlot, slots_adjust]
    | slot => exact holdsSlot_insert (.inl h)
  | touch => rwa [HoldsSlot, slots_touch]
  | write => exact holdsSlot_insert (.inl h)
  | log => exact h
  | pay =>
    rwa [HoldsSlot, move_same slots (fun _ _ => slots_touch) (fun _ _ _ => slots_adjust) fun _ _ => rfl]
  | count | install => rwa [HoldsSlot, list, slots_adjust]

theorem Reaches.holdsSlot (h : Reaches W l m) (hl : l.HoldsSlot k) : m.HoldsSlot k := by
  induction h with
  | refl => exact hl
  | step _ hs ih => exact hs.holdsSlot (ih hl)
  | undone _ _ ih ih' => exact holdsSlot_revert _ (ih' (ih hl))

theorem Reaches.holds (h : Reaches W l m) (ha : l.Holds a) : m.Holds a := by
  obtain ⟨ds, hds⟩ := h.undoes
  exact hds.held a ha

/-- A slot of the state can be told. -/
structure Known (l : Ledger) (slot : Word) : Prop where
  account : (l.account? stateAccount).isSome
  slot : (l.slot? (stateAccount, slot)).isSome

theorem Known.of_tells (h : l.Known slot) (htells : l.Tells m) : m.Known slot :=
  ⟨by rw [htells.account]; exact h.account, by rw [htells.slot]; exact h.slot⟩

theorem Known.slot? (h : l.Known slot) :
    l.slot? (stateAccount, slot) = some (l.view.state slot) := by
  have hsome := h.slot
  unfold Ledger.slot? at hsome ⊢
  split at hsome
  · rename_i hcan
    rw [if_pos hcan]
    rfl
  · cases hsome

theorem account?_isSome : (l.account? a).isSome ↔ l.Holds a ∨ a ∉ l.store.outage.accounts := by
  unfold account? Holds
  split <;> simp_all

theorem slot?_isSome : (l.slot? k).isSome ↔ l.HoldsSlot k ∨ l.store.outage.storage = false := by
  unfold slot? HoldsSlot
  split <;> simp_all

theorem Known.reaches (h : l.Known slot) (hr : Reaches W l m) : m.Known slot := by
  refine ⟨account?_isSome.mpr ?_, slot?_isSome.mpr ?_⟩
  · rw [hr.store]
    exact (account?_isSome.mp h.account).imp_left hr.holds
  · rw [hr.store]
    exact (slot?_isSome.mp h.slot).imp_left hr.holdsSlot

theorem known_of_holds (ha : l.Holds stateAccount) (hk : l.HoldsSlot (stateAccount, slot)) :
    l.Known slot := ⟨account?_isSome.mpr (.inl ha), slot?_isSome.mpr (.inl hk)⟩

theorem holdsSlot_of_read (h : Gives (read k) l w m) : m.HoldsSlot k := by
  unfold Gives at h
  rw [outcome_read] at h
  unfold HoldsSlot
  cases hslot : l.slots.get? k with
  | some w' =>
    rw [hslot] at h
    obtain ⟨-, rfl⟩ := Prod.mk.inj h
    rw [hslot]
    rfl
  | none =>
    rw [hslot] at h
    by_cases hout : l.store.outage.storage
    · simp only [if_pos hout] at h
      cases h
    · simp only [if_neg hout] at h
      cases h
      rw [Table.get?_insert_self]
      rfl

theorem holdsSlot_of_write {u : Unit} (h : Gives (write k w) l u m) : m.HoldsSlot k := by
  obtain ⟨old, t, hread, h⟩ := gives_bind.mp h
  have ht := holdsSlot_of_read hread
  by_cases hsame : old ≠ w
  · rw [if_pos hsame] at h
    rw [← gives_modify.mp h]
    exact holdsSlot_insert (.inl ht)
  · rw [if_neg hsame] at h
    rwa [← (gives_pure.mp h).2]

end Ledger

/-! ### What was read or written -/

namespace Access

variable {d e : Desk} {slot w : Word}

theorem known_of_load (h : Gives (load slot) d w e) : e.ledger.Known slot := by
  obtain ⟨u, t, -, h⟩ := gives_bind.mp h
  obtain ⟨l, hl, rfl⟩ := gives_onLedger h
  obtain ⟨a, m, hhold, hread⟩ := gives_bind.mp hl
  exact Ledger.known_of_holds ((Ledger.keeps_read.of_gives hread).holds (Ledger.gives_hold hhold).2)
    (Ledger.holdsSlot_of_read hread)

theorem known_of_loadNat {bits n : Nat} (h : Gives (loadNat bits slot) d n e) :
    e.ledger.Known slot := by
  obtain ⟨w, t, hload, h⟩ := gives_bind.mp h
  obtain ⟨-, rfl⟩ := gives_pure.mp h
  exact known_of_load hload

theorem known_of_store {u : Unit} (h : Gives (store slot w) d u e) : e.ledger.Known slot := by
  obtain ⟨d', t, -, h⟩ := gives_bind.mp h
  obtain ⟨-, h⟩ := gives_guard.mp h
  obtain ⟨u₁, t₁, -, h⟩ := gives_bind.mp h
  obtain ⟨l, hl, rfl⟩ := gives_onLedger h
  obtain ⟨a, m, hhold, hl⟩ := gives_bind.mp hl
  obtain ⟨u₂, n, hwrite, hl⟩ := gives_bind.mp hl
  have hn : n.Holds stateAccount := by
    have hreaches : Ledger.Reaches .any m n :=
      (Ledger.keepsFrom_write (W := .any) trivial).of_gives hwrite
    exact hreaches.holds (Ledger.gives_hold hhold).2
  rw [← gives_modify.mp hl]
  refine Ledger.known_of_holds (Ledger.holds_touch.mpr hn) ?_
  rw [Ledger.HoldsSlot, Ledger.slots_touch]
  exact Ledger.holdsSlot_of_write hwrite

end Access

namespace Ledger

variable {W : Writes} {l m : Ledger} {h : Word}

structure KnowsParams (l : Ledger) : Prop where
  word : l.Known Layout.paramsWord
  pageRamp : l.Known Layout.pageRamp

structure KnowsRecord (l : Ledger) (codeHash : Word) : Prop where
  data : l.Known (Layout.recordData codeHash)
  lifetime : l.Known (Layout.recordLifetime codeHash)
  fee : l.Known (Layout.recordFee codeHash)

theorem KnowsParams.reaches (hl : l.KnowsParams) (hr : Reaches W l m) : m.KnowsParams :=
  ⟨hl.word.reaches hr, hl.pageRamp.reaches hr⟩

theorem KnowsRecord.reaches (hl : l.KnowsRecord h) (hr : Reaches W l m) : m.KnowsRecord h :=
  ⟨hl.data.reaches hr, hl.lifetime.reaches hr, hl.fee.reaches hr⟩

theorem KnowsParams.of_tells (hl : l.KnowsParams) (htells : l.Tells m) : m.KnowsParams :=
  ⟨hl.word.of_tells htells, hl.pageRamp.of_tells htells⟩

theorem KnowsRecord.of_tells (hl : l.KnowsRecord h) (htells : l.Tells m) : m.KnowsRecord h :=
  ⟨hl.data.of_tells htells, hl.lifetime.of_tells htells, hl.fee.of_tells htells⟩

end Ledger

namespace State

open Access

variable {d e : Desk} {h : Word} {r : Record}

theorem known_of_params {p : Params} (hg : Gives params d p e) : e.ledger.KnowsParams := by
  obtain ⟨u, t, -, hg⟩ := gives_bind.mp hg
  obtain ⟨e', hfree, rfl⟩ := gives_free hg
  obtain ⟨w, t₁, hword, hfree⟩ := gives_bind.mp hfree
  obtain ⟨n, t₂, hramp, hfree⟩ := gives_bind.mp hfree
  obtain ⟨-, rfl⟩ := gives_pure.mp hfree
  have hknown := known_of_loadNat hramp
  exact ⟨(known_of_load hword).of_tells (keeps_loadNat.of_gives hramp).tells, hknown⟩

theorem known_of_record? (hg : Gives (record? h) d (some r) e) : e.ledger.KnowsRecord h := by
  obtain ⟨data, d₁, hdata, hg⟩ := gives_bind.mp hg
  by_cases hzero : data = 0
  · rw [if_pos hzero] at hg
    cases (gives_pure.mp hg).1
  · rw [if_neg hzero] at hg
    obtain ⟨lifetime, d₂, hlifetime, hg⟩ := gives_bind.mp hg
    obtain ⟨fee, d₃, hfee, hg⟩ := gives_bind.mp hg
    obtain ⟨-, rfl⟩ := gives_pure.mp hg
    have htells₂ : d₁.ledger.Tells d₂.ledger := (keeps_load.of_gives hlifetime).tells
    have htells₃ : d₂.ledger.Tells d₃.ledger := (keeps_load.of_gives hfee).tells
    exact ⟨(known_of_load hdata).of_tells (htells₂.trans htells₃),
      (known_of_load hlifetime).of_tells htells₃, known_of_load hfee⟩

theorem known_of_setRecord {u : Unit} (hg : Gives (setRecord h r) d u e) :
    e.ledger.KnowsRecord h := by
  obtain ⟨u₁, d₁, h₁, hg⟩ := gives_bind.mp hg
  obtain ⟨u₂, d₂, h₂, hg⟩ := gives_bind.mp hg
  have hreaches : ∀ {slot w d u e}, Gives (store slot w) d u e →
      d.ledger.Reaches .any e.ledger := fun hstore =>
    (keeps_store (W := .any) fun _ => trivial).of_gives hstore
  exact ⟨((known_of_store h₁).reaches (hreaches h₂)).reaches (hreaches hg),
    (known_of_store h₂).reaches (hreaches hg), known_of_store hg⟩

end State

/-! ### Accounts that can be fetched -/

namespace Ledger

variable {l m : Ledger} {a : Address}

/-- The account and its code can be fetched. -/
structure Loadable (l : Ledger) (a : Address) : Prop where
  account : (l.account? a).isSome
  code : l.store.outage.code = false

theorem Loadable.of_reads (h : l.Loadable a) (hreads : l.Reads m) : m.Loadable a where
  account := by rw [hreads.tells.account]; exact h.account
  code := by rw [(Reaches.store (W := .any) hreads.reaches)]; exact h.code

theorem hold_of_account (h : (l.account? a).isSome) : ∃ x m, Gives (hold a) l x m := by
  obtain ⟨x, hx⟩ := Option.isSome_iff_exists.mp h
  have htold := told_hold a l
  rw [hx] at htold
  unfold Gives
  rcases hheld : outcome (hold a) l with ⟨y, m⟩
  rw [hheld] at htold
  cases y with
  | error e => cases htold
  | ok y => exact ⟨y, m, rfl⟩

theorem hold_of_loadable (h : l.Loadable a) : ∃ x m, Gives (hold a) l x m := hold_of_account h.account

theorem holdCode_of_loadable (h : l.Loadable a) : ∃ code m, Gives (holdCode a) l code m := by
  obtain ⟨x, m, hx⟩ := hold_of_loadable h
  have hm : m.Loadable a := h.of_reads (keeps_hold.of_gives hx)
  by_cases hknown : x.codeKnown
  · refine ⟨x.code, m, hx.bind ?_⟩
    rw [if_pos hknown]
    exact gives_pure.mpr ⟨rfl, rfl⟩
  · refine ⟨x.code, m.adjust a fun h => { h with codeKnown := true }, hx.bind ?_⟩
    rw [if_neg hknown]
    refine (gives_get.mpr ⟨rfl, rfl⟩).bind (gives_guard.mpr ⟨by simp [hm.code], ?_⟩)
    exact (gives_modify (a := ⟨⟩).mpr rfl).bind (gives_pure.mpr ⟨rfl, rfl⟩)

theorem codeHash_of_loadable (h : l.Loadable a) : ∃ w m, Gives (codeHash a) l w m := by
  obtain ⟨code, m, hcode⟩ := holdCode_of_loadable h
  obtain ⟨x, n, hx⟩ := hold_of_loadable (h.of_reads (keeps_holdCode.of_gives hcode))
  exact ⟨_, n, hcode.bind (hx.bind (gives_pure.mpr ⟨rfl, rfl⟩))⟩

end Ledger

/-! ### Answers -/

namespace Access

variable {α β : Type} {l : Ledger} {n k : Nat} {slot : Word}

/-- Wherever a ledger can tell the same, the work gives an answer to who has enough to pay with. -/
def Answers (m : Access α) (l : Ledger) (cost : Nat) (a : α) : Prop :=
  ∀ d, l.Tells d.ledger → (∀ left ∈ d.gas, cost ≤ left) →
    ∃ e, Gives m d a e ∧ e.gas = d.gas.map (· - cost)

theorem Answers.of_tells {m : Access α} {a : α} {l' : Ledger} (hm : Answers m l n a)
    (htells : l.Tells l') : Answers m l' n a := fun d hd => hm d (htells.trans hd)

theorem answers_pure (a : α) : Answers (pure a) l 0 a := by
  intro d _ _
  refine ⟨d, gives_pure.mpr ⟨rfl, rfl⟩, ?_⟩
  cases d.gas <;> rfl

theorem Answers.bind {m : Access α} {f : α → Access β} {a : α} {b : β} (hm : Answers m l n a)
    (hreads : Keeps (Desk.Over Ledger.Reads) m) (hf : Answers (f a) l k b) :
    Answers (m >>= f) l (n + k) b := by
  intro d htells hgas
  obtain ⟨e, he, hleft⟩ := hm d htells fun left h => (Nat.le_add_right n k).trans (hgas left h)
  have htells' : l.Tells e.ledger := htells.trans (hreads.of_gives he).tells
  obtain ⟨e', he', hleft'⟩ := hf e htells' fun left h => by
    rw [hleft] at h
    obtain ⟨left', hmem, rfl⟩ := Option.mem_map.mp h
    have henough := hgas left' hmem
    omega
  refine ⟨e', gives_bind.mpr ⟨a, e, he, he'⟩, ?_⟩
  rw [hleft', hleft, Option.map_map]
  exact congrArg (fun g => d.gas.map g) (funext fun left => Nat.sub_sub left n k)

theorem answers_pay (cost : Nat) : Answers (pay cost) l cost ⟨⟩ := by
  intro d _ hgas
  unfold Gives
  rw [outcome_pay]
  cases hd : d.gas with
  | none => exact ⟨d, rfl, hd⟩
  | some left =>
    have henough : ¬ left < cost := Nat.not_lt.mpr (hgas left (by simp [hd]))
    exact ⟨{ d with gas := some (left - cost) }, if_neg henough, rfl⟩

theorem answers_free {m : Access α} {a : α} (hm : Answers m l n a) : Answers (free m) l 0 a := by
  intro d htells _
  obtain ⟨e, he, -⟩ := hm { d with gas := none } htells (by simp)
  refine ⟨{ e with gas := d.gas }, ?_, by cases d.gas <;> rfl⟩
  unfold Gives at he ⊢
  rw [outcome_free, he]

theorem answers_load (hk : l.Known slot) : Answers (load slot) l Gas.read (l.view.state slot) := by
  refine Answers.bind (k := 0) (answers_pay _) (keeps_pay _) fun d htells _ => ?_
  obtain ⟨x, hx⟩ := Option.isSome_iff_exists.mp (htells.account _ ▸ hk.account)
  have hslot : d.ledger.slot? (stateAccount, slot) = some (l.view.state slot) := by
    rw [htells.slot, hk.slot?]
  have htold := told_slot stateAccount (stateAccount, slot) d.ledger
  rw [hx, hslot] at htold
  refine ⟨_, Prod.ext ?_ rfl, ?_⟩
  · rw [outcome_onLedger]
    dsimp only
    rw [htold]
    rfl
  · rw [outcome_onLedger]
    cases d.gas <;> rfl

theorem answers_loadNat {bits : Nat} (hk : l.Known slot) :
    Answers (loadNat bits slot) l Gas.read (l.view.stateNat bits slot) :=
  (answers_load hk).bind (k := 0) keeps_load (answers_pure _)

theorem answers_guard {c : Prop} [Decidable c] {x : ProgramError} {f : PUnit → Access α} {a : α}
    (hc : ¬ c) (hf : Answers (f ⟨⟩) l n a) :
    Answers (if c then throw x >>= f else f ⟨⟩) l n a := by
  rw [if_neg hc]
  exact hf

end Access

namespace State

open Access

variable {l : Ledger} {p : Params} {h : Word} {r : Record} {now : Nat}

theorem answers_params (hl : l.KnowsParams) : Answers params l Gas.readParams l.view.params :=
  (answers_pay _).bind (k := 0) (keeps_pay _) (answers_free ((answers_load hl.word).bind keeps_load
    ((answers_loadNat hl.pageRamp).bind (k := 0) keeps_loadNat (answers_pure _))))

theorem answers_feeAccount (hl : l.Known Layout.feeAccount) :
    Answers feeAccount l Gas.read l.view.feeAccount :=
  (answers_load hl).bind (k := 0) keeps_load (answers_pure _)

def recordGas : Nat := Gas.read + (Gas.read + Gas.read)

theorem answers_record? (hl : l.KnowsRecord h) (hr : l.view.record? h = some r) :
    Answers (record? h) l recordGas (some r) := by
  unfold View.record? at hr
  dsimp only at hr
  refine (answers_load hl.data).bind keeps_load ?_
  by_cases hzero : l.view.state (Layout.recordData h) = 0
  · rw [if_pos hzero] at hr
    cases hr
  · rw [if_neg hzero] at hr ⊢
    rw [← hr]
    exact (answers_load hl.lifetime).bind keeps_load
      ((answers_load hl.fee).bind (k := 0) keeps_load (answers_pure _))

theorem answers_noRecord (hl : l.Known (Layout.recordData h)) (hr : l.view.record? h = none) :
    Answers (record? h) l Gas.read none := by
  unfold View.record? at hr
  dsimp only at hr
  refine (answers_load hl).bind (k := 0) keeps_load ?_
  by_cases hzero : l.view.state (Layout.recordData h) = 0
  · rw [if_pos hzero]
    exact answers_pure _
  · rw [if_neg hzero] at hr
    cases hr

/-- A record of the current version that has not expired may run, unless it is of no version. -/
theorem answers_activeRecord (hl : l.KnowsRecord h) (hr : l.view.record? h = some r)
    (hactivated : r.version ≠ 0) (hversion : r.version = p.version)
    (hlive : r.isExpired now = false) : Answers (activeRecord p now h) l recordGas r :=
  (answers_record? hl hr).bind (k := 0) keeps_record? (answers_guard hactivated
    (answers_guard (not_not.mpr hversion) (answers_guard (by simp [hlive]) (answers_pure _))))

end State
end Inkwell
