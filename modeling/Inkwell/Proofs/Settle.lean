import Inkwell.Proofs.Reach
set_option autoImplicit false

/-! The end of a transaction. What is touched goes to the store as it stands, all of it or nothing
of an account, and what is not touched is as it was stored. -/

namespace Inkwell

namespace Table

variable {κ α β : Type} [DecidableEq κ]

theorem find?_eq_none {k : κ} {l : List (κ × α)} (h : k ∉ l.map Prod.fst) : find? k l = none := by
  induction l with
  | nil => rfl
  | cons p l ih =>
    simp only [List.map_cons, List.mem_cons, not_or] at h
    simp [find?, Ne.symm h.1, ih h.2]

theorem get?_foldl_insert (keep : κ × α → Prop) [DecidablePred keep] (g : α → β) (k : κ)
    (l : List (κ × α)) (h : (l.map Prod.fst).Nodup) (t : Table κ β) :
    (l.foldl (fun t p => if keep p then t.insert p.1 (g p.2) else t) t).get? k =
      match find? k l with
      | some v => if keep (k, v) then some (g v) else t.get? k
      | none => t.get? k := by
  induction l generalizing t with
  | nil => rfl
  | cons p l ih =>
    obtain ⟨x, v⟩ := p
    simp only [List.map_cons, List.nodup_cons] at h
    rw [List.foldl_cons, ih h.2]
    by_cases hx : x = k
    · subst hx
      by_cases hkeep : keep (x, v) <;> simp [find?, find?_eq_none h.1, hkeep]
    · have hne : k ≠ x := fun e => hx e.symm
      by_cases hkeep : keep (x, v) <;> simp [find?, hx, hkeep, get?_insert_of_ne _ _ hne]

end Table

namespace Ledger

variable {l : Ledger} {a : Address}

theorem slot_settle (l : Ledger) (k : SlotKey) : l.settle.slot k =
    if l.touchedAddresses.contains k.1 then l.slot k else l.store.slot k := by
  have hkept := Table.get?_foldl_insert (fun p : SlotKey × Word => l.touchedAddresses.contains p.1.1)
    id k l.slots.entries l.slots.distinct l.store.slots
  have hslot : l.settle.slot k = ((l.slots.entries.foldl (fun t p =>
      if l.touchedAddresses.contains p.1.1 then t.insert p.1 (id p.2) else t)
        l.store.slots).get? k).getD 0 := rfl
  rw [hslot, hkept]
  unfold slot Store.slot Table.get?
  cases Table.find? k l.slots.entries with
  | none => simp
  | some w =>
    by_cases htouched : l.touchedAddresses.contains k.1 = true
    · simp only [if_pos htouched, id, Option.getD_some]
    · simp only [if_neg htouched, Option.getD_some]

theorem account_settle (l : Ledger) (a : Address) :
    l.settle.account a = l.account a ∨ l.settle.account a = l.store.account a := by
  have hkept := Table.get?_foldl_insert (fun p : Address × Held => p.2.touched = true)
    Held.toAccount a l.held.entries l.held.distinct l.store.accounts
  have haccount : l.settle.account a = ((l.held.entries.foldl (fun t p =>
      if p.2.touched then t.insert p.1 p.2.toAccount else t) l.store.accounts).get? a).getD {} := rfl
  rw [haccount, hkept]
  unfold account Store.account Table.get?
  cases Table.find? a l.held.entries with
  | none => exact .inr rfl
  | some h =>
    by_cases htouched : h.touched = true
    · simp [htouched]
    · simp [htouched]

theorem slots_settle (l : Ledger) (a : Address) : (∀ s, l.settle.slot (a, s) = l.slot (a, s)) ∨
    ∀ s, l.settle.slot (a, s) = l.store.slot (a, s) := by
  by_cases htouched : l.touchedAddresses.contains a
  · exact .inl fun s => by rw [slot_settle, if_pos htouched]
  · exact .inr fun s => by rw [slot_settle, if_neg htouched]

def Stored (W : Writes) (l : Ledger) : Prop := ∀ a, W.code (l.store.account a).code

theorem coded_settle {W : Writes} (hl : l.Coded W) (hstore : l.Stored W) : l.settle.Coded W := by
  intro a
  rcases account_settle l a with h | h
  · rw [h]
    exact hl a
  · rw [h]
    exact hstore a

end Ledger
end Inkwell
