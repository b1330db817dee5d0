import Inkwell.Proofs.Journal
set_option autoImplicit false

/-! What every step on a ledger keeps, so that all keep it that is done and undone. -/

namespace Inkwell.Ledger

variable {l m : Ledger} {W : Writes}

theorem move_same {β : Type} (f : Ledger → β) (htouch : ∀ l a, f (touch a l) = f l)
    (hpay : ∀ l a g, f (adjustBalance a g l) = f l) (hlist : ∀ l c, f (list c l) = f l)
    (source dest : Address) (v : Word) (l : Ledger) : f (move source dest v l).2 = f l := by
  unfold move
  split
  · rfl
  · split
    · exact htouch l dest
    · dsimp only
      split
      · exact htouch l source
      · split
        · rw [htouch, hpay, htouch]
        · rw [hlist, hpay, htouch, hpay, htouch]

theorem slot_move (source dest : Address) (v : Word) (l : Ledger) :
    (move source dest v l).2.slot = l.slot :=
  move_same slot (fun _ _ => slot_touch) (fun _ _ _ => slot_adjust) (fun _ _ => rfl) source dest v l

theorem logs_move (source dest : Address) (v : Word) (l : Ledger) :
    (move source dest v l).2.logs = l.logs :=
  move_same logs (fun _ _ => logs_touch) (fun _ _ _ => logs_adjust) (fun _ _ => rfl) source dest v l

theorem Step.slot (h : Step W l m) : m.slot = l.slot ∨
    ∃ k w, W.slot l.slot k w ∧ m.slot = Function.update l.slot k w := by
  cases h with
  | fetch hf => exact .inl (congrArg View.slot (fetch_view hf))
  | touch => exact .inl slot_touch
  | @write k w hw => exact .inr ⟨k, w, hw, slot_insert l k w⟩
  | log => exact .inl rfl
  | pay => exact .inl (slot_move _ _ _ _)
  | count => exact .inl slot_adjust
  | install => exact .inl slot_adjust

/-- An invariant of the slots that every write keeps is kept, whatever is undone. -/
theorem Reaches.slot_inv {I : (SlotKey → Word) → Prop}
    (hW : ∀ f k w, W.slot f k w → I f → I (Function.update f k w)) (h : Reaches W l m) (hl : I l.slot) :
    I m.slot := by
  induction h with
  | refl => exact hl
  | step _ hs ih =>
    rcases hs.slot with hslot | ⟨k, w, hw, hslot⟩
    · rw [hslot]
      exact ih hl
    · rw [hslot]
      exact hW _ _ _ hw (ih hl)
  | undone _ h₂ ih _ =>
    rw [h₂.revert_slot]
    exact ih hl

def Coded (W : Writes) (l : Ledger) : Prop := ∀ a, W.code (l.account a).code

theorem coded_adjust {f : Held → Held} {a : Address} (h : l.Coded W)
    (hf : ∀ x : Held, W.code x.code → W.code (f x).code) : (l.adjust a f).Coded W := by
  intro b
  unfold account
  rw [held_adjust, store_adjust]
  have hb := h b
  unfold account at hb
  by_cases hba : b = a
  · subst hba
    rw [if_pos rfl]
    cases hheld : l.held.get? b with
    | none =>
      rw [hheld] at hb
      exact hb
    | some x =>
      rw [hheld] at hb
      exact hf x hb
  · rw [if_neg hba]
    exact hb

theorem coded_undo (hnone : W.code []) (c : Change) (h : l.Coded W) : (l.undo c).Coded W := by
  cases c with
  | touched a =>
    simp only [undo]
    split
    · exact h
    · exact coded_adjust h fun _ => id
  | slot k old => exact h
  | moved source dest v => exact coded_adjust (coded_adjust h fun _ => id) fun _ => id
  | balance a old | nonce a => exact coded_adjust h fun _ => id
  | code a => exact coded_adjust h fun _ _ => hnone

theorem coded_revert (hnone : W.code []) (c : Checkpoint) (h : l.Coded W) :
    (l.revert c).Coded W := by
  change (List.foldl undo l (l.changes.take (l.changes.length - c.changes))).Coded W
  generalize l.changes.take (l.changes.length - c.changes) = ds
  induction ds generalizing l with
  | nil => exact h
  | cons d ds ih => exact ih (coded_undo hnone d h)

theorem coded_touch {a : Address} (h : l.Coded W) : (l.touch a).Coded W := by
  intro b
  rw [account_touch]
  exact h b

theorem coded_move (source dest : Address) (v : Word) (h : l.Coded W) :
    (move source dest v l).2.Coded W := by
  unfold move
  split
  · exact h
  · split
    · exact coded_touch h
    · dsimp only
      split
      · exact coded_touch h
      · have hpaid := coded_touch (a := dest)
          (coded_adjust (a := source) (f := fun x => { x with balance := x.balance - v })
            (coded_touch (a := source) h) fun _ => id)
        split
        · exact hpaid
        · exact coded_adjust hpaid fun _ => id

theorem Step.coded (hs : Step W l m) (h : l.Coded W) : m.Coded W := by
  cases hs with
  | fetch hf =>
    intro a
    have haccount : m.account = l.account := congrArg View.account (fetch_view hf)
    rw [haccount]
    exact h a
  | touch => exact coded_touch h
  | write | log => exact h
  | pay => exact coded_move _ _ _ h
  | count => exact coded_adjust h fun _ => id
  | install _ _ hcode => exact coded_adjust h fun _ _ => hcode

theorem Reaches.coded (hnone : W.code []) (h : Reaches W l m) (hl : l.Coded W) : m.Coded W := by
  induction h with
  | refl => exact hl
  | step _ hs ih => exact hs.coded (ih hl)
  | undone _ _ ih ih' => exact coded_revert hnone _ (ih' (ih hl))

end Inkwell.Ledger
