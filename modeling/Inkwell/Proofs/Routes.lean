import Inkwell.Proofs.Progress
import Mathlib.Data.BitVec
import Mathlib.Tactic.Ring
set_option autoImplicit false

/-! The two ways to activate a program, to ask for it and to call the program, leave the same state and
cost the same. -/

namespace Inkwell

namespace Accounts

def Alike (f g : Accounts) : Prop := ∀ a, ∃ b, g a = { f a with balance := b }

theorem alike_self (f : Accounts) : Alike f f := fun a => ⟨(f a).balance, rfl⟩

theorem Alike.move {f g : Accounts} (h : Alike f g) (source dest : Address) (v : Word) :
    Alike f (move source dest v g) := by
  intro a
  obtain ⟨b, hb⟩ := h a
  obtain ⟨b', hb'⟩ := exists_move source dest v g a
  exact ⟨b', by rw [hb', hb]⟩

theorem Alike.eq {f g g' : Accounts} (h : Alike f g) (h' : Alike f g')
    (hbalance : ∀ a, (g a).balance = (g' a).balance) : g = g' := by
  funext a
  obtain ⟨b, hb⟩ := h a
  obtain ⟨b', hb'⟩ := h' a
  have hsame := hbalance a
  rw [hb, hb'] at hsame
  rw [hb, hb', show b = b' from hsame]

theorem move_through (payer via receiver : Address) (value fee : Word) (f : Accounts) :
    move via payer (value - fee) (move via receiver fee (move payer via value f)) =
      move payer receiver fee f := by
  have hrest : ∀ a b : Address, (if a = b then value - fee else 0) =
      (if a = b then value else 0) - (if a = b then fee else 0) := by
    intro a b
    split_ifs <;> simp
  refine Alike.eq ((((alike_self f).move _ _ _).move _ _ _).move _ _ _) ((alike_self f).move _ _ _)
    fun a => ?_
  -- words add up whatever anybody has, and whichever of the three are the same
  simp only [balance_move, hrest]
  ring

theorem move_move (payer receiver : Address) (v v' : Word) (f : Accounts) :
    move payer receiver v' (move payer receiver v f) = move payer receiver (v + v') f := by
  have hsum : ∀ a b : Address, (if a = b then v + v' else 0) =
      (if a = b then v else 0) + (if a = b then v' else 0) := by
    intro a b
    split_ifs <;> simp
  refine Alike.eq (((alike_self f).move _ _ _).move _ _ _) ((alike_self f).move _ _ _) fun a => ?_
  simp only [balance_move, hsum]
  ring

end Accounts

namespace World

variable {w : World} {codeHash : Word} {wasm : Octets} {c : Call}

theorem current_of_active (h : w.Active codeHash) : ∃ r, w.ledger.view.Current w.now codeHash r := by
  obtain ⟨p, w₁, r, w₂, hp, hr⟩ := h
  have hreads : w.Reading w₁ := (reading_onState State.keeps_params).of_gives hp
  obtain ⟨d, hd, -⟩ := gives_onState hp
  obtain ⟨e, he, -⟩ := gives_onState hr
  have hparams : p = w.ledger.view.params := State.gives_params hd
  obtain ⟨hrecord, -, hversion, hlive⟩ := State.gives_activeRecord he
  dsimp only at hrecord
  rw [hreads.view] at hrecord
  rw [hreads.now] at hlive
  exact ⟨r, hrecord, hparams ▸ hversion, hlive⟩

/-- What is activated, and what that leaves in the slots, depends on the slots and the caches. -/
theorem Activates.unique {l m : Ledger} {a a' : Activation} {v v' : View}
    (hslot : l.view.slot = m.view.slot)
    (h : Activates { w with ledger := l } codeHash wasm a v)
    (hloads : Loads { w with ledger := l } wasm a.artifact)
    (h' : Activates { w with ledger := m } codeHash wasm a' v')
    (hloads' : Loads { w with ledger := m } wasm a'.artifact) : a = a' ∧ v.slot = v'.slot := by
  have hparams : l.view.params = m.view.params := View.params_of_slot hslot
  have hartifact : a.artifact = a'.artifact := by
    obtain ⟨x, hx, hload⟩ := hloads
    obtain ⟨x', hx', hload'⟩ := hloads'
    simp only [settings, hparams] at hload hload'
    rw [← hx, ← hx', Except.ok.inj (hload.symm.trans hload')]
  have hsame : a = a' := by
    obtain ⟨artifact, ha⟩ := h.activation
    obtain ⟨artifact', ha'⟩ := h'.activation
    have hentered : artifact = artifact' := by
      rw [ha, ha'] at hartifact
      exact hartifact
    simp only [hparams, View.pinned_of_slot hslot, hentered] at ha ha'
    rw [ha, ha', View.activation_of_slot hslot]
  subst hsame
  refine ⟨rfl, ?_⟩
  rw [h.view, h'.view]
  exact View.slot_activated_congr hslot codeHash w.block a

theorem Activates.same {hash : Word → Prop} {a : Activation} {v : View} (hA : Layout.Apart hash)
    (hh : hash codeHash) (h : w.Activates codeHash wasm a v) :
    v.account = w.ledger.account ∧ v.feeAccount = w.ledger.view.feeAccount := by
  rw [h.view]
  exact ⟨rfl, View.feeAccount_activated hA hh⟩

theorem Activates.of_view {l : Ledger} {a : Activation} {v : View}
    (h : Activates { w with ledger := l } codeHash wasm a v) (hview : l.view = w.ledger.view) :
    w.Activates codeHash wasm a v := by
  obtain ⟨w₁, w₂, hstart, hblock, hconfig, hgives, hend⟩ := h
  exact ⟨w₁, w₂, hstart.trans hview, hblock, hconfig, hview ▸ hgives, hend⟩

theorem Paid.eq {pay : Bool} {v u : View} (h : Paid pay c v u) (hvalue : c.value = 0) : u = v := by
  cases pay with
  | true =>
    have hpaid := View.Pays.paid h
    rwa [hvalue, View.pay_zero] at hpaid
  | false => exact h

end World

namespace SystemContract

variable {c : Call} {w : World} {v : View} {arg : Word}

/-- An activation that is asked for, of a program that is not active, enters it; the value of the call
pays for that, and the rest of it goes back. -/
theorem Effect.entered (h : Effect c w v) (hasks : Asks c programsAddress "activateProgram(address)")
    (harg : argument? c = some arg)
    (hhash : w.ledger.view.codeHash (Address.ofWord arg) =
      keccak (w.ledger.account (Address.ofWord arg)).code)
    (hnone : ∀ r, ¬ w.ledger.view.Current w.now
      (keccak (w.ledger.account (Address.ofWord arg)).code) r) :
    ∃ wasm a entered u,
      Package.module? w.ledger.view.params.maxWasmSize.toNat
          (w.ledger.account (Address.ofWord arg)).code = .ok (some wasm) ∧
        w.Activates (keccak (w.ledger.account (Address.ofWord arg)).code) wasm a entered ∧
        w.Loads wasm a.artifact ∧ View.Pays c.target entered.feeAccount a.fee entered u ∧
        v.slot = u.slot ∧ v.account = Accounts.move c.target c.caller (c.value - a.fee) u.account := by
  cases h with
  | nothing hidle => exact absurd hasks.selector (hidle hasks.codeAt _ (by simp [paying]))
  | handedBack _ harg' hcurrent =>
    obtain rfl := Option.some.inj (harg.symm.trans harg')
    rw [hhash] at hcurrent
    exact absurd hcurrent (hnone _)
  | @activated arg' codeHash wasm a entered u t _ harg' hcode hmodule _ hactivates _ hcharged hback
      hloads =>
    obtain rfl := Option.some.inj (harg.symm.trans harg')
    subst hcode
    exact ⟨wasm, a, entered, u, hmodule, hactivates, hloads, hcharged, hback.slot,
      congrArg View.account hback.paid⟩
  | keptAlive hasks' => exact absurd hasks' hasks.not_keepalive
  | pinned hasks' => exact absurd (hasks.codeAt.symm.trans hasks'.codeAt) (by decide)
  | unpinned hasks' => exact absurd (hasks.codeAt.symm.trans hasks'.codeAt) (by decide)

end SystemContract

namespace World

open SystemContract

variable {w : World} {x c : Call} {arg : Word} {runner : Runner} {frame : Option Bool}
  {r s : CallResult}

theorem effect_of_returned {callee : Callee} (h : (w.invoke frame callee c).1 = some r)
    (hr : r.succeeded = true) : ∃ l, Paid (frame.getD false) c w.ledger.view l.view ∧
      callee.Effect c { w with ledger := l } (w.invoke frame callee c).2.ledger.view := by
  rcases invoke_ends frame callee c w with ⟨-, l, -, -, hpaid, heffect⟩ | ⟨hfails, -⟩
  · exact ⟨l, hpaid, heffect⟩
  · rw [hfails r h] at hr
    cases hr

/-- A program that is not active, as there is no record of it, or one of another version, or one that
has expired, can be activated by asking for it, with some value, and by calling it, with none. If both
return, slots and accounts are the same after the one as after the other: the activation is one and the
same, and whoever asks or calls has paid its fee, and nothing else. -/
theorem routes_agree (hasks : Asks x programsAddress "activateProgram(address)")
    (harg : argument? x = some arg) (hcode : c.codeAt = Address.ofWord arg)
    (hcaller : c.caller = x.caller) (hvalue : c.value = 0)
    (hnone : ∀ r, ¬ w.ledger.view.Current w.now (keccak (w.ledger.account c.codeAt).code) r)
    (hx : (w.invoke (some true) .system x).1 = some r) (hr : r.succeeded = true)
    (hc : (w.invoke frame (.program runner) c).1 = some s) (hs : s.succeeded = true) :
    let v := (w.invoke (some true) .system x).2.ledger.view
    let u := (w.invoke frame (.program runner) c).2.ledger.view
    v.slot = u.slot ∧ v.account = u.account ∧ ∃ wasm a entered,
      Package.module? w.ledger.view.params.maxWasmSize.toNat (w.ledger.account c.codeAt).code =
          .ok (some wasm) ∧
        w.Activates (keccak (w.ledger.account c.codeAt).code) wasm a entered ∧
        u.slot = entered.slot ∧
        u.account = Accounts.move x.caller u.feeAccount a.fee w.ledger.account := by
  obtain ⟨l, hpaid, hcalled⟩ := effect_of_returned hc hs
  obtain ⟨m, hmoved, hasked⟩ := effect_of_returned hx hr
  generalize (w.invoke frame (.program runner) c).2.ledger.view = u at hcalled ⊢
  generalize (w.invoke (some true) .system x).2.ledger.view = v at hasked ⊢
  have hview : l.view = w.ledger.view := hpaid.eq hvalue
  have haccount : l.account = w.ledger.account := congrArg View.account hview
  have hslot : m.view.slot = l.view.slot := by rw [hmoved.same.1, hview]
  have hcodes : (m.account (Address.ofWord arg)).code = (l.account c.codeAt).code := by
    rw [hcode, haccount]
    exact hmoved.same.2.2 _
  rw [← haccount, ← hview] at hnone ⊢
  cases hcalled with
  | ran hactive =>
    obtain ⟨r, hcurrent⟩ := current_of_active hactive
    exact absurd hcurrent (hnone r)
  | @activated codeHash wasm a entered _ hhash _ _ _ hmodule hactivates hpays hloads =>
    subst hhash
    -- what is asked for is the same activation
    have hprogram := hmodule
    rw [← hcodes] at hprogram
    obtain ⟨wasm', a', entered', t, hmodule', hactivates', hloads', hcharged, hleft, hback⟩ :=
      hasked.entered hasks harg (codeHash_of_module hprogram) fun r hcurrent =>
        hnone r (hcodes ▸ hcurrent.of_slot hslot.symm)
    change Package.module? m.view.params.maxWasmSize.toNat (m.account (Address.ofWord arg)).code =
      .ok (some wasm') at hmodule'
    rw [hcodes, View.params_of_slot hslot] at hmodule'
    rw [show keccak (m.account (Address.ofWord arg)).code = keccak (l.account c.codeAt).code from
      congrArg keccak hcodes] at hactivates'
    obtain rfl : wasm' = wasm := Option.some.inj (Except.ok.inj (hmodule'.symm.trans hmodule))
    obtain ⟨rfl, hentered⟩ := hactivates'.unique hslot hloads' hactivates hloads
    have hreceiver : entered'.feeAccount = u.feeAccount := by
      rw [View.feeAccount_of_slot hentered, View.feeAccount_of_slot hpays.slot]
    have hu : u.account = Accounts.move x.caller u.feeAccount a'.fee l.account := by
      rw [View.feeAccount_of_slot hpays.slot, hpays.paid, View.pay, hactivates.account, hcaller]
    have hv : v.account = Accounts.move x.caller u.feeAccount a'.fee l.account := by
      have hgiven : m.account = Accounts.move x.caller x.target x.value l.account := by
        rw [haccount]
        exact congrArg View.account (View.Pays.paid hmoved)
      rw [hback, hcharged.paid, View.pay, hactivates'.account, hreceiver]
      change Accounts.move _ _ _ (Accounts.move _ _ _ m.account) = _
      rw [hgiven, Accounts.move_through]
    refine ⟨?_, hv.trans hu.symm, wasm', a', entered, hmodule, hactivates.of_view hview, hpays.slot, hu⟩
    rw [hleft, hcharged.slot, hentered, hpays.slot]

/-- Account two calls the program in account one, with all the gas there can be. -/
def furnishedCall : Call where
  target := 1
  codeAt := 1
  caller := 2
  gas := max64

theorem returns_furnishedAsk :
    ∃ r, ((furnished 2).invoke (some true) .system furnishedAsk).1 = some r ∧ r.succeeded = true := by
  obtain ⟨y, fee, hw⟩ := awaits_furnished 2
  have hfee : fee ≤ furnishedAsk.value := Nat.le_trans hw.fee_le (by decide)
  have hfunds : furnishedAsk.value ≤ ((furnished 2).ledger.account 2).balance := by
    rw [balance_furnished (by decide)]
    decide
  exact returns_asked asks_furnishedAsk argument_furnishedAsk hw (by decide) hfee hfunds (by decide)

theorem returns_furnishedCall : ∃ r,
    ((furnished 2).invoke none (.program quiet) furnishedCall).1 = some r ∧ r.succeeded = true := by
  obtain ⟨y, fee, hw⟩ := awaits_furnished 2
  have hfunds : fee ≤ ((furnished 2).ledger.account 2).balance := by
    rw [balance_furnished (by decide)]
    exact Nat.le_trans hw.fee_le (by decide)
  exact Call.run_of_awaits hw rfl rfl hfunds (Nat.le_refl _) fun _ _ _ => rfl

theorem routes_agree_furnished :
    let v := ((furnished 2).invoke (some true) .system furnishedAsk).2.ledger.view
    let u := ((furnished 2).invoke none (.program quiet) furnishedCall).2.ledger.view
    (∃ r, ((furnished 2).invoke (some true) .system furnishedAsk).1 = some r ∧ r.succeeded = true) ∧
      (∃ s, ((furnished 2).invoke none (.program quiet) furnishedCall).1 = some s ∧ s.succeeded = true) ∧
      v.slot = u.slot ∧ v.account = u.account := by
  obtain ⟨r, hx, hr⟩ := returns_furnishedAsk
  obtain ⟨s, hc, hs⟩ := returns_furnishedCall
  obtain ⟨y, fee, hw⟩ := awaits_furnished 2
  have hcalled : (furnished 2).Awaits furnishedCall.codeAt smallModule y fee := hw
  have hcode : furnishedCall.codeAt = Address.ofWord 1 := by decide
  obtain ⟨hslot, haccount, -⟩ :=
    routes_agree asks_furnishedAsk argument_furnishedAsk hcode rfl rfl hcalled.inactive hx hr hc hs
  exact ⟨⟨r, hx, hr⟩, ⟨s, hc, hs⟩, hslot, haccount⟩

end World
end Inkwell
