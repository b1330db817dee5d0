import Inkwell.Proofs.Routes
set_option autoImplicit false

/-! What becomes of the value of a call of a system contract that returns. A method spends it, on a fee
and on what goes back to the caller, or takes none; what names no method leaves it with the contract. -/

namespace Inkwell

namespace View

variable {c : Call} {v v' u t : View} {fee : Word} {g : Log}

/-- The value of a call has left the contract, and only the caller and the fee account have got it. -/
structure Spent (c : Call) (v u : View) : Prop where
  contract : (u.account c.codeAt).balance.toNat + c.value.toNat =
    (v.account c.codeAt).balance.toNat
  others : ∀ a, a ≠ c.codeAt → a ≠ c.caller → a ≠ u.feeAccount → u.account a = v.account a
  supply : Accounts.supply u.account = Accounts.supply v.account

theorem spent_of_free (hvalue : c.value = 0) (haccount : u.account = v.account) : v.Spent c u := by
  refine ⟨?_, fun a _ _ _ => congrFun haccount a, congrArg Accounts.supply haccount⟩
  rw [haccount, hvalue]
  rfl

theorem Spent.log (h : v.Spent c u) : v.Spent c (u.log g) := ⟨h.contract, h.others, h.supply⟩

theorem spent_of_pays (htarget : c.target = c.codeAt) (hcaller : c.caller ≠ c.codeAt)
    (hreceiver : t.feeAccount ≠ c.codeAt) (haccount : v'.account = v.account) (hfee : fee ≤ c.value)
    (hcharged : Pays c.target v'.feeAccount fee v' u)
    (hback : Pays c.target c.caller (c.value - fee) u t) : v.Spent c t := by
  have hsame : t.feeAccount = v'.feeAccount :=
    feeAccount_of_slot (hback.slot.trans hcharged.slot)
  rw [htarget] at hcharged hback
  have hcharge := (hcharged.moves (hsame ▸ hreceiver.symm)).of_account haccount
  have hreturn := hback.moves hcaller.symm
  have hle : fee.toNat ≤ c.value.toNat := hfee
  have hrest : (c.value - fee).toNat = c.value.toNat - fee.toNat := BitVec.toNat_sub_of_le hfee
  have hpaid := hcharge.paid
  have hleft := hreturn.paid
  refine ⟨by omega, fun a ha hc hf => ?_, ?_⟩
  · rw [hreturn.others a ha hc, hcharge.others a ha (hsame ▸ hf)]
  · rw [hback.supply, hcharged.supply, haccount]

end View

namespace SystemContract

variable {w w' : World} {c : Call} {v : View} {r : CallResult}
  {methods : List Method} {m : Method}

/-- A call names a method of the contract that it is made to. -/
def Names (c : Call) : Prop :=
  ∃ methods, methodsAt? c.codeAt = some methods ∧ ∃ m ∈ methods, m.selector = c.input.take 4

theorem paying_of_payable (hmethods : methodsAt? c.codeAt = some methods) (hm : m ∈ methods)
    (hpayable : m.mutability = .payable) :
    c.codeAt = programsAddress ∧ m.signature ∈ paying := by
  have hprograms : ∀ m ∈ Programs.methods, m.mutability = .payable → m.signature ∈ paying := by
    decide
  have hpinning : ∀ m ∈ Pinning.methods, m.mutability ≠ .payable := by decide
  rcases methodsAt?_cases hmethods with ⟨hat, rfl⟩ | ⟨-, rfl⟩
  · exact ⟨hat, hprograms m hm hpayable⟩
  · exact absurd hpayable (hpinning m hm)

/-- A call that returns has named a method, with value only for what is paid for, or it has named none,
and nothing was done. -/
theorem returned_cases (hrun : (call c).run w = (some r, w')) (hr : r.succeeded = true) :
    Names c ∧ (c.value = 0 ∨ ¬ Idle c) ∨ ¬ Names c ∧ w' = w := by
  obtain ⟨methods, hmethods, hinvoke⟩ := invoked_of_returned hrun hr
  rcases invoke_returned hinvoke hr with ⟨hshort, hstays⟩ | ⟨out, g, hdispatch, hg⟩
  · refine .inr ⟨fun ⟨_, _, m, _, hselector⟩ => ?_, hstays⟩
    exact absurd (long_of_selector hselector.symm) (Nat.not_le.mpr hshort)
  rcases gives_dispatch hdispatch with ⟨hnone, hstays⟩ | ⟨m, f', hfind, -, hanswer⟩
  · refine .inr ⟨fun ⟨_, hmethods', m, hm, hselector⟩ => ?_, hg.trans hstays⟩
    obtain rfl := Option.some.inj (hmethods.symm.trans hmethods')
    exact List.find?_eq_none.mp hnone m hm (decide_eq_true hselector)
  · have hm := List.mem_of_find?_eq_some hfind
    have hselector : m.selector = c.input.take 4 := by simpa using List.find?_some hfind
    refine .inl ⟨⟨methods, hmethods, m, hm, hselector⟩, ?_⟩
    obtain ⟨-, hfree, -⟩ := gives_answer hanswer
    by_cases hpayable : m.mutability = .payable
    · obtain ⟨hat, hpaying⟩ := paying_of_payable hmethods hm hpayable
      exact .inr fun hidle => hidle hat _ hpaying hselector.symm
    · exact .inl (hfree hpayable)

theorem Effect.spent (h : Effect c w v) (hpaid : c.value = 0 ∨ ¬ Idle c)
    (hcaller : c.caller ≠ c.codeAt) (hreceiver : v.feeAccount ≠ c.codeAt) :
    w.ledger.view.Spent c v := by
  have hunpaid : c.codeAt = pinningAddress → c.value = 0 := fun hat =>
    hpaid.resolve_right (not_not.mpr (idle_of_pinning hat))
  cases h with
  | nothing hidle => exact View.spent_of_free (hpaid.resolve_right (not_not.mpr hidle)) rfl
  | handedBack hasks _ _ hback =>
    -- as if a fee of nothing had been paid before
    have hvalue : c.value - 0 = c.value := by simp
    exact View.spent_of_pays (hasks.target.trans hasks.codeAt.symm) hcaller hreceiver rfl
      (Nat.zero_le _) (View.pays_zero _ _ _) (hvalue.symm ▸ hback)
  | @activated _ _ _ a entered u v hasks _ _ _ _ hactivates hcovered hcharged hback =>
    have hspent : w.ledger.view.Spent c v := View.spent_of_pays
      (hasks.target.trans hasks.codeAt.symm) hcaller hreceiver hactivates.account hcovered hcharged
      hback
    exact hspent.log
  | @keptAlive _ fee _ renewed u v hasks _ _ _ _ hrenewed hcovered hcharged hback =>
    have haccount : renewed.account = w.ledger.view.account := by
      rw [hrenewed]
      rfl
    have hspent : w.ledger.view.Spent c v := View.spent_of_pays
      (hasks.target.trans hasks.codeAt.symm) hcaller hreceiver haccount hcovered hcharged hback
    exact hspent.log
  | pinned hasks => exact View.spent_of_free (hunpaid hasks.codeAt) rfl
  | unpinned hasks => exact View.spent_of_free (hunpaid hasks.codeAt) rfl

/-- A call that names a method and returns has spent its value, all of it, on whoever called and on the
fee account, which is the one that the call leaves, unless one of the two is the contract itself. A call
that names no method and returns has done nothing: its value stays with the contract. -/
theorem value_spent (hrun : (call c).run w = (some r, w')) (hr : r.succeeded = true)
    (hcaller : c.caller ≠ c.codeAt) (hreceiver : w'.ledger.view.feeAccount ≠ c.codeAt) :
    (Names c → w.ledger.view.Spent c w'.ledger.view) ∧ (¬ Names c → w' = w) := by
  rcases returned_cases hrun hr with ⟨hnames, hpaid⟩ | ⟨hnone, hstays⟩
  · refine ⟨fun _ => ?_, fun hnone => absurd hnames hnone⟩
    exact (effect_of_called hrun hr).spent hpaid hcaller hreceiver
  · exact ⟨fun hnames => absurd hnames hnone, fun _ => hstays⟩

theorem names_furnishedAsk : Names World.furnishedAsk :=
  ⟨Programs.methods, rfl, ⟨"activateProgram(address)", .payable, Programs.activateProgram⟩,
    List.mem_cons_self, Abi.selectorOf_activateProgram⟩

/-- Where the contract has got the value already, the activation that account two asks for spends it. -/
theorem value_spent_furnished : ∃ r w',
    (call World.furnishedAsk).run (World.furnished 0x71) = (some r, w') ∧ r.succeeded = true ∧
      w'.ledger.view.feeAccount = 0 ∧
      (World.furnished 0x71).ledger.view.Spent World.furnishedAsk w'.ledger.view := by
  obtain ⟨y, fee, hw⟩ := World.awaits_furnished 0x71
  have hbalance : ((World.furnished 0x71).ledger.account World.furnishedAsk.target).balance =
      0x20000000000000000 := World.balance_furnished (by decide)
  obtain ⟨r, w', hrun, hr⟩ := call_of_awaits World.asks_furnishedAsk World.argument_furnishedAsk hw
    (Nat.le_trans hw.fee_le (by decide)) (by rw [hbalance]; decide) (by decide)
  have hreceiver : w'.ledger.view.feeAccount = 0 := by
    obtain ⟨wasm, a, entered, u, -, hactivates, -, hcharged, hslot, -⟩ :=
      (effect_of_called hrun hr).entered World.asks_furnishedAsk World.argument_furnishedAsk
        (codeHash_of_module hw.module) hw.inactive
    have hhash : keccak ((World.furnished 0x71).ledger.account 1).code = smallHash := by
      rw [World.account_furnished, if_pos rfl]
      exact keccak_smallPackage
    rw [View.feeAccount_of_slot (hslot.trans hcharged.slot),
      (hactivates.same Layout.apart_smallHash hhash).2]
    decide
  obtain ⟨hspent, -⟩ := value_spent hrun hr (by decide) (by rw [hreceiver]; decide)
  exact ⟨r, w', hrun, hr, hreceiver, hspent names_furnishedAsk⟩

def bareCall : Call where
  target := 0x71
  codeAt := 0x71
  caller := 2
  value := 5
  gas := 100000

/-- A call without input returns, and the contract keeps the value. -/
theorem value_kept_bare :
    let w := World.furnished 0x71
    bareCall.caller ≠ bareCall.codeAt ∧ w.ledger.view.feeAccount ≠ bareCall.codeAt ∧
      bareCall.value ≤ (w.ledger.account bareCall.codeAt).balance ∧
      ∃ r w', (call bareCall).run w = (some r, w') ∧ r.succeeded = true ∧
        (w'.ledger.account bareCall.codeAt).balance.toNat + bareCall.value.toNat ≠
          (w.ledger.account bareCall.codeAt).balance.toNat := by
  have hbalance : ((World.furnished 0x71).ledger.account bareCall.codeAt).balance =
      0x20000000000000000 := World.balance_furnished (by decide)
  dsimp only
  rw [hbalance]
  refine ⟨by decide, by decide, by decide, _, _, rfl, rfl, ?_⟩
  change ((World.furnished 0x71).ledger.account bareCall.codeAt).balance.toNat + _ ≠ _
  rw [hbalance]
  decide

end SystemContract
end Inkwell
