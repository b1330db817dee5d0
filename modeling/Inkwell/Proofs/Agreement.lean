import Inkwell.Proofs.Entries
import Inkwell.Proofs.Routes
set_option autoImplicit false

/-! Activations and calls take the same programs for active, unless programs are of no version. -/

namespace Inkwell

namespace World

open SystemContract

variable {hash : Word → Prop} {w : World}

/-- Activations and calls take the same programs for active, unless programs are of no version. -/
structure Agrees (w : World) : Prop where
  /-- An activation hands the value back just when the record that it finds makes calls find the
  program active. -/
  decides {c : Call} {args : Octets} {gas : Nat} {x : Programs.Inspected} {g : Frame} :
    Gives (Programs.inspect c args) ⟨w, gas⟩ x g →
      outcome (Programs.activateProgram c args) ⟨w, gas⟩ =
          outcome (x.current.elim (Programs.enterProgram c x) (Programs.handBack c)) g ∧
        x.params = w.ledger.view.params ∧ x.codeHash = w.ledger.view.codeHash x.program ∧
        (w.Active x.codeHash ↔ x.current.isSome ∧ x.params.version ≠ 0)
  /-- It gets as far as that for every active program that can be fetched. -/
  inspects {c : Call} {args : Octets} {arg : Word} {gas : Nat} :
    Abi.firstWord? args = some arg → w.ledger.Loadable (Address.ofWord arg) →
      Programs.inspectGas ≤ gas → w.Active (w.ledger.view.codeHash (Address.ofWord arg)) →
      ∃ x g, Gives (Programs.inspect c args) ⟨w, gas⟩ x g ∧ x.program = Address.ofWord arg ∧
        x.current.isSome
  activates {c : Call} {arg : Word} {r : CallResult} {w' : World} :
    w.ledger.view.params.version ≠ 0 → c.codeAt = programsAddress →
      c.input.take 4 = Abi.selectorOf "activateProgram(address)" → argument? c = some arg →
      (SystemContract.call c).run w = (some r, w') → r.succeeded = true →
      Active { w' with block := w.block } (w.ledger.view.codeHash (Address.ofWord arg))
  starts {runner : Runner} {c : Call} {r : CallResult} {w' : World} :
    let codeHash := keccak (w.ledger.account c.codeAt).code
    w.ledger.view.params.version ≠ 0 → ¬ w.Active codeHash →
      (Call.run runner c).run w = (some r, w') → r.succeeded = true →
      Active { w' with block := w.block } codeHash
  /-- Calls of an active program run under its record, and nothing that lasts is changed. -/
  stays {runner : Runner} {c : Call} : w.Active (keccak (w.ledger.account c.codeAt).code) →
    (∃ r, ∀ wasm, ∃ l, w.ledger.Reads l ∧ Gives (Call.findRecord c w.ledger.view.params
        (keccak (w.ledger.account c.codeAt).code) wasm) w (r, none) { w with ledger := l }) ∧
      Call.Ends (· = w.ledger.view) w ((Call.run runner c).run w)

/-- Once all programs are of code whose slots lie apart, activations and calls agree. -/
theorem activation_agrees (hA : Layout.Apart hash) (hw : w.Hashed hash) : w.Agrees where
  decides hx := by
    obtain ⟨-, hparams, hhash, -⟩ := Programs.gives_inspect hx
    have hactive := Programs.active_inspect hx
    have houtcome := Programs.outcome_activateProgram hx
    exact ⟨houtcome, hparams, hhash, hactive⟩
  inspects {c args arg gas} harg hload hgas hactive := by
    obtain ⟨hparams, hrecord, r, hr⟩ := known_of_active hactive
    obtain ⟨x, g, hx⟩ := Programs.inspect_of_loadable (f := ⟨w, gas⟩) (c := c) harg hload hparams
      hrecord hr hgas
    obtain ⟨⟨arg', harg', hprogram⟩, -, hhash, -⟩ := Programs.gives_inspect hx
    obtain rfl : arg = arg' := Option.some.inj (harg.symm.trans harg')
    have hsome := (Programs.active_inspect hx).mp (by rw [hhash, hprogram]; exact hactive)
    exact ⟨x, g, hx, hprogram, hsome.1⟩
  activates hversion hat hselector harg hcall hr :=
    active_call hA (hw _) hversion hat hselector harg hcall hr
  starts hversion hinactive hrun hr := Call.active_run hA (hw _) hversion hinactive hrun hr
  stays {runner c} hactive := by
    refine ⟨Call.findRecord_of_active hactive, ?_⟩
    rcases Call.run_ends runner c w with ⟨r, hr, hreturned, heffect⟩ | hfails
    · refine .inl ⟨r, hr, hreturned, ?_⟩
      generalize ((Call.run runner c).run w).2.ledger.view = v at heffect ⊢
      cases heffect with
      | ran => rfl
      | activated hhash hinactive => exact absurd hactive (hhash ▸ hinactive)
    · exact .inr hfails

theorem hashed_recorded : recorded.Hashed (· = smallHash) := by
  intro a
  have haccount : recorded.ledger.account a = if a = 1 then { code := smallPackage } else {} :=
    Ledger.account_recorded a
  rw [haccount]
  split_ifs
  · exact fun _ _ _ => keccak_smallPackage
  · exact hashes_nil

theorem keccak_furnished (rich : Address) :
    keccak ((furnished rich).ledger.account 1).code = smallHash := by
  rw [account_furnished, if_pos rfl, keccak_smallPackage]

theorem version_furnished (rich : Address) : (furnished rich).ledger.view.params.version ≠ 0 := by
  rw [params_of_blank fun _ => rfl]
  decide

theorem codeHash_furnished (rich : Address) :
    (furnished rich).ledger.view.codeHash 1 = smallHash := by
  obtain ⟨y, fee, hw⟩ := awaits_furnished rich
  exact (codeHash_of_module hw.module).trans (keccak_furnished rich)

theorem inactive_furnished (rich : Address) : ¬ (furnished rich).Active smallHash := by
  intro hactive
  obtain ⟨r, hr⟩ := current_of_active hactive
  obtain ⟨y, fee, hw⟩ := awaits_furnished rich
  refine hw.inactive r ?_
  rw [keccak_furnished]
  exact hr

theorem asked_furnished : ∃ r w',
    (SystemContract.call furnishedAsk).run (furnished 0x71) = (some r, w') ∧ r.succeeded = true := by
  have hat : Address.ofWord 1 = 1 := by decide
  obtain ⟨y, fee, hw⟩ := awaits_furnished 0x71
  have hfee : fee ≤ furnishedAsk.value := Nat.le_trans hw.fee_le (by decide)
  have hfunds : furnishedAsk.value ≤ ((furnished 0x71).ledger.account 0x71).balance := by
    rw [balance_furnished (by decide)]
    decide
  exact call_of_awaits asks_furnishedAsk argument_furnishedAsk (hat.symm ▸ hw) hfee hfunds (by decide)

theorem called_furnished : ∃ r w',
    (Call.run quiet furnishedCall).run (furnished 2) = (some r, w') ∧ r.succeeded = true := by
  obtain ⟨r, hreturns, hr⟩ := returns_furnishedCall
  rcases hcall : (Call.run quiet furnishedCall).run (furnished 2) with ⟨o, w'⟩
  have ho : o = some r := (congrArg Prod.fst hcall).symm.trans hreturns
  exact ⟨r, w', by rw [ho], hr⟩

/-- The small package is active once somebody has asked for that, and once somebody has called it; where
it is active, who asks gets the value back, and who calls changes nothing. -/
theorem activation_agrees_furnished :
    (∃ r w', (SystemContract.call furnishedAsk).run (furnished 0x71) = (some r, w') ∧
        r.succeeded = true ∧ Active { w' with block := (furnished 0x71).block } smallHash) ∧
      (∃ r w', (Call.run quiet furnishedCall).run (furnished 2) = (some r, w') ∧
        r.succeeded = true ∧ Active { w' with block := (furnished 2).block } smallHash) ∧
      (∃ x g r, Gives (Programs.inspect furnishedAsk (furnishedAsk.input.drop 4))
          ⟨recorded, furnishedAsk.gas⟩ x g ∧ x.current = some r ∧
        outcome (Programs.activateProgram furnishedAsk (furnishedAsk.input.drop 4))
            ⟨recorded, furnishedAsk.gas⟩ = outcome (Programs.handBack furnishedAsk r) g) ∧
      Call.Ends (· = recorded.ledger.view) recorded ((Call.run quiet furnishedCall).run recorded) := by
  have hat : Address.ofWord 1 = 1 := by decide
  have hrecorded := activation_agrees Layout.apart_smallHash hashed_recorded
  have hactive : recorded.Active smallHash := active_recorded Ledger.recorded_self (by decide)
  refine ⟨?asked, ?called, ?inspected, ?stayed⟩
  case asked =>
    obtain ⟨r, w', hcall, hr⟩ := asked_furnished
    have hentered := (activation_agrees Layout.apart_smallHash (hashed_furnished 0x71)).activates
      (version_furnished _) rfl asks_furnishedAsk.selector argument_furnishedAsk hcall hr
    rw [hat, codeHash_furnished] at hentered
    exact ⟨r, w', hcall, hr, hentered⟩
  case called =>
    obtain ⟨r, w', hcall, hr⟩ := called_furnished
    have hcode : keccak ((furnished 2).ledger.account furnishedCall.codeAt).code = smallHash :=
      keccak_furnished 2
    have hentered := (activation_agrees Layout.apart_smallHash (hashed_furnished 2)).starts
      (version_furnished _) (hcode.symm ▸ inactive_furnished 2) hcall hr
    rw [hcode] at hentered
    exact ⟨r, w', hcall, hr, hentered⟩
  case inspected =>
    have henough : Programs.inspectGas ≤ furnishedAsk.gas := by decide
    obtain ⟨x, g, hx, -, hsome⟩ := hrecorded.inspects (c := furnishedAsk) argument_furnishedAsk
      (Ledger.recorded_self.healthy.loadable _) henough (by rw [hat, codeHash_recorded]; exact hactive)
    obtain ⟨r, hr⟩ := Option.isSome_iff_exists.mp hsome
    obtain ⟨houtcome, -⟩ := hrecorded.decides hx
    rw [hr] at houtcome
    exact ⟨x, g, r, hx, hr, houtcome⟩
  case stayed =>
    have hcode : keccak (recorded.ledger.account furnishedCall.codeAt).code = smallHash :=
      (congrArg keccak Ledger.recorded_self.code).trans keccak_smallPackage
    exact (hrecorded.stays (hcode.symm ▸ hactive)).2

def unversioned : Record :=
  { initCost := 17, footprint := 1, asmKb := 502, activatedAt := 1, expiresAt := 31536001 }

/-- The small package in one account, its record, and parameters that know of no version. -/
def versionless : World where
  ledger := { store := {
    accounts := Table.empty.insert 1 { code := smallPackage }
    slots := ((Table.empty.insert
      (stateAccount, Layout.paramsWord) { version := 0 : Params }.toWord).insert
      (stateAccount, Layout.recordData smallHash) unversioned.dataWord).insert
      (stateAccount, Layout.recordLifetime smallHash) unversioned.lifetimeWord } }
  cache := .ofCapacity 1

theorem state_versionless (slot : Word) : versionless.ledger.view.state slot =
    if slot = Layout.recordLifetime smallHash then unversioned.lifetimeWord
    else if slot = Layout.recordData smallHash then unversioned.dataWord
    else if slot = Layout.paramsWord then { version := 0 : Params }.toWord else 0 := by
  have hkey : ∀ x, (stateAccount, slot) = (stateAccount, x) ↔ slot = x := fun x => by
    rw [Prod.mk.injEq, eq_self_iff_true, true_and]
  rw [View.state_of_empty rfl, versionless]
  unfold Store.slot
  simp only [Table.get?_insert, hkey]
  split_ifs <;> rfl

theorem params_versionless : versionless.ledger.view.params.version = 0 := by
  have hdata : Layout.recordData smallHash ≠ Layout.paramsWord :=
    Layout.apart_smallHash.shared (p := .data) rfl (by simp [Layout.shared])
  have hlifetime : Layout.recordLifetime smallHash ≠ Layout.paramsWord :=
    Layout.apart_smallHash.shared (p := .lifetime) rfl (by simp [Layout.shared])
  have hword : versionless.ledger.view.state Layout.paramsWord =
      { version := 0 : Params }.toWord := by
    rw [state_versionless, if_neg hlifetime.symm, if_neg hdata.symm, if_pos rfl]
  rw [View.version_params, hword]
  decide

theorem current_versionless :
    versionless.ledger.view.Current versionless.now smallHash unversioned := by
  obtain ⟨hdata₁, hfee₁, hfee₂⟩ := Layout.apart_smallHash.record_ne (h := smallHash) rfl
  have hdata : versionless.ledger.view.state (Layout.recordData smallHash) = unversioned.dataWord := by
    rw [state_versionless, if_neg hdata₁, if_pos rfl]
  have hlifetime : versionless.ledger.view.state (Layout.recordLifetime smallHash) =
      unversioned.lifetimeWord := by
    rw [state_versionless, if_pos rfl]
  have hfee : versionless.ledger.view.state (Layout.recordFee smallHash) = unversioned.dataFee := by
    have hshared : Layout.recordFee smallHash ≠ Layout.paramsWord :=
      Layout.apart_smallHash.shared (p := .fee) rfl (by simp [Layout.shared])
    rw [state_versionless, if_neg hfee₁, if_neg hfee₂, if_neg hshared]
    rfl
  refine ⟨?_, params_versionless.symm, by decide⟩
  unfold View.record?
  dsimp only
  rw [hdata, hlifetime, hfee, Record.ofWords_words]
  decide

theorem codeHash_versionless : versionless.ledger.view.codeHash (Address.ofWord 1) = smallHash := by
  have haccount : versionless.ledger.view.account (Address.ofWord 1) = { code := smallPackage } := by
    have hget : versionless.ledger.view.account (Address.ofWord 1) =
        ((Table.empty.insert 1 ({ code := smallPackage } : Account)).get? (Address.ofWord 1)).getD {} :=
      rfl
    rw [hget, Table.get?_insert, if_pos (by decide)]
    rfl
  unfold View.codeHash
  rw [haccount]
  exact keccak_smallPackage

/-- Programs of no version are active to those who activate them again, but not to calls. -/
theorem activation_disagrees : let c : Call := ⟨0x71, 0x71, 2, 0,
      [0x58, 0xc7, 0x80, 0xc2] ++ (1 : Word).octets, false, 2000000⟩
    ∃ x g, Gives (Programs.inspect c (c.input.drop 4)) ⟨versionless, c.gas⟩ x g ∧ x.program = 1 ∧
      x.current.isSome ∧ ¬ versionless.Active x.codeHash := by
  intro c
  have hknown : ∀ slot, versionless.ledger.Known slot := fun _ => ⟨rfl, rfl⟩
  have harg : Abi.firstWord? (c.input.drop 4) = some 1 := by decide
  have hrecord := current_versionless.record
  rw [← codeHash_versionless] at hrecord
  obtain ⟨x, g, hx⟩ := Programs.inspect_of_loadable (f := ⟨versionless, c.gas⟩) (c := c) harg
    ⟨rfl, rfl⟩ ⟨hknown _, hknown _⟩ ⟨hknown _, hknown _, hknown _⟩ hrecord (by decide)
  obtain ⟨⟨arg, harg', hprogram⟩, hparams, hhash, -, hcurrent⟩ := Programs.gives_inspect hx
  obtain rfl := Option.some.inj (harg.symm.trans harg')
  rw [hprogram] at hhash
  have hhash' : x.codeHash = smallHash := hhash.trans codeHash_versionless
  refine ⟨x, g, hx, hprogram, ?_, fun hactive => ?_⟩
  · rw [(hcurrent unversioned).mpr (hhash' ▸ current_versionless)]
    rfl
  · exact ((Programs.active_inspect hx).mp hactive).2 (hparams ▸ params_versionless)

end World
end Inkwell
