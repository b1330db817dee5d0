import Inkwell.Proofs.Calls
set_option autoImplicit false

/-! What a call of a program changes: nothing, unless it returns and had to activate the program. -/

namespace Inkwell

/-- The program of a code hash may run: a record is found, under the parameters as they are, that
says so. -/
def World.Active (w : World) (codeHash : Word) : Prop := ∃ p w₁ r w₂,
  Gives (onState true State.params) w p w₁ ∧
    Gives (onState true (State.activeRecord p w₁.now codeHash)) w₁ r w₂

namespace Call

variable {w w' : World} {c : Call} {p : Params} {codeHash : Word} {wasm : Octets} {runner : Runner}

def proceed (runner : Runner) (c : Call) (p : Params) (code : Octets) :
    Except Package.Error (Option Octets) → StateM World (Option CallResult)
  | .ok none => pure none
  | .error e => pure (some (refusal c.gas (.package e)))
  | .ok (some wasm) => some <$> keepIfReturned (finish (execute runner c p (keccak code) wasm))

section
variable {code : Octets} {w₁ w₂ : World} {e : ProgramError}

theorem run_of_unheld (hcode : outcome (World.onLedger (Ledger.holdCode c.codeAt))
      { w with cache := w.cache.startBlock w.block.height } = (.error e, w₁)) :
    (run runner c).run w = (none, w₁) := by
  unfold outcome at hcode
  simp only [run, StateT.run_bind, StateT.run_modify, pure_bind, hcode]
  rfl

variable (hcode : outcome (World.onLedger (Ledger.holdCode c.codeAt))
  { w with cache := w.cache.startBlock w.block.height } = (.ok code, w₁))
include hcode

theorem run_of_unread (hp : outcome (World.onState true State.params) w₁ = (.error e, w₂)) :
    (run runner c).run w = (some e.result, w₂) := by
  unfold outcome at hcode hp
  simp only [run, StateT.run_bind, StateT.run_modify, pure_bind, hcode]
  change StateT.run (_ >>= _) w₁ = _
  rw [StateT.run_bind, hp]
  rfl

theorem run_of_read (hp : outcome (World.onState true State.params) w₁ = (.ok p, w₂)) :
    (run runner c).run w =
      (proceed runner c p code (Package.module? p.maxWasmSize.toNat code)).run w₂ := by
  unfold outcome at hcode hp
  simp only [run, StateT.run_bind, StateT.run_modify, pure_bind, hcode]
  change StateT.run (_ >>= _) w₁ = _
  rw [StateT.run_bind, hp]
  change StateT.run _ w₂ = _
  dsimp only
  cases Package.module? p.maxWasmSize.toNat code with
  | error e => rfl
  | ok wasm? => cases wasm? <;> rfl

end

theorem run_cases (runner : Runner) (c : Call) (w : World) : ∃ l, w.ledger.Reads l ∧
    (((run runner c).run w).2 =
          { w with ledger := l, cache := w.cache.startBlock w.block.height } ∧
        (∀ r, ((run runner c).run w).1 = some r → r.succeeded = false) ∨
      ∃ p wasm, (outcome State.params { ledger := w.ledger, frozen := true }).1 = .ok p ∧
        Package.module? p.maxWasmSize.toNat (w.ledger.account c.codeAt).code = .ok (some wasm) ∧
        (run runner c).run w = ((keepIfReturned (finish
          (execute runner c p (keccak (w.ledger.account c.codeAt).code) wasm))).run
            { w with ledger := l, cache := w.cache.startBlock w.block.height }).map some id) := by
  obtain ⟨l₁, hreads₁, hcode⟩ := World.outcome_reading
    (Access.keeps_onLedger (Ledger.keeps_holdCode (a := c.codeAt))) false
    { w with cache := w.cache.startBlock w.block.height }
  change outcome (World.onLedger (Ledger.holdCode c.codeAt)) _ = _ at hcode
  generalize (outcome (Access.onLedger (Ledger.holdCode c.codeAt)) _).1 = code at hcode
  cases code with
  | error e =>
    rw [run_of_unheld hcode]
    exact ⟨l₁, hreads₁, .inl ⟨rfl, fun r hr => by cases hr⟩⟩
  | ok code =>
    obtain ⟨l, hl, -⟩ := World.gives_onLedger hcode
    have hcode' : code = (w.ledger.account c.codeAt).code := Ledger.gives_holdCode hl
    obtain ⟨l₂, hreads₂, hparams⟩ := World.outcome_reading State.keeps_params true
      { w with ledger := l₁, cache := w.cache.startBlock w.block.height }
    have htold := (State.told_params ⟨w.ledger, none, true⟩ ⟨l₁, none, true⟩ hreads₁.tells rfl).1
    dsimp only at hparams htold
    rw [← htold] at hparams
    have hreads : w.ledger.Reads l₂ := hreads₁.trans hreads₂
    cases hp : (outcome State.params ⟨w.ledger, none, true⟩).1 with
    | error e =>
      rw [hp] at hparams
      rw [run_of_unread hcode hparams]
      refine ⟨l₂, hreads, .inl ⟨rfl, fun r hr => ?_⟩⟩
      rw [← Option.some.inj hr]
      exact result_fails e
    | ok p =>
      rw [hp] at hparams
      rw [run_of_read hcode hparams, ← hcode']
      cases hmodule : Package.module? p.maxWasmSize.toNat code with
      | error e =>
        refine ⟨l₂, hreads, .inl ⟨rfl, fun r hr => ?_⟩⟩
        rw [← Option.some.inj hr]
        rfl
      | ok wasm? =>
        cases wasm? with
        | none => exact ⟨l₂, hreads, .inl ⟨rfl, fun r hr => by cases hr⟩⟩
        | some wasm => exact ⟨l₂, hreads, .inr ⟨p, wasm, rfl, hmodule, rfl⟩⟩

/-- A call keeps the rules. -/
theorem follows_run (R : Rules) (runner : Runner) (c : Call) (w : World) :
    R.Follows w ((run runner c).run w).2 := by
  obtain ⟨l, hreads, h⟩ := run_cases runner c w
  have hstart : R.Follows w { w with ledger := l, cache := w.cache.startBlock w.block.height } :=
    ⟨fun hw => R.startBlock _ hw.cache, fun _ => hreads.reaches⟩
  rcases h with ⟨hstays, -⟩ | ⟨p, wasm, -, hmodule, hrun⟩
  · rw [hstays]
    exact hstart
  · rw [hrun]
    refine Rules.follows_of_sound fun hw => hstart.trans ?_
    have hruns : R.writes.Runs (keccak (w.ledger.account c.codeAt).code) wasm :=
      ⟨_, _, hw.coded _, rfl, hmodule⟩
    refine follows_keepIfReturned
      (m := finish (execute runner c p (keccak (w.ledger.account c.codeAt).code) wasm)) ?_
    rw [run_finish]
    exact keeps_execute hruns _

theorem active_iff (hp : (outcome State.params ⟨w.ledger, none, true⟩).1 = .ok p) :
    w.Active codeHash ↔ ∃ r, lookup w p codeHash = .ok r := by
  obtain ⟨l, hreads, hparams⟩ := World.outcome_reading State.keeps_params true w
  rw [hp] at hparams
  obtain ⟨m, -, hrecord⟩ := World.outcome_reading
    (State.keeps_activeRecord (p := p) (h := codeHash)) true { w with ledger := l }
  change outcome _ _ = (lookup { w with ledger := l } p codeHash, _) at hrecord
  rw [lookup_of_reads hreads] at hrecord
  constructor
  · rintro ⟨p', w₁, r, w₂, hp', hr⟩
    obtain ⟨⟨⟩, rfl⟩ := Prod.mk.inj (hparams.symm.trans hp')
    exact ⟨r, congrArg Prod.fst (hrecord.symm.trans hr)⟩
  · rintro ⟨r, hr⟩
    rw [hr] at hrecord
    exact ⟨p, _, r, _, hparams, hrecord⟩

/-- One activation of a program as the code hash of a call, by whoever makes the call, and what it
leaves: the module hash, the pricer and the record that it writes, and its fee moved. -/
def Activates (c : Call) (w : World) (v : View) : Prop := ∃ wasm w₁ a w₂,
  let code := (w.ledger.account c.codeAt).code
  let pinned := ((w.ledger.view.record? (keccak code)).map Record.pinned).getD false
  Package.module? w.ledger.view.params.maxWasmSize.toNat code = .ok (some wasm) ∧
    w₁.ledger.view = w.ledger.view ∧ w₁.block = w.block ∧ w₁.config = w.config ∧
    Gives (World.activate (keccak code) wasm pinned) w₁ a w₂ ∧
    w₂.ledger.view = w.ledger.view.activated (keccak code) w.block a ∧
    a.fee ≤ (w.ledger.account c.caller).balance ∧
    v = w₂.ledger.view.pay c.caller w₂.ledger.view.feeAccount a.fee

theorem prepared_of_returned {r : CallResult}
    (h : (finish (execute runner c p codeHash wasm)).run w = (r, w')) (hr : r.succeeded = true) :
    ∃ x w₁, Gives (prepare c p codeHash wasm) w x w₁ ∧ w'.ledger = w₁.ledger := by
  rw [run_finish, execute_eq, outcome_bind] at h
  rcases hm : outcome (prepare c p codeHash wasm) w with ⟨x, w₁⟩
  rw [hm] at h
  cases x with
  | error e =>
    obtain ⟨rfl, -⟩ := Prod.mk.inj h
    exact absurd (throws_prepare w e w₁ hm) (by simp [hr])
  | ok x =>
    dsimp only at h
    rw [outcome_runProgram] at h
    exact ⟨x, w₁, hm, by rw [← (Prod.mk.inj h).2]⟩

/-- From a world the call gets as far as handing what it prepared to the runner, in another world. -/
def Hands (c : Call) (w : World) (x : Prepared) (w₁ : World) : Prop := ∃ wasm l,
  let code := (w.ledger.account c.codeAt).code
  let p := w.ledger.view.params
  Package.module? p.maxWasmSize.toNat code = .ok (some wasm) ∧ w.ledger.Reads l ∧
    Gives (prepare c p (keccak code) wasm)
      { w with ledger := l, cache := w.cache.startBlock w.block.height } x w₁

/-- A call that hands nothing to the runner adds no start; one that does adds just that, and ends as
the program at its meter ends. -/
theorem run_started (runner : Runner) (c : Call) (w : World) :
    ((run runner c).run w).2.starts = w.starts ∨ ∃ x w₁,
      let meter := startMeter w.transaction w.ledger.view.params x.record x.left
      let ends := runner x.artifact (environment w c) meter
      c.Hands w x w₁ ∧
        ((run runner c).run w).2.starts = ⟨x.artifact, environment w c, meter⟩ :: w.starts ∧
        ((run runner c).run w).1 =
          some (.settle w.config.chargesOutput c.gas ends.2.gasLeft ends.1) := by
  obtain ⟨l, hreads, ⟨hstays, -⟩ | ⟨p, wasm, hp, hmodule, hrun⟩⟩ := run_cases runner c w
  · left
    rw [hstays]
  have hparams : p = w.ledger.view.params := State.gives_params (Prod.ext hp rfl)
  subst hparams
  rw [hrun, Prod.map_snd, Prod.map_fst, id_eq, starts_keepIfReturned, run_keepIfReturned, run_finish,
    execute_eq, outcome_bind]
  have hwithin : KeepsFrom World.Within
      (prepare c w.ledger.view.params (keccak (w.ledger.account c.codeAt).code) wasm)
      { w with ledger := l, cache := w.cache.startBlock w.block.height } := within_prepare _
  unfold KeepsFrom at hwithin
  rcases hprepare : outcome (prepare c w.ledger.view.params _ wasm)
    { w with ledger := l, cache := w.cache.startBlock w.block.height } with ⟨x, w₁⟩
  rw [hprepare] at hwithin
  cases x with
  | error e => exact .inl hwithin.starts
  | ok x =>
    have hconfig : w₁.config = w.config := hwithin.config
    have hblock : w₁.block = w.block := hwithin.block
    have htransaction : w₁.transaction = w.transaction := hwithin.transaction
    have hbefore : w₁.starts = w.starts := hwithin.starts
    have henv : environment w₁ c = environment w c := by
      simp only [environment, hconfig, hblock]
    dsimp only
    rw [outcome_runProgram, henv, hconfig, htransaction, hbefore]
    exact .inr ⟨x, w₁, ⟨wasm, l, hmodule, hreads, hprepare⟩, rfl, rfl⟩

theorem starts_run (runner : Runner) (c : Call) (w : World) :
    ((run runner c).run w).2.starts = w.starts ∨ ∃ x w₁ meter, c.Hands w x w₁ ∧
      ((run runner c).run w).2.starts = ⟨x.artifact, environment w c, meter⟩ :: w.starts := by
  rcases run_started runner c w with h | ⟨x, w₁, hhands, hstarts, -⟩
  · exact .inl h
  · exact .inr ⟨x, w₁, _, hhands, hstarts⟩

/-- What a call that returns has done: nothing that lasts for a program that may run, and otherwise
an activation, whose fee has moved from whoever makes the call. -/
inductive Effect (c : Call) (w : World) : View → Prop
  | ran : w.Active (keccak (w.ledger.account c.codeAt).code) → Effect c w w.ledger.view
  | activated {codeHash : Word} {wasm : Octets} {a : Activation} {entered v : View} :
      codeHash = keccak (w.ledger.account c.codeAt).code → ¬ w.Active codeHash →
      c.frozen = false → w.config.autoActivate = true →
      Package.module? w.ledger.view.params.maxWasmSize.toNat (w.ledger.account c.codeAt).code =
        .ok (some wasm) →
      w.Activates codeHash wasm a entered →
      View.Pays c.caller entered.feeAccount a.fee entered v → w.Loads wasm a.artifact → Effect c w v

theorem Effect.moved {v : View} (h : Effect c w v) :
    ∃ receiver fee, v.account = Accounts.move c.caller receiver fee w.ledger.account := by
  cases h with
  | ran => exact ⟨0, 0, (Accounts.move_zero _ _ _).symm⟩
  | @activated codeHash wasm a entered _ _ _ _ _ _ hactivates hpays =>
    refine ⟨entered.feeAccount, a.fee, ?_⟩
    rw [hpays.paid, View.pay, hactivates.account]

theorem Effect.code {v : View} (h : Effect c w v) (a : Address) :
    (v.account a).code = (w.ledger.account a).code := by
  obtain ⟨receiver, fee, hmoved⟩ := h.moved
  obtain ⟨b, hb⟩ := Accounts.exists_move c.caller receiver fee w.ledger.account a
  rw [hmoved, hb]

/-- What was prepared runs already, and nothing has changed, or an activation was all there was. -/
theorem prepare_effect {x : Prepared} {l : Ledger} {k : Cache} (hreads : w.ledger.Reads l)
    (hkept : k.artifacts = w.cache.artifacts)
    (hp : (outcome State.params ⟨w.ledger, none, true⟩).1 = .ok p)
    (hmodule : Package.module? p.maxWasmSize.toNat (w.ledger.account c.codeAt).code = .ok (some wasm))
    (h : Gives (prepare c p (keccak (w.ledger.account c.codeAt).code) wasm)
      { w with ledger := l, cache := k } x w') : Effect c w w'.ledger.view := by
  have hparams : p = w.ledger.view.params := State.gives_params (Prod.ext hp rfl)
  have hactive : w.Active (keccak (w.ledger.account c.codeAt).code) ↔ _ := active_iff hp
  generalize hhash : keccak (w.ledger.account c.codeAt).code = codeHash at *
  obtain ⟨l', k', hreads', htouched, hcases⟩ := gives_prepare h
  rw [lookup_of_reads hreads] at hcases
  have hview : l'.view = w.ledger.view := hreads'.view.trans hreads.view
  have hkept' : k'.artifacts = w.cache.artifacts := by
    rw [htouched]
    exact hkept
  rcases hcases with ⟨hlookup, y, hload, -⟩ | ⟨e, a, hlookup, hthawed, hauto, -, -, ha⟩
  · have hstays : w'.ledger.view = w.ledger.view := by
      rw [(World.gives_load hload).2]
      exact hview
    rw [hstays]
    exact .ran (hhash ▸ hactive.mpr ⟨_, hlookup⟩)
  · obtain ⟨w₂, hactivate, hcharge⟩ := World.gives_activateAndCharge ha
    obtain ⟨-, hpays⟩ := World.gives_chargeFee hcharge
    dsimp only at hactivate
    rw [hreads.view] at hactivate
    have hinactive : ¬ w.Active codeHash := by
      rw [hactive]
      rintro ⟨r, hr⟩
      cases hlookup.symm.trans hr
    have hstart : ({ w with ledger := l', cache := k' } : World).ledger.view = w.ledger.view := hview
    have hloads : w.Loads wasm a.artifact := World.loads_of_activate hstart rfl hkept' hactivate
    exact .activated hhash.symm hinactive hthawed hauto (hparams ▸ hmodule)
      ⟨{ w with ledger := l', cache := k' }, w₂, hview, rfl, rfl, hactivate, rfl⟩ hpays hloads

end Call
end Inkwell
