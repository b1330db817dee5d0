import Inkwell.Proofs.Agreement
import Inkwell.Proofs.Sessions
set_option autoImplicit false

/-! What the runner is handed, in every run of a session, fits the code that is called. What frames and
deployments do is done by steps of a session, so that this holds of the calls in them too. -/

namespace Inkwell

namespace Session

variable {E : Involved} {s : Session} {w w' : World} {c : Checkpoint} {cs : List Checkpoint}
  {α β : Type}

theorem Reachable.act (h : Reachable E ⟨w, cs⟩) (hw : World.Does E w w') : Reachable E ⟨w', cs⟩ :=
  h.step (.act hw)

theorem Reachable.commit (h : Reachable E ⟨w, c :: cs⟩) : Reachable E ⟨w, cs⟩ := h.step .commit

theorem Reachable.revert (h : Reachable E ⟨w, c :: cs⟩) : Reachable E ⟨w.revert c, cs⟩ :=
  h.step .revert

/-- A frame takes a checkpoint, pays, calls, and goes back to the checkpoint unless the call
returns. -/
theorem Reachable.frame (h : Reachable E ⟨w, cs⟩) (pay : Bool) (call : Call)
    (run : Call → StateM World (Option CallResult))
    (hrun : ∀ w, World.Does E w ((run call).run w).2) :
    Reachable E ⟨(w.frame pay call run).2, cs⟩ := by
  have hstart : Reachable E ⟨w, w.ledger.checkpoint :: cs⟩ := h.step .checkpoint
  have hpaid : Reachable E ⟨(if pay then w.bare (Ledger.transfer call.caller call.target call.value)
      else (.ok none, w)).2, w.ledger.checkpoint :: cs⟩ := by
    cases pay with
    | false => exact hstart
    | true => exact hstart.act (.transfer _ _ _)
  unfold World.frame
  generalize (if pay then w.bare (Ledger.transfer call.caller call.target call.value)
    else (.ok none, w)) = paid at hpaid
  obtain ⟨result, w₁⟩ := paid
  have hcalled := hpaid.act (hrun w₁)
  cases result with
  | error f => exact hpaid.revert
  | ok e =>
    cases e with
    | some e => exact hpaid.revert
    | none =>
      dsimp only
      rcases hcall : (run call).run w₁ with ⟨r, w₂⟩
      rw [hcall] at hcalled
      cases r with
      | none => exact hcalled.revert
      | some r =>
        dsimp only
        split
        · exact hcalled.commit
        · exact hcalled.revert

/-! ### What is started -/

/-- A world in some session that can be reached. -/
def Occurs (E : Involved) (w : World) : Prop := ∃ cs, Reachable E ⟨w, cs⟩

theorem Occurs.act (h : Occurs E w) (hw : World.Does E w w') : Occurs E w' := by
  obtain ⟨cs, hcs⟩ := h
  exact ⟨cs, hcs.act hw⟩

theorem Occurs.fetch (h : Occurs E w)
    (hg : ∃ l, w.ledger.Reads l ∧ w' = { w with ledger := l }) : Occurs E w' := by
  obtain ⟨l, hreads, rfl⟩ := hg
  exact h.act (.fetch hreads)

/-- What a call hands to the runner, in a world that occurs, fits the code there. -/
theorem Occurs.fits {x : Call.Prepared} {call : Call} (h : Occurs E w) (hx : call.Hands w x w') :
    x.Fits w w'.ledger.view (w.ledger.account call.codeAt).code := by
  obtain ⟨cs, hcs⟩ := h
  have htells := hcs.tells
  exact Involved.fits_of_hands htells.sound htells.ledger.sound.genuine hx

theorem Reachable.occurs (h : Reachable E s) : Occurs E s.world := ⟨s.checkpoints, h⟩

/-- Whenever a call hands a program to the runner, in any run, it is what was made of the module in
the code at the address called, for the version and the mode there are; the record that the start
was priced with and the module hash in the state tell of the same. -/
theorem Reachable.starts_fit (h : Reachable E s) (runner : Runner) (c : Call) :
    ((c.run runner).run s.world).2.starts = s.world.starts ∨ ∃ x w meter, c.Hands s.world x w ∧
      x.Fits s.world w.ledger.view (s.world.ledger.account c.codeAt).code ∧
      ((c.run runner).run s.world).2.starts =
        ⟨x.artifact, Call.environment s.world c, meter⟩ :: s.world.starts := by
  rcases Call.starts_run runner c s.world with hnone | ⟨x, w, meter, hhands, hstarts⟩
  · exact .inl hnone
  · exact .inr ⟨x, w, meter, hhands, h.occurs.fits hhands, hstarts⟩

/-- A start in a call, in a world that occurs, of what fits the code there. -/
def Fit (E : Involved) (s : Start) : Prop := ∃ (call : Call) (t u : World) (x : Call.Prepared)
  (m : Meter), Occurs E t ∧ call.Hands t x u ∧
    x.Fits t u.ledger.view (t.ledger.account call.codeAt).code ∧
    s = ⟨x.artifact, Call.environment t call, m⟩

def Fitted (E : Involved) (w w' : World) : Prop :=
  ∃ ss, w'.starts = ss ++ w.starts ∧ ∀ s ∈ ss, Fit E s

instance : IsPreorder World (Fitted E) where
  refl _ := ⟨[], rfl, nofun⟩
  trans w _ _ := by
    rintro ⟨ss, hss, hfit⟩ ⟨ss', hss', hfit'⟩
    exact ⟨ss' ++ ss, by rw [hss', hss, List.append_assoc],
      List.forall_mem_append.mpr ⟨hfit', hfit⟩⟩

theorem fitted_of_starts (h : w'.starts = w.starts) : Fitted E w w' := ⟨[], h, nofun⟩

theorem Occurs.fitted_run (h : Occurs E w) (runner : Runner) (call : Call) :
    Fitted E w ((call.run runner).run w).2 := by
  rcases Call.starts_run runner call w with hnone | ⟨x, u, m, hhands, hstarts⟩
  · exact fitted_of_starts hnone
  · refine ⟨[⟨x.artifact, Call.environment w call, m⟩], hstarts, fun s hs => ?_⟩
    rw [List.mem_singleton.mp hs]
    exact ⟨call, w, u, x, m, h, hhands, h.fits hhands, rfl⟩

theorem Occurs.fitted_frame (h : Occurs E w) (pay : Bool) (runner : Runner) (call : Call) :
    Fitted E w (w.frame pay call (Call.run runner)).2 := by
  have hpaid : Occurs E (if pay then w.bare (Ledger.transfer call.caller call.target call.value)
      else (.ok none, w)).2 := by
    cases pay with
    | false => exact h
    | true => exact h.act (.transfer _ _ _)
  have hbefore : (if pay then w.bare (Ledger.transfer call.caller call.target call.value)
      else (.ok none, w)).2.starts = w.starts := by
    cases pay <;> rfl
  unfold World.frame
  generalize (if pay then w.bare (Ledger.transfer call.caller call.target call.value)
    else (.ok none, w)) = paid at hpaid hbefore
  obtain ⟨result, w₁⟩ := paid
  have hcalled : Fitted E w ((call.run runner).run w₁).2 :=
    IsTrans.trans _ _ _ (fitted_of_starts hbefore) (hpaid.fitted_run runner call)
  -- going back to a checkpoint does not undo what was started
  cases result with
  | error f => exact fitted_of_starts hbefore
  | ok e =>
    cases e with
    | some e => exact fitted_of_starts hbefore
    | none =>
      dsimp only
      rcases hcall : (call.run runner).run w₁ with ⟨r, w₂⟩
      rw [hcall] at hcalled
      cases r with
      | none => exact hcalled
      | some r =>
        dsimp only
        split
        · exact hcalled
        · exact hcalled

section
variable {r : DeployRequest} {creator address : Address} {code : Octets} {runner : Runner}

theorem fitted_onLedger {α : Type} (m : LedgerM α) : Keeps (Fitted E) (Deploy.onLedger m) := by
  have hwithin : Keeps World.Within (World.onLedger m) := World.within_onState
  exact (hwithin.mono fun _ _ h => fitted_of_starts h.starts).adapt _

theorem bare_of_gives {α : Type} {m : LedgerM α} {a : α} (h : Gives (Deploy.onLedger m) w a w') :
    w' = (w.bare m).2 := by
  obtain ⟨l, hl, rfl⟩ := Deploy.gives_onLedger h
  have hledger : (outcome m w.ledger).2 = l := congrArg Prod.snd hl
  rw [← hledger]
  rfl

theorem Occurs.fitted_construct (h : Occurs E w) :
    KeepsFrom (Fitted E) (Deploy.construct runner r address) w := by
  refine (fitted_onLedger _ w).bind fun e t ht => ?_
  cases e with
  | some e => exact keepsFrom_throw _ _
  | none =>
    have hpaid : Occurs E t := bare_of_gives ht ▸ h.act (.transfer _ _ _)
    refine KeepsFrom.bind (hpaid.fitted_run runner _) fun result u _ => ?_
    cases result with
    | none => exact keepsFrom_throw _ _
    | some result => exact keepsFrom_ite (fun _ => keepsFrom_throw _ _) fun _ => keepsFrom_pure _ _

theorem Occurs.fitted_install (h : Occurs E w) (hnone : (w.ledger.account address).code = [])
    (hcode : E.Allows code) :
    KeepsFrom (Fitted E) (Deploy.install runner r creator address code) w := by
  refine (fitted_onLedger _ w).bind fun u w₁ h₁ => (fitted_onLedger _ w₁).bind fun u w₂ h₂ =>
    (fitted_onLedger _ w₂).bind fun u w₃ h₃ => ?_
  have hcodes : w₁.ledger.codes = w.ledger.codes := by
    obtain ⟨l, hl, rfl⟩ := Deploy.gives_onLedger h₁
    exact (Ledger.codes_bumpNonce.of_gives hl).symm
  have hnone₁ : (w₁.ledger.account address).code = [] := (congrFun hcodes address).trans hnone
  rw [bare_of_gives h₁] at hnone₁ h₂
  rw [bare_of_gives h₂] at h₃
  rw [bare_of_gives h₃]
  have hplaced := ((h.act (.count creator)).act (.create hnone₁ hcode)).act (.count address)
  exact keepsFrom_ite (fun _ => hplaced.fitted_construct) fun _ => keepsFrom_pure _ _

theorem Occurs.fitted_deploy (h : Occurs E w)
    (hcode : ∀ code, r.build.code = .ok code → E.Allows code) :
    KeepsFrom (Fitted E) (deploy runner r) w := by
  have hfail : ∀ {α : Type} (x : Except DeployError α), Keeps (Fitted E) (Deploy.orFail x) := by
    intro α x
    cases x with
    | ok a => exact keeps_pure _
    | error e => exact keeps_throw _
  refine (hfail _ w).bind fun code w₁ h₁ => (hfail _ w₁).bind fun init w₂ h₂ => ?_
  obtain ⟨hbuild, rfl⟩ := Deploy.gives_orFail h₁
  obtain ⟨-, rfl⟩ := Deploy.gives_orFail h₂
  refine (keeps_get w).bind fun w₃ t hget => ?_
  obtain ⟨rfl, rfl⟩ := gives_get.mp hget
  refine keepsFrom_guard fun _ => ?_
  have haddress : ∀ creator, Keeps (Fitted E) (Deploy.newAddress r creator init) := by
    intro creator
    unfold Deploy.newAddress
    split
    · exact keeps_pure _
    · exact (fitted_onLedger _).bind fun _ => keeps_pure _
  refine (haddress _ w).bind fun address w₄ h₄ => (fitted_onLedger _ w₄).bind fun target w₅ h₅ => ?_
  refine keepsFrom_guard fun hfree => ?_
  have hoccurs := (h.fetch (Deploy.gives_newAddress h₄)).fetch (Deploy.gives_hold h₅)
  obtain ⟨l, hl, rfl⟩ := Deploy.gives_onLedger h₅
  have hinstalled : KeepsFrom (Fitted E)
      (Deploy.install runner r (Deploy.creator w r) address code) _ :=
    hoccurs.fitted_install (Deploy.code_of_hold hl hfree) (hcode code hbuild)
  exact (World.keepsFrom_atomically_of_revert hinstalled fun _ h => h).bind
    fun _ _ _ => keepsFrom_pure _ _

/-- Whatever a call in a frame starts fits, and whatever is started while a program is deployed, which
is its constructor, fits too. -/
theorem Reachable.nested_starts_fit (h : Reachable E s) (runner : Runner) :
    (∀ pay call, Fitted E s.world (s.world.frame pay call (Call.run runner)).2) ∧
      ∀ r : DeployRequest, (∀ code, r.build.code = .ok code → E.Allows code) →
        Fitted E s.world (outcome (deploy runner r) s.world).2 :=
  ⟨fun pay call => h.occurs.fitted_frame pay runner call,
    fun _ hcode => h.occurs.fitted_deploy hcode⟩

end

/-! ### The small package, called twice -/

theorem fresh_furnished (rich : Address) : Fresh .small ⟨World.furnished rich, []⟩ := by
  refine ⟨rfl, ⟨1, rfl⟩, rfl, fun a => ?_, fun _ _ => rfl⟩
  have haccount := World.account_furnished rich a
  change (World.furnished rich).ledger.store.account a = _ at haccount
  change Involved.small.Allows ((World.furnished rich).ledger.store.account a).code
  rw [haccount]
  split_ifs
  · exact fun _ _ _ => rfl
  · exact fun _ _ hmodule => nomatch hmodule
  · exact fun _ _ hmodule => nomatch hmodule

theorem priced_again {r : CallResult}
    (hcall : (Call.run World.quiet World.furnishedCall).run (World.furnished 2) = (some r, w))
    (hr : r.succeeded = true) :
    let u : World := { w with config := {}, block := {}, transaction := {} }
    u.Active smallHash ∧ ∃ x u', World.furnishedCall.Priced u smallModule x u' := by
  intro u
  have hcode := World.keccak_furnished 2
  have hends := Call.run_ends World.quiet World.furnishedCall (World.furnished 2)
  have hfollows := (Call.follows_run .any World.quiet World.furnishedCall (World.furnished 2)).ledger
    (Rules.sound_any _)
  rw [hcall] at hends hfollows
  have heffect := hends.of_returned hr
  have hhealthy : u.ledger.Healthy := (World.healthy_furnished 2).reaches hfollows
  have hparams : u.ledger.view.params = {} :=
    (heffect.params Layout.apart_smallHash (World.hashed_furnished 2 _)).trans
      (World.params_of_blank fun _ => rfl)
  have hpackage : (u.ledger.account 1).code = smallPackage := by
    refine (heffect.code 1).trans ?_
    rw [World.account_furnished, if_pos rfl]
  have hactive : u.Active smallHash := by
    have hentered := Call.active_run Layout.apart_smallHash (World.hashed_furnished 2 _)
      (World.version_furnished 2) (hcode.symm ▸ World.inactive_furnished 2) hcall hr
    rw [show keccak ((World.furnished 2).ledger.account World.furnishedCall.codeAt).code = _ from hcode]
      at hentered
    exact hentered.of_ledger rfl rfl
  obtain ⟨a, ha⟩ := compile_smallModule
  obtain ⟨y, hload⟩ := u.cache.load_of_compiles u.config.autoCache ha
  obtain ⟨x, u', -, hpriced, -⟩ := Call.priced_of_active (c := World.furnishedCall) (w := u) (y := y)
    (hhealthy.loadable _) (by
      change u.Active (keccak (u.ledger.account 1).code)
      rw [hpackage, keccak_smallPackage]
      exact hactive) (by
      change Package.module? u.ledger.view.params.maxWasmSize.toNat (u.ledger.account 1).code = _
      rw [hparams, hpackage]
      exact World.module?_smallPackage) (by rw [hparams]; exact hload)
  exact ⟨hactive, _, u', hpriced⟩

theorem gas_furnishedCall (x : Call.Equipped) (w : World) : x.gas w ≤ World.furnishedCall.gas :=
  x.gas_le w

theorem priced_furnished : ∃ x w', World.furnishedCall.Priced (World.furnished 2) smallModule x w' := by
  obtain ⟨y, fee, hw⟩ := World.awaits_furnished 2
  have hfunds : max64 ≤ ((World.furnished 2).ledger.account 2).balance.toNat := by
    rw [World.balance_furnished (by decide)]
    decide
  obtain ⟨w', hpriced⟩ := Call.priced_of_awaits (c := World.furnishedCall) hw rfl rfl
    (Nat.le_trans hw.fee_le hfunds)
  exact ⟨_, w', hpriced⟩

/-- A call hands the runner a program, which fits the code that is called. -/
def Started (runner : Runner) (call : Call) (w : World) : Prop := ∃ x u meter, call.Hands w x u ∧
  x.Fits w u.ledger.view (w.ledger.account call.codeAt).code ∧
  ((call.run runner).run w).2.starts = ⟨x.artifact, Call.environment w call, meter⟩ :: w.starts

/-- The small package is started twice: by a call that activates it, and in the next transaction under
the record that there is then. -/
theorem starts_fit_furnished :
    (¬ (World.furnished 2).Active smallHash ∧
        Started World.quiet World.furnishedCall (World.furnished 2)) ∧
      ∃ r w, (Call.run World.quiet World.furnishedCall).run (World.furnished 2) = (some r, w) ∧
        let next : World := { w with config := {}, block := {}, transaction := {} }
        next.Active smallHash ∧ Started World.quiet World.furnishedCall next := by
  have hfits : ∀ w, Reachable .small ⟨w, []⟩ →
      ((Call.run World.quiet World.furnishedCall).run w).2.starts ≠ w.starts →
      Started World.quiet World.furnishedCall w := fun w hw hne =>
    (hw.starts_fit World.quiet World.furnishedCall).resolve_left hne
  have hfresh : Reachable .small ⟨World.furnished 2, []⟩ := .fresh (fresh_furnished 2)
  obtain ⟨y, u, hpriced⟩ := priced_furnished
  have hfirst := hfits _ hfresh (hpriced.starts_ne (gas_furnishedCall y _) _)
  obtain ⟨r, w, hcall, hr⟩ := World.called_furnished
  obtain ⟨hactive, x, t, hagain⟩ := priced_again hcall hr
  have hcalled := hfresh.act (.call World.quiet World.furnishedCall)
  rw [hcall] at hcalled
  have hnext := hcalled.act (.set {} {} {})
  have hsecond := hfits _ hnext (hagain.starts_ne (gas_furnishedCall x _) _)
  exact ⟨⟨World.inactive_furnished 2, hfirst⟩, r, w, hcall, hactive, hsecond⟩

end Session
end Inkwell
