import Inkwell.Proofs.Fees
set_option autoImplicit false

/-! What deployments create: an account with the code of the build at the address that is due, and
nothing at all if any step fails. -/

namespace Inkwell

namespace View

variable {v : View} {creator address a : Address}

def created (creator address : Address) (code : Octets) (v : View) : View :=
  ((v.counted creator).coded address code).counted address

section
variable (hne : address ≠ creator)
include hne

theorem account_created_self (code : Octets) (hfresh : (v.account address).nonce = 0) :
    (v.created creator address code).account address =
      { v.account address with code, nonce := 1 } := by
  simp only [created, counted, coded, Function.update_self, Function.update_of_ne hne, hfresh]
  rfl

theorem account_created_creator (code : Octets) : (v.created creator address code).account creator =
    { v.account creator with nonce := (v.account creator).nonce + 1 } := by
  simp only [created, counted, coded, Function.update_self, Function.update_of_ne (Ne.symm hne)]

end
end View

def DeployRequest.Constructs (r : DeployRequest) : Prop := r.constructorArgs.isSome ∨ r.value ≠ 0

namespace Deploy

variable {w w' : World} {r : DeployRequest} {maker address : Address} {code init : Octets}
  {runner : Runner}

/-- The address that is due to what an account creates. -/
def dueAddress (r : DeployRequest) (maker : Address) (nonce : UInt64) (init : Octets) : Address :=
  match r.salt with
  | some salt => maker.createdWithSalt salt (keccak init)
  | none => maker.created nonce

/-- How a deployment goes on once the account is in place: that is all, or the account is paid, and its
constructor is called and returns. -/
inductive Finishes (runner : Runner) (r : DeployRequest) (address : Address) (w : World) :
    World → Prop
  | placed : ¬ r.Constructs → Finishes runner r address w w
  | constructed {l : Ledger} {result : CallResult} {w' : World} : r.Constructs →
      View.Pays r.caller address r.value w.ledger.view l.view →
      (Call.run runner (constructorCall r address)).run { w with ledger := l } = (some result, w') →
      result.succeeded = true →
      Call.Effect (constructorCall r address) { w with ledger := l } w'.ledger.view →
      Finishes runner r address w w'

/-- A deployment has created an account with this code: it is at the address that is due, which was
free; it counts from one on, and its creator has counted it. Beside that the value has moved to it,
and what its constructor is there for has been done. -/
structure Creates (runner : Runner) (r : DeployRequest) (w : World) (code : Octets)
    (address : Address) (w' : World) : Prop where
  built : r.build.code = .ok code
  due : ∃ init, InitCode.ofCode code = .ok init ∧
    address = dueAddress r (creator w r) (w.ledger.account (creator w r)).nonce init
  free : (w.ledger.account address).nonce = 0 ∧ (w.ledger.account address).code = []
  coded : (w'.ledger.account address).code = code
  begun : (w'.ledger.account address).nonce = 1
  counted : (w'.ledger.account (creator w r)).nonce = (w.ledger.account (creator w r)).nonce + 1
  moved : ∃ receiver fee, (¬ r.Constructs → fee = 0) ∧
    w'.ledger.account = Accounts.move r.caller receiver fee (Accounts.move r.caller address r.value
      (w.ledger.view.created (creator w r) address code).account)
  finishes : ∃ l, l.view = w.ledger.view.created (creator w r) address code ∧
    Finishes runner r address { w with ledger := l } w'

theorem newAddress_eq (h : Gives (newAddress r maker init) w address w') :
    address = dueAddress r maker (w.ledger.account maker).nonce init := by
  unfold newAddress at h
  unfold dueAddress
  cases hsalt : r.salt with
  | some salt =>
    rw [hsalt] at h
    exact (gives_pure.mp h).1.symm
  | none =>
    rw [hsalt] at h
    obtain ⟨x, t, hhold, h⟩ := gives_bind.mp h
    obtain ⟨l, hl, rfl⟩ := gives_onLedger hhold
    have hnonce : x.nonce = (w.ledger.account maker).nonce :=
      congrArg Account.nonce (Ledger.gives_hold hl).1
    rw [← hnonce]
    exact (gives_pure.mp h).1.symm

theorem Finishes.moved (h : Finishes runner r address w w') : ∃ receiver fee,
    (¬ r.Constructs → fee = 0) ∧ w'.ledger.account = Accounts.move r.caller receiver fee
      (Accounts.move r.caller address r.value w.ledger.account) := by
  cases h with
  | placed hplaced =>
    have hvalue : r.value = 0 := by
      by_contra hne
      exact hplaced (.inr hne)
    refine ⟨0, 0, fun _ => rfl, ?_⟩
    rw [hvalue, Accounts.move_zero, Accounts.move_zero]
  | @constructed l _ _ hconstructs hpays _ _ heffect =>
    obtain ⟨receiver, fee, hmoved⟩ := heffect.moved
    refine ⟨receiver, fee, fun hplaced => absurd hconstructs hplaced, ?_⟩
    have hpaid : l.account = Accounts.move r.caller address r.value w.ledger.account :=
      congrArg View.account hpays.paid
    rw [← hpaid]
    exact hmoved

theorem finishes_of_gives {u : Unit}
    (h : Gives (if r.constructorArgs.isSome ∨ r.value ≠ 0 then construct runner r address else pure ())
      w u w') : Finishes runner r address w w' := by
  by_cases hconstructs : r.constructorArgs.isSome ∨ r.value ≠ 0
  · rw [if_pos hconstructs] at h
    obtain ⟨l, result, hpays, hrun, hreturned, heffect⟩ := gives_construct h
    exact .constructed hconstructs hpays hrun hreturned heffect
  · rw [if_neg hconstructs] at h
    obtain ⟨-, rfl⟩ := gives_pure.mp h
    exact .placed hconstructs

theorem finishes_install {u : Unit} (hne : address ≠ maker)
    (hcount : (w.ledger.account maker).nonce.toNat + 1 < 2 ^ 64)
    (hfresh : (w.ledger.account address).nonce = 0)
    (h : Gives (install runner r maker address code) w u w') :
    ∃ l, l.view = w.ledger.view.created maker address code ∧
      Finishes runner r address { w with ledger := l } w' := by
  obtain ⟨u₁, w₁, hmade, h⟩ := gives_bind.mp h
  obtain ⟨u₂, w₂, hcode, h⟩ := gives_bind.mp h
  obtain ⟨u₃, w₃, hbegun, h⟩ := gives_bind.mp h
  obtain ⟨l₁, h₁, rfl⟩ := gives_onLedger hmade
  obtain ⟨l₂, h₂, rfl⟩ := gives_onLedger hcode
  obtain ⟨l₃, h₃, rfl⟩ := gives_onLedger hbegun
  have hview₂ : l₂.view = (w.ledger.view.counted maker).coded address code := by
    rw [Ledger.view_setCode h₂, Ledger.view_bumpNonce hcount h₁]
  have hnonce : (l₂.account address).nonce = 0 := by
    have haccount : l₂.account = ((w.ledger.view.counted maker).coded address code).account :=
      congrArg View.account hview₂
    rw [haccount]
    simp only [View.counted, View.coded, Function.update_self, Function.update_of_ne hne]
    exact hfresh
  have hview₃ : l₃.view = w.ledger.view.created maker address code := by
    rw [Ledger.view_bumpNonce (by rw [hnonce]; decide) h₃, hview₂]
    rfl
  exact ⟨l₃, hview₃, finishes_of_gives h⟩

theorem Finishes.same (h : Finishes runner r address w w') (a : Address) :
    (w'.ledger.account a).code = (w.ledger.account a).code ∧
      (w'.ledger.account a).nonce = (w.ledger.account a).nonce := by
  obtain ⟨receiver, fee, -, hmoved⟩ := h.moved
  obtain ⟨b, hb⟩ := Accounts.exists_move r.caller address r.value w.ledger.account a
  obtain ⟨b', hb'⟩ := Accounts.exists_move r.caller receiver fee
    (Accounts.move r.caller address r.value w.ledger.account) a
  rw [hmoved, hb', hb]
  exact ⟨rfl, rfl⟩

/-- A deployment that gives an address other than its creator's has created the account there. -/
theorem creates_of_gives (h : Gives (deploy runner r) w address w') (hne : address ≠ creator w r)
    (hcount : (w.ledger.account (creator w r)).nonce.toNat + 1 < 2 ^ 64) :
    ∃ code, Creates runner r w code address w' := by
  obtain ⟨code, init, hsteps⟩ := steps_of_gives h
  obtain ⟨w₁, hdue⟩ := hsteps.due
  obtain ⟨l₂, hreads, hinstall⟩ := hsteps.installed
  have hfresh : (w.ledger.account address).nonce = 0 := hsteps.free.1
  obtain ⟨l, hl, hfinishes⟩ := finishes_install hne (hreads.account ▸ hcount) (hreads.account ▸ hfresh)
    hinstall
  rw [hreads.view] at hl
  have hplaced : l.account = (w.ledger.view.created (creator w r) address code).account :=
    congrArg View.account hl
  have hself := View.account_created_self (v := w.ledger.view) hne code hfresh
  have hmaker := View.account_created_creator (v := w.ledger.view) hne code
  obtain ⟨receiver, fee, hzero, hmoved⟩ := hfinishes.moved
  rw [hplaced] at hmoved
  refine ⟨code, hsteps.built, ⟨init, hsteps.wrapped, newAddress_eq hdue⟩, hsteps.free, ?_, ?_, ?_,
    ⟨receiver, fee, hzero, hmoved⟩, l, hl, hfinishes⟩
  · rw [(hfinishes.same address).1, hplaced, hself]
  · rw [(hfinishes.same address).2, hplaced, hself]
  · rw [(hfinishes.same (creator w r)).2, hplaced, hmaker]
    rfl

/-- A deployment that fails, wherever it does, changes nothing that lasts, and one that gives an
address has created an account there: it has the code of the build, at the address that is due, and
whoever deploys has paid the value to it, and for nothing else but the activation of its constructor,
which is called just if there are arguments or value for it. -/
theorem creates_or_nothing (runner : Runner) (r : DeployRequest) (w : World)
    (hexact : w.ledger.Exact) :
    (∀ e w', Fails (deploy runner r) w e w' → w'.ledger.view = w.ledger.view) ∧
      ∀ address w', Gives (deploy runner r) w address w' → address ≠ creator w r →
        (w.ledger.account (creator w r)).nonce.toNat + 1 < 2 ^ 64 →
        ∃ code, Creates runner r w code address w' :=
  ⟨fun e w' h => (leavesNothing_deploy runner r w e w' h).view hexact,
    fun _ _ h hne hcount => creates_of_gives h hne hcount⟩

/-! ### A deployment that goes through -/

section
variable {α : Type} {init wasm : Octets} {y : Loaded} {fee : Word} {l : Ledger}

theorem onLedger_of_gives {m : LedgerM α} {a : α} (h : Gives m w.ledger a l) :
    Gives (onLedger m) w a { w with ledger := l } := gives_adapt.mpr (World.onLedger_of_gives h)

theorem construct_of_awaits (hpaid : Gives (Ledger.transfer r.caller address r.value) w.ledger none l)
    (hw : World.Awaits { w with ledger := l } address wasm y fee)
    (hauto : w.config.autoActivate = true) (hfee : fee ≤ (l.account r.caller).balance)
    (hgas : max64 ≤ r.gas) (hends : ∀ a env m, (runner a env m).1 = ⟨.success, []⟩) :
    ∃ w', Gives (construct runner r address) w ⟨⟩ w' := by
  obtain ⟨result, hcall, hreturned⟩ := Call.run_of_awaits (c := constructorCall r address) hw rfl hauto
    hfee hgas hends
  rcases hrun : (Call.run runner (constructorCall r address)).run { w with ledger := l } with ⟨x, w'⟩
  rw [hrun] at hcall
  obtain rfl : x = some result := hcall
  have hlifted : Gives (liftM (Call.run runner (constructorCall r address)) : DeployM _)
      { w with ledger := l } (some result) w' := by
    unfold Gives
    rw [outcome_lift, hrun]
  refine ⟨w', (onLedger_of_gives hpaid).bind (hlifted.bind ?_)⟩
  dsimp only
  rw [hreturned]
  exact gives_pure.mpr ⟨rfl, rfl⟩

theorem newAddress_of_healthy (hw : w.ledger.Healthy) (r : DeployRequest) (maker : Address)
    (init : Octets) : ∃ l, w.ledger.Reads l ∧ Gives (newAddress r maker init) w
      (dueAddress r maker (w.ledger.account maker).nonce init) { w with ledger := l } := by
  unfold newAddress dueAddress
  cases r.salt with
  | some salt => exact ⟨w.ledger, .refl, gives_pure.mpr ⟨rfl, rfl⟩⟩
  | none =>
    obtain ⟨x, l, hx⟩ := Ledger.hold_of_account (hw.account maker)
    have hnonce : x.nonce = (w.ledger.account maker).nonce :=
      congrArg Account.nonce (Ledger.gives_hold hx).1
    refine ⟨l, Ledger.keeps_hold.of_gives hx, (onLedger_of_gives hx).bind ?_⟩
    rw [hnonce]
    exact gives_pure.mpr ⟨rfl, rfl⟩

/-- What is left to do once an account is in place goes through, whatever ledger that leaves. -/
def Goes (runner : Runner) (r : DeployRequest) (address : Address) (code : Octets) (w : World) : Prop :=
  ∀ l, w.ledger.Reaches .any l → (l.account address).code = code → w.ledger.Funded l →
    ∃ w', Gives (if r.constructorArgs.isSome ∨ r.value ≠ 0 then construct runner r address else pure ())
      { w with ledger := l } ⟨⟩ w'

theorem install_of_free (hw : w.ledger.Healthy) (hfree : (w.ledger.account address).code = [])
    (hgoes : Goes runner r address code w) (maker : Address) :
    ∃ w', Gives (install runner r maker address code) w ⟨⟩ w' := by
  obtain ⟨l₁, h₁, hl₁⟩ := hw.bumpNonce maker
  have hcodes₁ : w.ledger.codes = l₁.codes := Ledger.codes_bumpNonce.of_gives h₁
  have hnone : (l₁.account address).code = [] := (congrFun hcodes₁ address).symm.trans hfree
  obtain ⟨l₂, h₂, hl₂⟩ := hl₁.setCode hnone code
  obtain ⟨l₃, h₃, -⟩ := hl₂.bumpNonce address
  have hcodes₃ : l₂.codes = l₃.codes := Ledger.codes_bumpNonce.of_gives h₃
  have hcode : (l₃.account address).code = code :=
    (congrFun hcodes₃ address).symm.trans (Ledger.gives_setCode h₂)
  have hr₁ : w.ledger.Reaches .any l₁ := Ledger.keeps_bumpNonce.of_gives h₁
  have hr₂ : l₁.Reaches .any l₂ := (Ledger.keepsFrom_setCode hnone trivial).of_gives h₂
  have hr₃ : l₂.Reaches .any l₃ := Ledger.keeps_bumpNonce.of_gives h₃
  have hfunded₁ : w.ledger.Funded l₁ := Ledger.funded_bumpNonce.of_gives h₁
  have hfunded₂ : l₁.Funded l₂ := Ledger.funded_setCode.of_gives h₂
  have hfunded₃ : l₂.Funded l₃ := Ledger.funded_bumpNonce.of_gives h₃
  obtain ⟨w', hfinish⟩ := hgoes l₃ ((hr₁.trans hr₂).trans hr₃) hcode
    (IsTrans.trans _ _ _ (IsTrans.trans _ _ _ hfunded₁ hfunded₂) hfunded₃)
  exact ⟨w', (onLedger_of_gives h₁).bind ((onLedger_of_gives (w := { w with ledger := l₁ }) h₂).bind
    ((onLedger_of_gives (w := { w with ledger := l₂ }) h₃).bind hfinish))⟩

theorem deploy_of_free (hw : w.ledger.Healthy) (hbuild : r.build.code = .ok code)
    (hinit : InitCode.ofCode code = .ok init) (hlimit : code.length ≤ w.config.chain.maxCodeSize)
    (hdue : address = dueAddress r (creator w r) (w.ledger.account (creator w r)).nonce init)
    (hfree : (w.ledger.account address).nonce = 0 ∧ (w.ledger.account address).code = [])
    (hgoes : Goes runner r address code w) : ∃ w', Gives (deploy runner r) w address w' := by
  have hcode : Gives (orFail r.build.code) w code w := by
    rw [hbuild]
    exact gives_pure.mpr ⟨rfl, rfl⟩
  have hlength : Gives (orFail (InitCode.ofCode code)) w init w := by
    rw [hinit]
    exact gives_pure.mpr ⟨rfl, rfl⟩
  obtain ⟨l₁, hreads₁, haddress⟩ := newAddress_of_healthy hw r (creator w r) init
  rw [← hdue] at haddress
  obtain ⟨x, l₂, hx⟩ := Ledger.hold_of_account ((hw.of_reads hreads₁).account address)
  have hreads : w.ledger.Reads l₂ := hreads₁.trans (Ledger.keeps_hold.of_gives hx)
  have hheld : x.toAccount = w.ledger.account address := by
    rw [(Ledger.gives_hold hx).1]
    exact congrFun hreads₁.account address
  have hgoes₂ : Goes runner r address code { w with ledger := l₂ } :=
    fun l hreaches hcode hfunded => hgoes l ((Ledger.Reads.reaches hreads).trans hreaches) hcode
      (IsTrans.trans _ _ _ hreads.funded hfunded)
  obtain ⟨w', hinstall⟩ := install_of_free (w := { w with ledger := l₂ }) (hw.of_reads hreads)
    (hreads.account ▸ hfree.2) hgoes₂ (creator w r)
  refine ⟨w', hcode.bind (hlength.bind ((gives_get.mpr ⟨rfl, rfl⟩).bind (gives_guard.mpr
    ⟨Nat.not_lt.mpr hlimit, haddress.bind ((onLedger_of_gives (w := { w with ledger := l₁ }) hx).bind
      (gives_guard.mpr ⟨?_, (World.atomically_of_gives hinstall).bind (gives_pure.mpr ⟨rfl, rfl⟩)⟩))⟩)))⟩
  rw [hheld]
  simp [hfree]

end

/-- Account two deploys the small package, and pays for its constructor. -/
def furnishedDeploy : DeployRequest where
  build := ⟨.package, smallPackage⟩
  caller := 2
  constructorArgs := some []
  value := 5
  gas := max64

theorem goes_furnishedDeploy :
    Goes World.quiet furnishedDeploy World.crowded smallPackage (World.furnished 2) := by
  intro l hreaches hcode hfunded
  have hbalance : (l.account 2).balance = 0x20000000000000000 :=
    (hfunded.balance 2).trans (World.balance_furnished (by decide))
  have hl := (World.healthy_furnished 2).reaches hreaches
  have hfunds : (5 : Word) ≤ (l.account 2).balance := by
    rw [hbalance]
    decide
  obtain ⟨m, hpaid⟩ := hl.transfer hfunds World.crowded
  have hpays := Ledger.gives_transfer hpaid
  have hpaidOut : l.Reaches .any m := Ledger.keeps_transfer.of_gives hpaid
  have hslot : m.view.slot = (World.furnished 2).ledger.view.slot := hpays.slot.trans hfunded.slot
  obtain ⟨y, fee, hw, -⟩ := World.awaits_of_unrecorded (w := { World.furnished 2 with ledger := m })
    (a := World.crowded) (hl.reaches hpaidOut)
    ((View.params_of_slot hslot).trans (World.params_of_blank fun _ => rfl))
    (View.record?_of_slot hslot smallHash) ((hpays.code _).trans hcode) rfl rfl
  have hfee : fee ≤ (m.account 2).balance := by
    have hspent := (hpays.moves (by decide : (2 : Address) ≠ World.crowded)).paid
    change (m.account 2).balance.toNat + (5 : Word).toNat = (l.account 2).balance.toNat at hspent
    have hmost := hw.fee_le
    rw [hbalance] at hspent
    change fee.toNat ≤ _
    have hlarge : max64 + (5 : Word).toNat ≤ (0x20000000000000000 : Word).toNat := by decide
    omega
  exact construct_of_awaits (r := furnishedDeploy) hpaid hw rfl hfee (Nat.le_refl _) fun _ _ _ => rfl

theorem creates_or_nothing_furnished : (World.furnished 2).ledger.Exact ∧ ∃ w' code,
    Gives (deploy World.quiet furnishedDeploy) (World.furnished 2) World.crowded w' ∧
      Creates World.quiet furnishedDeploy (World.furnished 2) code World.crowded w' := by
  have hexact : (World.furnished 2).ledger.Exact := (World.healthy_furnished 2).bounded.exact
  have hempty : (World.furnished 2).ledger.account World.crowded = {} := by
    rw [World.account_furnished, if_neg (by decide), if_neg (by decide)]
  have hnonce : ((World.furnished 2).ledger.account 2).nonce = 0 := by
    rw [World.account_furnished, if_neg (by decide), if_pos rfl]
  have hmaker : creator (World.furnished 2) furnishedDeploy = 2 := rfl
  have hbuild : furnishedDeploy.build.code = .ok smallPackage := by
    have hprogram : Package.isProgram smallPackage := by decide +kernel
    change (if Package.isProgram smallPackage then Except.ok smallPackage else .error .noMark) = _
    rw [if_pos hprogram]
  obtain ⟨init, hinit⟩ : ∃ init, InitCode.ofCode smallPackage = .ok init := by
    unfold InitCode.ofCode InitCode.ofCode?
    rw [if_pos (by decide +kernel)]
    exact ⟨_, rfl⟩
  have hdue : World.crowded = dueAddress furnishedDeploy (creator (World.furnished 2) furnishedDeploy)
      ((World.furnished 2).ledger.account (creator (World.furnished 2) furnishedDeploy)).nonce init := by
    rw [hmaker, hnonce]
    exact World.created_crowded.symm
  obtain ⟨w', hgives⟩ := deploy_of_free (World.healthy_furnished 2) hbuild hinit (by decide +kernel)
    hdue (by rw [hempty]; exact ⟨rfl, rfl⟩) goes_furnishedDeploy
  obtain ⟨-, hcreates⟩ := creates_or_nothing World.quiet furnishedDeploy (World.furnished 2) hexact
  obtain ⟨code, hcreated⟩ := hcreates World.crowded w' hgives (by rw [hmaker]; decide)
    (by rw [hmaker, hnonce]; decide)
  exact ⟨hexact, w', code, hgives, hcreated⟩

end Deploy
end Inkwell
