import Inkwell.Proofs.ProgramCalls
import Inkwell.Deploy
set_option autoImplicit false

/-! Deploying programs: code is written to an account that has none, and what the constructor does
is done by a call. -/

namespace Inkwell

namespace Deploy

variable {R : Rules} {w w' : World} {α : Type} {r : DeployRequest} {creator address : Address}
  {code init : Octets} {runner : Runner}

theorem keepsFrom_onLedger {m : LedgerM α} (h : KeepsFrom (Ledger.Reaches R.writes) m w.ledger) :
    KeepsFrom R.Follows (onLedger m) w :=
  World.keepsFrom_onState fun _ => Access.keepsFrom_onLedger h

theorem keeps_onLedger {m : LedgerM α} (h : Keeps (Ledger.Reaches R.writes) m) :
    Keeps R.Follows (onLedger m) := fun _ => keepsFrom_onLedger (h _)

theorem gives_onLedger {m : LedgerM α} {a : α} (h : Gives (onLedger m) w a w') :
    ∃ l, Gives m w.ledger a l ∧ w' = { w with ledger := l } :=
  World.gives_onLedger (gives_adapt.mp h)

theorem reading_orFail (x : Except DeployError α) : Keeps World.Reading (orFail x) := by
  cases x with
  | ok a => exact keeps_pure a
  | error e => exact keeps_throw e

theorem reading_hold {a : Address} : Keeps World.Reading (onLedger (Ledger.hold a)) :=
  (World.reading_onLedger Ledger.keeps_hold).adapt _

theorem gives_orFail {x : Except DeployError α} {a : α} (h : Gives (orFail x) w a w') :
    x = .ok a ∧ w = w' := by
  cases x with
  | error e => exact absurd h not_gives_throw
  | ok b =>
    obtain ⟨rfl, rfl⟩ := gives_pure.mp h
    exact ⟨rfl, rfl⟩

theorem reading_newAddress : Keeps World.Reading (newAddress r creator init) := by
  unfold newAddress
  cases r.salt with
  | some salt => exact keeps_pure _
  | none => exact reading_hold.bind fun _ => keeps_pure _

theorem gives_hold {a : Address} {x : Held} (h : Gives (onLedger (Ledger.hold a)) w x w') :
    ∃ l, w.ledger.Reads l ∧ w' = { w with ledger := l } := by
  obtain ⟨l, hl, rfl⟩ := gives_onLedger h
  exact ⟨l, Ledger.keeps_hold.of_gives hl, rfl⟩

theorem gives_newAddress (h : Gives (newAddress r creator init) w address w') :
    ∃ l, w.ledger.Reads l ∧ w' = { w with ledger := l } := by
  unfold newAddress at h
  cases hsalt : r.salt with
  | some salt =>
    rw [hsalt] at h
    obtain ⟨-, rfl⟩ := gives_pure.mp h
    exact ⟨w.ledger, .refl, rfl⟩
  | none =>
    rw [hsalt] at h
    obtain ⟨x, t, hhold, h⟩ := gives_bind.mp h
    obtain ⟨-, rfl⟩ := gives_pure.mp h
    exact gives_hold hhold

theorem keeps_of_reading {m : DeployM α} (h : Keeps World.Reading m) : Keeps R.Follows m :=
  h.mono fun _ _ => Rules.follows_of_reading

theorem keeps_construct : Keeps R.Follows (construct runner r address) := by
  refine (keeps_onLedger Ledger.keeps_transfer).bind fun e => ?_
  cases e with
  | some e => exact keeps_throw _
  | none =>
    have hcall : ∀ c : Call, Keeps R.Follows (liftM (c.run runner) : DeployM (Option CallResult)) :=
      fun c w => Call.follows_run R runner c w
    refine (hcall _).bind fun result => ?_
    cases result with
    | none => exact keeps_throw _
    | some result =>
      exact keeps_ite (fun _ => keeps_throw _) fun _ => keeps_pure _

theorem free_of_hold {l l' : Ledger} {h : Held} (hl : Gives (Ledger.hold address) l h l')
    (hfree : ¬ (h.nonce ≠ 0 ∨ h.code ≠ [])) :
    (l.account address).nonce = 0 ∧ (l.account address).code = [] := by
  rw [← (Ledger.gives_hold hl).1]
  simpa using hfree

theorem code_of_hold {l l' : Ledger} {h : Held} (hl : Gives (Ledger.hold address) l h l')
    (hfree : ¬ (h.nonce ≠ 0 ∨ h.code ≠ [])) : (l'.account address).code = [] := by
  rw [(Ledger.keeps_hold.of_gives hl).account]
  exact (free_of_hold hl hfree).2

/-- The account is found to have no code before code is written to it. -/
theorem keepsFrom_install (hnone : (w.ledger.account address).code = [])
    (hcode : R.writes.code code) :
    KeepsFrom R.Follows (install runner r creator address code) w := by
  refine (keeps_onLedger Ledger.keeps_bumpNonce w).bind fun u w₁ h₁ => ?_
  obtain ⟨l₁, hl₁, rfl⟩ := gives_onLedger h₁
  have hcodes : w.ledger.codes = l₁.codes := Ledger.codes_bumpNonce.of_gives hl₁
  have hnone₁ : (l₁.account address).code = [] := (congrFun hcodes address).symm.trans hnone
  refine KeepsFrom.bind (keepsFrom_onLedger (Ledger.keepsFrom_setCode hnone₁ hcode)) fun u w₂ _ => ?_
  refine (keeps_onLedger Ledger.keeps_bumpNonce w₂).bind fun u w₃ _ => ?_
  exact keepsFrom_ite (fun _ => keeps_construct w₃) fun _ => keepsFrom_pure _ _

end Deploy

theorem keeps_deploy {R : Rules} {runner : Runner} {r : DeployRequest}
    (hcode : ∀ code, r.build.code = .ok code → R.writes.code code) :
    Keeps R.Follows (deploy runner r) := by
  intro w
  refine (Deploy.keeps_of_reading (Deploy.reading_orFail _) w).bind fun code w₁ h₁ => ?_
  obtain ⟨hbuild, -⟩ := Deploy.gives_orFail h₁
  refine (Deploy.keeps_of_reading (Deploy.reading_orFail _) w₁).bind fun init w₂ _ => ?_
  refine (keeps_get w₂).bind fun w₃ t _ => ?_
  refine keepsFrom_guard fun _ => ?_
  refine (Deploy.keeps_of_reading Deploy.reading_newAddress t).bind fun address w₄ _ => ?_
  refine (Deploy.keeps_of_reading Deploy.reading_hold w₄).bind fun target w₅ htarget => ?_
  refine keepsFrom_guard fun hfree => ?_
  obtain ⟨l₅, hl₅, rfl⟩ := Deploy.gives_onLedger htarget
  have hnone := Deploy.code_of_hold hl₅ hfree
  refine KeepsFrom.bind (World.keepsFrom_atomically ?_) fun _ _ _ => keepsFrom_pure _ _
  exact Deploy.keepsFrom_install hnone (hcode code hbuild)

/-- What was found and done on the way to an address. -/
structure Deploy.Steps (runner : Runner) (r : DeployRequest) (w : World) (code init : Octets)
    (address : Address) (w' : World) : Prop where
  built : r.build.code = .ok code
  wrapped : InitCode.ofCode code = .ok init
  limit : code.length ≤ w.config.chain.maxCodeSize
  due : ∃ w₁, Gives (newAddress r (creator w r) init) w address w₁
  free : (w.ledger.account address).nonce = 0 ∧ (w.ledger.account address).code = []
  installed : ∃ l, w.ledger.Reads l ∧
    Gives (install runner r (creator w r) address code) { w with ledger := l } () w'

theorem Deploy.steps_of_gives {runner : Runner} {r : DeployRequest} {w w' : World} {address : Address}
    (h : Gives (deploy runner r) w address w') :
    ∃ code init, Deploy.Steps runner r w code init address w' := by
  obtain ⟨code, w₁, hcode, h⟩ := gives_bind.mp h
  obtain ⟨init, w₂, hinit, h⟩ := gives_bind.mp h
  obtain ⟨w₃, t, hget, h⟩ := gives_bind.mp h
  obtain ⟨hlimit, h⟩ := gives_guard.mp h
  obtain ⟨address', w₄, haddress, h⟩ := gives_bind.mp h
  obtain ⟨target, w₅, htarget, h⟩ := gives_bind.mp h
  obtain ⟨hfree, h⟩ := gives_guard.mp h
  obtain ⟨u, w₆, hinstall, h⟩ := gives_bind.mp h
  obtain ⟨hsame, rfl⟩ := gives_pure.mp h
  obtain rfl : address = address' := hsame.symm
  obtain ⟨hbuild, rfl⟩ := gives_orFail hcode
  obtain ⟨hwrapped, rfl⟩ := gives_orFail hinit
  obtain ⟨rfl, rfl⟩ := gives_get.mp hget
  obtain ⟨l₄, hreads₄, rfl⟩ := gives_newAddress haddress
  obtain ⟨l₅, hl₅, rfl⟩ := gives_onLedger htarget
  have hfound := free_of_hold hl₅ hfree
  rw [hreads₄.account] at hfound
  exact ⟨code, init, hbuild, hwrapped, Nat.not_lt.mp hlimit, ⟨_, haddress⟩, hfound, l₅,
    hreads₄.trans (Ledger.keeps_hold.of_gives hl₅), World.gives_atomically hinstall⟩

end Inkwell
