import Inkwell.Proofs.Progress
set_option autoImplicit false

/-! What the entry of a call costs, whether or not the call has the gas for it. -/

namespace Inkwell

/-- A module is priced as cached if its artifact is kept or if it was used in the same block. -/
def World.warm (w : World) (module : Word) : Bool :=
  w.cache.contains module || (w.cache.recent.enter w.block.height).modules.contains module

theorem Recent.enter_enter (block : Nat) (r : Recent) :
    (r.enter block).enter block = r.enter block := by
  have hentered : (r.enter block).block = some block := by
    unfold enter
    split
    · assumption
    · rfl
  exact if_pos hentered

theorem Recent.touch_fst (m : Word) (retain : Nat) (r : Recent) :
    (r.touch m retain).1 = r.modules.contains m := by
  unfold touch
  split
  · exact Eq.symm ‹_›
  · rw [apply_ite Prod.fst, ite_self]
    exact (Bool.eq_false_iff.mpr ‹_›).symm

def World.tierGas (w : World) (r : Record) (cached : Bool) : Nat :=
  Entry.gas {
    footprint := r.footprint, initCost := r.initCost, cachedCost := r.cachedCost
    pagesOpen := w.transaction.pagesOpen, pagesEver := w.transaction.pagesEver, cached }
    w.ledger.view.params

namespace Call

/-- What the entry of a call is priced with, and what would be run. -/
structure Equipped where
  record : Record
  artifact : Artifact
  warm : Bool

variable {w w' : World} {c : Call} {p : Params} {codeHash : Word} {wasm : Octets} {runner : Runner}
  {x : Equipped} {cost : Nat}

/-- Everything that happens before the entry is charged. -/
def equip (c : Call) (p : Params) (codeHash : Word) (wasm : Octets) : CallM Equipped := do
  let warm ← touchModule p (keccak wasm)
  let (record, activated) ← findRecord c p codeHash wasm
  let artifact ← activated.elim (loadActive c p wasm) pure
  pure ⟨record, artifact, warm⟩

theorem prepare_eq (c : Call) (p : Params) (codeHash : Word) (wasm : Octets) :
    prepare c p codeHash wasm = (do
      let x ← equip c p codeHash wasm
      chargeStart c p x.warm x.record x.artifact) := by
  unfold prepare equip
  simp only [bind_assoc, pure_bind]

theorem within_equip : Keeps World.Within (equip c p codeHash wasm) :=
  within_touchModule.bind fun _ => within_findRecord.bind fun found =>
    (within_artifact found.2).bind fun _ => keeps_pure _

/-- A call gets as far as the price of its entry, in another world by then. -/
def Priced (c : Call) (w : World) (wasm : Octets) (x : Equipped) (w' : World) : Prop :=
  ∃ code w₀ p w₁,
    Gives (World.onLedger (Ledger.holdCode c.codeAt))
        { w with cache := w.cache.startBlock w.block.height } code w₀ ∧
      Gives (World.onState true State.params) w₀ p w₁ ∧
      Package.module? p.maxWasmSize.toNat code = .ok (some wasm) ∧
      Gives (equip c p (keccak code) wasm) w₁ x w'

/-- What the entry of a call costs: with less gas the call ends and starts nothing, and otherwise the
program starts, with ink for the gas that is left. -/
def EntryCosts (c : Call) (w : World) (cost : Nat) : Prop := ∀ (runner : Runner) (gas : Nat),
  let o := (run runner { c with gas }).run w
  (gas < cost → o.1 = some (.halt .outOfGas gas) ∧ o.2.starts = w.starts) ∧
    (cost ≤ gas → ∃ s, o.2.starts = s :: w.starts ∧
      s.meter.inkLeft = InkPrice.toInk ⟨w.ledger.view.params.inkPrice.toNat⟩ (gas - cost))

theorem EntryCosts.unique {cost' : Nat} (h : c.EntryCosts w cost) (h' : c.EntryCosts w cost') :
    cost = cost' := by
  have hle : ∀ {m n : Nat}, c.EntryCosts w m → c.EntryCosts w n → m ≤ n := by
    intro m n hm hn
    by_contra hlt
    let idle : Runner := fun _ _ m => (⟨.success, []⟩, m)
    obtain ⟨-, hnone⟩ := (hm idle n).1 (Nat.lt_of_not_le hlt)
    obtain ⟨s, hsome, -⟩ := (hn idle n).2 (Nat.le_refl n)
    exact absurd (hnone.symm.trans hsome) (List.cons_ne_self s w.starts).symm
  exact Nat.le_antisymm (hle h h') (hle h' h)

/-! ### Up to the price -/

theorem gives_touchModule_warm {module : Word} {warm : Bool}
    (h : Gives (touchModule p module)
    { w with cache := w.cache.startBlock w.block.height } warm w') : warm = w.warm module := by
  obtain ⟨w₁, t, hget, h⟩ := gives_bind.mp h
  obtain ⟨rfl, rfl⟩ := gives_get.mp hget
  obtain ⟨u, t, -, h⟩ := gives_bind.mp h
  obtain ⟨rfl, -⟩ := gives_pure.mp h
  change (w.cache.contains module || (((w.cache.recent.enter _).enter _).touch module _).1) = _
  rw [Recent.enter_enter, Recent.touch_fst]
  rfl

theorem gives_findRecord_gas {found : Record × Option Artifact} (gas : Nat)
    (h : Gives (findRecord c p codeHash wasm) w found w') :
    Gives (findRecord { c with gas } p codeHash wasm) w found w' := by
  obtain ⟨w₀, t, hget, h⟩ := gives_bind.mp h
  obtain ⟨r, w₁, hr, h⟩ := gives_bind.mp h
  refine hget.bind (hr.bind ?_)
  cases r with
  | ok r => exact h
  | error e =>
    obtain ⟨previous, w₂, hprevious, h⟩ := gives_bind.mp h
    obtain ⟨hallowed, h⟩ := gives_guard.mp h
    obtain ⟨a, w₃, ha, h⟩ := gives_bind.mp h
    exact hprevious.bind (gives_guard.mpr ⟨hallowed, (gives_adapt.mpr (gives_adapt.mp ha)).bind h⟩)

theorem gives_loadActive_gas {a : Artifact} (gas : Nat) (h : Gives (loadActive c p wasm) w a w') :
    Gives (loadActive { c with gas } p wasm) w a w' := by
  obtain ⟨w₀, t, hget, h⟩ := gives_bind.mp h
  obtain ⟨y, w₁, hy, h⟩ := gives_bind.mp h
  exact hget.bind ((gives_adapt.mpr (gives_adapt.mp hy)).bind h)

theorem gives_equip_gas (gas : Nat) (h : Gives (equip c p codeHash wasm) w x w') :
    Gives (equip { c with gas } p codeHash wasm) w x w' := by
  obtain ⟨warm, w₁, htouch, h⟩ := gives_bind.mp h
  obtain ⟨found, w₂, hfound, h⟩ := gives_bind.mp h
  obtain ⟨artifact, w₃, hartifact, h⟩ := gives_bind.mp h
  refine Gives.bind htouch ((gives_findRecord_gas gas hfound).bind (Gives.bind ?_ h))
  cases hactivated : found.2 with
  | none =>
    rw [hactivated] at hartifact
    exact gives_loadActive_gas gas hartifact
  | some a =>
    rw [hactivated] at hartifact
    exact hartifact

theorem Priced.gas (h : c.Priced w wasm x w') (gas : Nat) :
    ({ c with gas } : Call).Priced w wasm x w' := by
  obtain ⟨code, w₀, p, w₁, hcode, hp, hmodule, hequip⟩ := h
  exact ⟨code, w₀, p, w₁, hcode, hp, hmodule, gives_equip_gas gas hequip⟩

theorem Priced.equips (h : c.Priced w wasm x w') : ∃ l, w.ledger.Reads l ∧
    Package.module? w.ledger.view.params.maxWasmSize.toNat (w.ledger.account c.codeAt).code =
      .ok (some wasm) ∧
    Gives (equip c w.ledger.view.params (keccak (w.ledger.account c.codeAt).code) wasm)
      { w with ledger := l, cache := w.cache.startBlock w.block.height } x w' ∧
    ∀ runner, (run runner c).run w = ((keepIfReturned (finish (execute runner c w.ledger.view.params
      (keccak (w.ledger.account c.codeAt).code) wasm))).run
        { w with ledger := l, cache := w.cache.startBlock w.block.height }).map some id := by
  obtain ⟨code, w₀, p, w₁, hcode, hp, hmodule, hequip⟩ := h
  have hrun : ∀ runner, (run runner c).run w =
      (proceed runner c p code (Package.module? p.maxWasmSize.toNat code)).run w₁ := fun _ =>
    run_of_read hcode hp
  obtain ⟨l, hl, rfl⟩ := World.gives_onLedger hcode
  obtain ⟨d, hd, rfl⟩ := World.gives_onState hp
  have hheld : code = (w.ledger.account c.codeAt).code := Ledger.gives_holdCode hl
  have hreads : w.ledger.Reads l := Ledger.keeps_holdCode.of_gives hl
  have hreads' : l.Reads d.ledger := State.keeps_params.of_gives hd
  have hparams : p = w.ledger.view.params := (State.gives_params hd).trans
    (congrArg View.params hreads.view)
  subst hheld hparams
  refine ⟨d.ledger, hreads.trans hreads', hmodule, hequip, fun runner => ?_⟩
  rw [hrun, hmodule]
  rfl

theorem Priced.warm (h : c.Priced w wasm x w') : x.warm = w.warm (keccak wasm) := by
  obtain ⟨l, -, -, hequip, -⟩ := h.equips
  obtain ⟨warm, w₁, htouch, hequip⟩ := gives_bind.mp hequip
  obtain ⟨found, w₂, -, hequip⟩ := gives_bind.mp hequip
  obtain ⟨artifact, w₃, -, hequip⟩ := gives_bind.mp hequip
  obtain ⟨rfl, -⟩ := gives_pure.mp hequip
  exact gives_touchModule_warm (w := { w with ledger := l }) htouch

theorem Priced.within (h : c.Priced w wasm x w') : w.Within w' := by
  obtain ⟨l, -, -, hequip, -⟩ := h.equips
  obtain ⟨hconfig, hblock, htransaction, hstarts⟩ := within_equip.of_gives hequip
  exact ⟨hconfig, hblock, htransaction, hstarts⟩

/-! ### The price -/

theorem outcome_chargeStart (c : Call) (p : Params) (warm : Bool) (r : Record) (a : Artifact)
    (w : World) : outcome (chargeStart c p warm r a) w =
      let cost := Entry.gas {
        footprint := r.footprint, initCost := r.initCost, cachedCost := r.cachedCost
        pagesOpen := w.transaction.pagesOpen, pagesEver := w.transaction.pagesEver
        cached := r.pinned || warm } p
      (if c.gas < cost then .error (.halt .outOfGas c.gas) else .ok ⟨r, a, c.gas - cost⟩, w) := by
  unfold chargeStart
  rw [outcome_bind, outcome_get]
  dsimp only
  split
  · rw [outcome_bind]
    rfl
  · rfl

def Equipped.gas (x : Equipped) (w : World) : Nat := w.tierGas x.record (x.record.pinned || x.warm)

theorem Equipped.gas_le (x : Equipped) (w : World) : x.gas w ≤ max64 := clamp64_le _

theorem Priced.prepares (h : c.Priced w wasm x w') (runner : Runner) : ∃ w₁,
    (run runner c).run w = ((keepIfReturned (finish (execute runner c w.ledger.view.params
      (keccak (w.ledger.account c.codeAt).code) wasm))).run w₁).map some id ∧
    outcome (prepare c w.ledger.view.params (keccak (w.ledger.account c.codeAt).code) wasm) w₁ =
      (if c.gas < x.gas w then .error (.halt .outOfGas c.gas)
        else .ok ⟨x.record, x.artifact, c.gas - x.gas w⟩, w') := by
  obtain ⟨l, -, -, hequip, hrun⟩ := h.equips
  refine ⟨_, hrun runner, ?_⟩
  rw [prepare_eq, hequip.outcome_bind, outcome_chargeStart, h.within.transaction]
  rfl

theorem Priced.refused (h : c.Priced w wasm x w') (hgas : c.gas < x.gas w) (runner : Runner) :
    ((run runner c).run w).1 = some (.halt .outOfGas c.gas) ∧
      ((run runner c).run w).2.starts = w.starts := by
  obtain ⟨w₁, hrun, hprepare⟩ := h.prepares runner
  rw [if_pos hgas] at hprepare
  rw [hrun, Prod.map_fst, Prod.map_snd, id_eq, starts_keepIfReturned, run_keepIfReturned, run_finish,
    execute_eq, outcome_bind, hprepare]
  exact ⟨rfl, h.within.starts⟩

theorem Priced.started (h : c.Priced w wasm x w') (hgas : x.gas w ≤ c.gas) (runner : Runner) :
    ((run runner c).run w).2.starts = ⟨x.artifact, environment w c,
      startMeter w.transaction w.ledger.view.params x.record (c.gas - x.gas w)⟩ :: w.starts := by
  obtain ⟨w₁, hrun, hprepare⟩ := h.prepares runner
  obtain ⟨hconfig, hblock, htransaction, hstarts⟩ := h.within
  have henv : environment w' c = environment w c := by
    simp only [environment, hconfig, hblock]
  rw [if_neg (Nat.not_lt.mpr hgas)] at hprepare
  rw [hrun, Prod.map_snd, id_eq, starts_keepIfReturned, run_finish, execute_eq, outcome_bind, hprepare]
  dsimp only
  rw [outcome_runProgram, henv, htransaction, hstarts]

theorem Priced.starts_ne (h : c.Priced w wasm x w') (hgas : x.gas w ≤ c.gas) (runner : Runner) :
    ((run runner c).run w).2.starts ≠ w.starts := by
  rw [h.started hgas runner]
  exact List.cons_ne_self _ _

theorem transaction_keepIfReturned (m : StateM World CallResult) (w : World) :
    ((keepIfReturned m).run w).2.transaction = (m.run w).2.transaction :=
  beside_keepIfReturned World.transaction (fun _ _ => rfl) m w

/-- The pages of a program that was started are closed again, those it had at most stay counted. -/
theorem Priced.transaction_run (h : c.Priced w wasm x w') (hgas : x.gas w ≤ c.gas)
    (runner : Runner) : ((run runner c).run w).2.transaction =
      ((w.transaction.addPages x.record.footprint.toNat).setPages
        (runner x.artifact (environment w c) (startMeter w.transaction w.ledger.view.params x.record
          (c.gas - x.gas w))).2.pagesEver).setPages w.transaction.pagesOpen := by
  obtain ⟨w₁, hrun, hprepare⟩ := h.prepares runner
  obtain ⟨hconfig, hblock, htransaction, hstarts⟩ := h.within
  have henv : environment w' c = environment w c := by
    simp only [environment, hconfig, hblock]
  rw [if_neg (Nat.not_lt.mpr hgas)] at hprepare
  rw [hrun, Prod.map_snd, id_eq, transaction_keepIfReturned, run_finish, execute_eq, outcome_bind,
    hprepare]
  dsimp only
  rw [outcome_runProgram, henv, htransaction]

theorem Priced.refused_transaction (h : c.Priced w wasm x w') (hgas : c.gas < x.gas w)
    (runner : Runner) : ((run runner c).run w).2.transaction = w.transaction := by
  obtain ⟨w₁, hrun, hprepare⟩ := h.prepares runner
  rw [if_pos hgas] at hprepare
  rw [hrun, Prod.map_snd, id_eq, transaction_keepIfReturned, run_finish, execute_eq, outcome_bind,
    hprepare]
  exact h.within.transaction

theorem run_unequipped (runner : Runner) {code : Octets} {r : CallResult} {w₀ w₁ : World}
    (hcode : Gives (World.onLedger (Ledger.holdCode c.codeAt))
      { w with cache := w.cache.startBlock w.block.height } code w₀)
    (hp : Gives (World.onState true State.params) w₀ p w₁)
    (hmodule : Package.module? p.maxWasmSize.toNat code = .ok (some wasm))
    (hequip : outcome (equip c p (keccak code) wasm) w₁ = (.error r, w')) :
    ((run runner c).run w).2.starts = w₁.starts ∧
      ((run runner c).run w).2.transaction = w₁.transaction := by
  have hwithin : World.Within w₁ w' := (within_equip w₁).of_outcome hequip
  have hrun : (run runner c).run w = ((keepIfReturned (finish
      (execute runner c p (keccak code) wasm))).run w₁).map some id := by
    rw [run_of_read hcode hp, hmodule]
    rfl
  have hends : (finish (execute runner c p (keccak code) wasm)).run w₁ = (r, w') := by
    rw [run_finish, execute_eq, outcome_bind, prepare_eq, outcome_bind, hequip]
  rw [hrun, Prod.map_snd, id_eq, starts_keepIfReturned, transaction_keepIfReturned, hends]
  exact ⟨hwithin.starts, hwithin.transaction⟩

/-- A call reaches the runner if it is priced and has the gas, and else it starts no program and
leaves the transaction alone. -/
theorem run_reached (runner : Runner) (c : Call) (w : World) :
    (∃ wasm x w', c.Priced w wasm x w' ∧ x.gas w ≤ c.gas) ∨
      ((run runner c).run w).2.starts = w.starts ∧
        ((run runner c).run w).2.transaction = w.transaction := by
  rcases hcode : outcome (World.onLedger (Ledger.holdCode c.codeAt))
    { w with cache := w.cache.startBlock w.block.height } with ⟨code, w₀⟩
  have hwithin₀ : World.Within _ w₀ := (World.within_onState _).of_outcome hcode
  cases code with
  | error e =>
    rw [run_of_unheld hcode]
    exact .inr ⟨hwithin₀.starts, hwithin₀.transaction⟩
  | ok code =>
    rcases hp : outcome (World.onState true State.params) w₀ with ⟨p, w₁⟩
    have hwithin₁ : World.Within _ w₁ :=
      IsTrans.trans _ _ _ hwithin₀ ((World.within_onState _).of_outcome hp)
    cases p with
    | error e =>
      rw [run_of_unread hcode hp]
      exact .inr ⟨hwithin₁.starts, hwithin₁.transaction⟩
    | ok p =>
      cases hmodule : Package.module? p.maxWasmSize.toNat code with
      | error e =>
        rw [run_of_read hcode hp, hmodule]
        exact .inr ⟨hwithin₁.starts, hwithin₁.transaction⟩
      | ok wasm? =>
        cases wasm? with
        | none =>
          rw [run_of_read hcode hp, hmodule]
          exact .inr ⟨hwithin₁.starts, hwithin₁.transaction⟩
        | some wasm =>
          rcases hequip : outcome (equip c p (keccak code) wasm) w₁ with ⟨x, w'⟩
          cases x with
          | ok x =>
            have hpriced : c.Priced w wasm x w' := ⟨code, w₀, p, w₁, hcode, hp, hmodule, hequip⟩
            by_cases hgas : c.gas < x.gas w
            · exact .inr ⟨(hpriced.refused hgas runner).2, hpriced.refused_transaction hgas runner⟩
            · exact .inl ⟨wasm, x, w', hpriced, Nat.not_lt.mp hgas⟩
          | error e =>
            obtain ⟨hstarts, htransaction⟩ := run_unequipped runner hcode hp hmodule hequip
            exact .inr ⟨hstarts.trans hwithin₁.starts, htransaction.trans hwithin₁.transaction⟩

theorem Priced.entryCosts (h : c.Priced w wasm x w') : c.EntryCosts w (x.gas w) := by
  intro runner gas
  exact ⟨fun hgas => (h.gas gas).refused hgas runner,
    fun hgas => ⟨_, (h.gas gas).started hgas runner, rfl⟩⟩

theorem Priced.gas_eq (h : c.Priced w wasm x w') :
    x.gas w = w.tierGas x.record (x.record.pinned || w.warm (keccak wasm)) := by
  rw [← h.warm]
  rfl

theorem cache_keepIfReturned (m : StateM World CallResult) (w : World) :
    ((keepIfReturned m).run w).2.cache = (m.run w).2.cache :=
  beside_keepIfReturned World.cache (fun _ _ => rfl) m w

theorem Priced.cache_run (h : c.Priced w wasm x w') (runner : Runner) :
    ((run runner c).run w).2.cache = w'.cache := by
  obtain ⟨w₁, hrun, hprepare⟩ := h.prepares runner
  rw [hrun, Prod.map_snd, id_eq, cache_keepIfReturned, run_finish, execute_eq, outcome_bind, hprepare]
  split_ifs
  · rfl
  · dsimp only
    rw [outcome_runProgram]

/-! ### Active programs -/

theorem lookup_of_active (hactive : w.Active codeHash) :
    ∃ r, lookup w w.ledger.view.params codeHash = .ok r := by
  obtain ⟨e, he, -⟩ := State.answers_params (World.known_of_active hactive).1
    ⟨w.ledger, none, true⟩ (.refl _) (by simp)
  exact (active_iff (congrArg Prod.fst he)).mp hactive

theorem current_of_lookup {r : Record} (h : lookup w p codeHash = .ok r) :
    w.ledger.view.record? codeHash = some r ∧ r.version ≠ 0 ∧ r.version = p.version ∧
      r.isExpired w.now = false :=
  State.gives_activeRecord (d := ⟨w.ledger, none, true⟩) (Prod.ext h rfl)

theorem view_of_active (runner : Runner)
    (hactive : w.Active (keccak (w.ledger.account c.codeAt).code)) (hbounded : w.ledger.Bounded) :
    ((run runner c).run w).2.ledger.view = w.ledger.view := by
  rcases run_ends runner c w with ⟨-, -, -, heffect⟩ | ⟨-, hundone⟩
  · generalize ((run runner c).run w).2.ledger.view = v at heffect
    cases heffect with
    | ran => rfl
    | activated hhash hinactive => exact absurd hactive (hhash ▸ hinactive)
  · exact View.ext (hundone.account hbounded) hundone.slot hundone.logs

def used (w : World) (module : Word) : Cache :=
  ((w.cache.startBlock w.block.height).touchRecent w.block.height module
    w.ledger.view.params.blockCacheSize.toNat).2

theorem priced_of_found (hloadable : w.ledger.Loadable c.codeAt) (hknown : w.ledger.KnowsParams)
    (hmodule : Package.module? w.ledger.view.params.maxWasmSize.toNat
      (w.ledger.account c.codeAt).code = .ok (some wasm)) :
    ∃ l, w.ledger.Reads l ∧ ∀ found artifact w₁ w',
      Gives (findRecord c w.ledger.view.params (keccak (w.ledger.account c.codeAt).code) wasm)
          { w with ledger := l, cache := used w (keccak wasm) } found w₁ →
        Gives (found.2.elim (loadActive c w.ledger.view.params wasm) pure) w₁ artifact w' →
          c.Priced w wasm ⟨found.1, artifact, w.warm (keccak wasm)⟩ w' := by
  let w₀ : World := { w with cache := w.cache.startBlock w.block.height }
  obtain ⟨l₁, l₂, hreads, hcode, hp⟩ := World.code_and_params (w := w₀) hloadable hknown
  refine ⟨l₂, hreads, fun found artifact w₁ w' hfound hartifact => ?_⟩
  obtain ⟨warm, htouch⟩ : ∃ warm, Gives (touchModule w.ledger.view.params (keccak wasm))
      { w₀ with ledger := l₂ } warm { w with ledger := l₂, cache := used w (keccak wasm) } := ⟨_, rfl⟩
  have hwarm : warm = w.warm (keccak wasm) :=
    gives_touchModule_warm (w := { w with ledger := l₂ }) htouch
  refine ⟨_, _, _, _, hcode, hp, hmodule,
    htouch.bind (hfound.bind (hartifact.bind (gives_pure.mpr ⟨?_, rfl⟩)))⟩
  rw [hwarm]

/-- A call of an active program is priced under its record, if the module can be loaded. -/
theorem priced_of_active {y : Loaded} (hloadable : w.ledger.Loadable c.codeAt)
    (hactive : w.Active (keccak (w.ledger.account c.codeAt).code))
    (hmodule : Package.module? w.ledger.view.params.maxWasmSize.toNat
      (w.ledger.account c.codeAt).code = .ok (some wasm))
    (hload : (w.cache.load compile wasm (w.settings w.ledger.view.params) w.config.autoCache).1 =
      .ok y) :
    ∃ r w', w.ledger.view.record? (keccak (w.ledger.account c.codeAt).code) = some r ∧
      c.Priced w wasm ⟨r, y.artifact, w.warm (keccak wasm)⟩ w' ∧
      w'.cache = ((used w (keccak wasm)).load compile wasm (w.settings w.ledger.view.params)
        w.config.autoCache).2 := by
  obtain ⟨l, hreads, hpriced⟩ :=
    priced_of_found hloadable (World.known_of_active hactive).1 hmodule
  obtain ⟨r, hr⟩ := lookup_of_active hactive
  -- the record is found in the world that the call has come to
  let w₁ : World := { w with ledger := l, cache := used w (keccak wasm) }
  obtain ⟨m, hreads', hfound⟩ := World.outcome_reading
    (State.keeps_activeRecord (p := w.ledger.view.params)
      (h := keccak (w.ledger.account c.codeAt).code)) true w₁
  change outcome _ _ = (lookup w₁ _ _, _) at hfound
  rw [lookup_of_reads hreads, hr] at hfound
  have hrecord : Gives (findRecord c w.ledger.view.params
      (keccak (w.ledger.account c.codeAt).code) wasm) w₁ (r, none) { w₁ with ledger := m } :=
    (gives_get.mpr ⟨rfl, rfl⟩).bind ((gives_lift.mpr hfound).bind (gives_pure.mpr ⟨rfl, rfl⟩))
  have hkept : ((used w (keccak wasm)).load compile wasm (w.settings w.ledger.view.params)
      w.config.autoCache).1 = .ok y := by
    rw [Cache.load_of_artifacts (c := used w (keccak wasm)) (k := w.cache) rfl]
    exact hload
  have hloaded : Gives (loadActive c w.ledger.view.params wasm) { w₁ with ledger := m } y.artifact
      { w₁ with
        ledger := m
        cache := ((used w (keccak wasm)).load compile wasm (w.settings w.ledger.view.params)
          w.config.autoCache).2 } :=
    (gives_get.mpr ⟨rfl, rfl⟩).bind (Gives.bind
      (gives_adapt.mpr (World.load_of_ok (w := { w₁ with ledger := m }) hkept))
      (gives_pure.mpr ⟨rfl, rfl⟩))
  exact ⟨r, _, (current_of_lookup hr).1, hpriced _ _ _ _ hrecord hloaded, rfl⟩

/-- A call of a program that has to be activated is priced under the record that it makes, if the
caller can pay for that. -/
theorem priced_of_awaits {y : Loaded} {fee : Word} (hw : w.Awaits c.codeAt wasm y fee)
    (hthawed : c.frozen = false) (hauto : w.config.autoActivate = true)
    (hfee : fee ≤ (w.ledger.account c.caller).balance) :
    let codeHash := keccak (w.ledger.account c.codeAt).code
    let a := w.ledger.view.activation codeHash w.ledger.view.params w.block
      (w.ledger.view.pinned codeHash) y.artifact
    ∃ w', c.Priced w wasm ⟨a.record, a.artifact, w.warm (keccak wasm)⟩ w' := by
  intro codeHash a
  obtain ⟨l, hreads, hpriced⟩ :=
    priced_of_found (hw.healthy.loadable _) hw.healthy.knowsParams hw.module
  let w₁ : World := { w with ledger := l, cache := used w (keccak wasm) }
  have hview : l.view = w.ledger.view := hreads.view
  have haccount : l.account = w.ledger.account := congrArg View.account hview
  have hw₁ : w₁.Awaits c.codeAt wasm y fee :=
    hw.of_same (hw.healthy.of_reads hreads) (congrArg View.slot hview) (by rw [haccount]) rfl rfl rfl
  obtain ⟨b, w', hfound⟩ := findRecord_of_awaits hw₁ hthawed hauto (haccount ▸ hfee)
  change Gives (findRecord c l.view.params (keccak (l.account c.codeAt).code) wasm) _ _ _ at hfound
  rw [hview, haccount] at hfound
  -- what was found is what was activated
  obtain ⟨m, hreads', ⟨-, hnone, -⟩ | ⟨e, b', -, -, -, hb, hactivated⟩⟩ := gives_findRecord hfound
  · cases hnone
  obtain ⟨w₂, hactivate, -⟩ := World.gives_activateAndCharge hactivated
  obtain ⟨y', hload, hb', -⟩ := World.gives_activate hactivate
  have hview' : m.view = w.ledger.view := hreads'.view.trans hview
  have hsame : y' = y := by
    refine Except.ok.inj (hload.symm.trans ?_)
    change ((used w (keccak wasm)).load compile wasm (w.settings m.view.params) _).1 = _
    rw [hview', Cache.load_of_artifacts (c := used w (keccak wasm)) (k := w.cache) rfl]
    exact hw.loads
  have hact : b' = a := by
    rw [hb', hsame]
    change m.view.activation codeHash m.view.params w.block (l.view.pinned codeHash) _ = _
    rw [hview', hview]
  rw [hb, hact] at hfound
  exact ⟨w', hpriced _ _ _ _ hfound (gives_pure.mpr ⟨rfl, rfl⟩)⟩

end Call

/-! ### A ledger with an active program -/

namespace Ledger

def smallRecord : Record :=
  { version := 2, initCost := 17, footprint := 1, asmKb := 502, activatedAt := 1,
    expiresAt := 31536001 }

def recorded : Ledger where
  store := {
    accounts := Table.empty.insert 1 { code := smallPackage }
    slots := (Table.empty.insert (stateAccount, Layout.recordData smallHash)
      smallRecord.dataWord).insert (stateAccount, Layout.recordLifetime smallHash)
        smallRecord.lifetimeWord }

theorem state_recorded (slot : Word) : recorded.view.state slot =
    if slot = Layout.recordLifetime smallHash then smallRecord.lifetimeWord
    else if slot = Layout.recordData smallHash then smallRecord.dataWord else 0 := by
  have hkey : ∀ x, (stateAccount, slot) = (stateAccount, x) ↔ slot = x := fun x => by
    rw [Prod.mk.injEq, eq_self_iff_true, true_and]
  rw [View.state_of_empty rfl, recorded]
  unfold Store.slot
  simp only [Table.get?_insert, hkey]
  split_ifs <;> rfl

theorem shared_recorded {slot : Word} (h : slot ∈ Layout.shared) : recorded.view.state slot = 0 := by
  have hlifetime : Layout.recordLifetime smallHash ≠ slot :=
    Layout.apart_smallHash.shared (p := .lifetime) rfl h
  have hdata : Layout.recordData smallHash ≠ slot :=
    Layout.apart_smallHash.shared (p := .data) rfl h
  rw [state_recorded, if_neg hlifetime.symm, if_neg hdata.symm]

theorem params_recorded : recorded.view.params = {} := by
  unfold View.params View.stateNat
  rw [shared_recorded (by simp [Layout.shared]), shared_recorded (by simp [Layout.shared])]
  decide

theorem record_recorded : recorded.view.record? smallHash = some smallRecord := by
  obtain ⟨hdata₁, hfee₁, hfee₂⟩ := Layout.apart_smallHash.record_ne (h := smallHash) rfl
  unfold View.record?
  dsimp only
  rw [state_recorded, state_recorded, state_recorded, if_neg hdata₁, if_pos rfl, if_pos rfl,
    if_neg hfee₁, if_neg hfee₂]
  have hwords := Record.ofWords_words smallRecord
  have hfee : smallRecord.dataFee = 0 := rfl
  rw [hfee] at hwords
  rw [hwords]
  decide

theorem account_recorded (a : Address) :
    recorded.account a = if a = 1 then { code := smallPackage } else {} := by
  have hget : recorded.account a =
      ((Table.empty.insert 1 ({ code := smallPackage } : Account)).get? a).getD {} := rfl
  rw [hget, Table.get?_insert]
  split <;> rfl

/-- A ledger that answers, with the same program and the same slots. -/
structure Recorded (l : Ledger) : Prop where
  healthy : l.Healthy
  slot : l.view.slot = recorded.view.slot
  code : (l.account 1).code = smallPackage

theorem recorded_self : recorded.Recorded := by
  refine ⟨⟨rfl, bounded_of_poor fun a => ?_⟩, rfl, ?_⟩
  · rw [account_recorded]
    split <;> rfl
  · rw [account_recorded, if_pos rfl]

namespace Recorded

variable {l : Ledger}

theorem params (h : l.Recorded) : l.view.params = {} :=
  (View.params_of_slot h.slot).trans params_recorded

theorem record? (h : l.Recorded) : l.view.record? smallHash = some smallRecord :=
  (View.record?_of_slot h.slot smallHash).trans record_recorded

end Recorded

end Ledger

namespace World

open Ledger

variable {w : World} {c : Call} {y : Loaded}

theorem active_recorded (h : w.ledger.Recorded) (hnow : w.now ≤ 31536001) : w.Active smallHash := by
  have hknown : ∀ slot, w.ledger.Known slot := h.healthy.known
  refine active_of_current (r := smallRecord) ⟨hknown _, hknown _⟩
    ⟨hknown _, hknown _, hknown _⟩ ⟨?_, ?_, ?_⟩ (by decide)
  · exact h.record?
  · rw [h.params]
    rfl
  · exact decide_eq_false (Nat.not_lt.mpr hnow)

theorem params_of_recorded (h : w.ledger.Recorded) : w.ledger.view.params = {} := h.params

theorem module?_recorded (h : w.ledger.Recorded) :
    Package.module? w.ledger.view.params.maxWasmSize.toNat (w.ledger.account 1).code =
      .ok (some smallModule) := by
  have hparams : w.ledger.view.params = {} := h.params
  rw [hparams, h.code]
  exact module?_smallPackage

theorem priced_recorded (h : w.ledger.Recorded) (hnow : w.now ≤ 31536001) (hat : c.codeAt = 1)
    (hload : (w.cache.load compile smallModule (w.settings {}) w.config.autoCache).1 = .ok y) :
    ∃ w', c.Priced w smallModule ⟨smallRecord, y.artifact, w.warm (keccak smallModule)⟩ w' ∧
      w'.cache = ((Call.used w (keccak smallModule)).load compile smallModule (w.settings {})
        w.config.autoCache).2 := by
  have hcode : (w.ledger.account c.codeAt).code = smallPackage := by
    rw [hat, h.code]
  have hparams : w.ledger.view.params = {} := h.params
  have hhash : keccak (w.ledger.account c.codeAt).code = smallHash := by
    rw [hcode]
    exact keccak_smallPackage
  obtain ⟨r, w', hr, hpriced, hcache⟩ := Call.priced_of_active (c := c) (w := w) (y := y)
    (h.healthy.loadable _) (hhash.symm ▸ active_recorded h hnow)
    (hat ▸ module?_recorded h) (by rw [hparams]; exact hload)
  rw [hhash, h.record?] at hr
  obtain rfl := Option.some.inj hr
  rw [hparams] at hcache
  exact ⟨w', hpriced, hcache⟩

theorem view_run_recorded (h : w.ledger.Recorded) (hnow : w.now ≤ 31536001) (hat : c.codeAt = 1)
    (runner : Runner) : ((Call.run runner c).run w).2.ledger.view = w.ledger.view := by
  refine Call.view_of_active runner ?_ h.healthy.bounded
  rw [hat, h.code]
  exact keccak_smallPackage.symm ▸ active_recorded h hnow

theorem recorded_run (h : w.ledger.Recorded) (hnow : w.now ≤ 31536001) (hat : c.codeAt = 1)
    (runner : Runner) : ((Call.run runner c).run w).2.ledger.Recorded := by
  have hfollows := (Call.follows_run .any runner c w).ledger (Rules.sound_any w)
  have hview := view_run_recorded h hnow hat runner
  have haccount : ((Call.run runner c).run w).2.ledger.account = w.ledger.account :=
    congrArg View.account hview
  exact ⟨h.healthy.reaches hfollows, (congrArg View.slot hview).trans h.slot, haccount ▸ h.code⟩

theorem tierGas_recorded (h : w.ledger.Recorded) (htransaction : w.transaction = {})
    (cached : Bool) : w.tierGas smallRecord cached = if cached then 352 else 9585 := by
  unfold World.tierGas
  rw [params_of_recorded h, htransaction]
  cases cached <;> decide

def recorded : World := { ledger := Ledger.recorded, cache := .ofCapacity 1 }

theorem codeHash_recorded : recorded.ledger.view.codeHash 1 = smallHash := by
  have hcode : (recorded.ledger.view.account 1).code = smallPackage := Ledger.recorded_self.code
  unfold View.codeHash
  rw [hcode]
  exact keccak_smallPackage

theorem load_recorded (keep : Bool) : ∃ a, compile smallModule (recorded.settings {}) = .ok a ∧
    (recorded.cache.load compile smallModule (recorded.settings {}) keep).1 = .ok ⟨a, false⟩ := by
  obtain ⟨a, ha⟩ := compile_smallModule
  refine ⟨a, ha, ?_⟩
  rw [Cache.load_eq]
  change (compile smallModule ⟨2, false, 128, 131072⟩).map _ = _
  rw [ha]
  rfl

end World
end Inkwell
