import Inkwell.Proofs.Told
import Inkwell.Proofs.World
import Inkwell.Call.Run
set_option autoImplicit false

/-! Calls of programs, step by step: what each step gives, how far it can get when it fails, and
that only a call that returns leaves a change. -/

namespace Inkwell

namespace Call

variable {R : Rules} {w w' : World} {c : Call} {p : Params} {codeHash module : Word} {wasm : Octets}
  {runner : Runner}

/-- What the runner is handed, the record that its start was priced with, and the gas that is left
for it. -/
structure Prepared where
  record : Record
  artifact : Artifact
  left : Nat

def loadActive (c : Call) (p : Params) (wasm : Octets) : CallM Artifact := do
  let w ← get
  let l ← (World.load wasm (w.settings p) w.config.autoCache).adapt (refusal c.gas)
  pure l.artifact

def chargeStart (c : Call) (p : Params) (warm : Bool) (r : Record) (a : Artifact) :
    CallM Prepared := do
  let t := (← get).transaction
  let entry : Entry := {
    footprint := r.footprint, initCost := r.initCost, cachedCost := r.cachedCost
    pagesOpen := t.pagesOpen, pagesEver := t.pagesEver, cached := r.pinned || warm }
  let cost := entry.gas p
  if c.gas < cost then throw (.halt .outOfGas c.gas)
  pure ⟨r, a, c.gas - cost⟩

/-- Everything that happens before the runner is handed the program. -/
def prepare (c : Call) (p : Params) (codeHash : Word) (wasm : Octets) : CallM Prepared := do
  let warm ← touchModule p (keccak wasm)
  let (record, activated) ← findRecord c p codeHash wasm
  let artifact ← activated.elim (loadActive c p wasm) pure
  chargeStart c p warm record artifact

theorem chargeStart_bind {α : Type} (warm : Bool) (r : Record) (a : Artifact)
    (f : Prepared → CallM α) : (chargeStart c p warm r a >>= f) = (do
      let t := (← get).transaction
      let entry : Entry := {
        footprint := r.footprint, initCost := r.initCost, cachedCost := r.cachedCost
        pagesOpen := t.pagesOpen, pagesEver := t.pagesEver, cached := r.pinned || warm }
      let cost := entry.gas p
      if c.gas < cost then throw (.halt .outOfGas c.gas)
      f ⟨r, a, c.gas - cost⟩) := by
  unfold chargeStart
  rw [bind_assoc]
  refine congrArg _ (funext fun w => ?_)
  dsimp only
  split
  · rfl
  · rfl

theorem execute_eq (runner : Runner) (c : Call) (p : Params) (codeHash : Word) (wasm : Octets) :
    execute runner c p codeHash wasm = (do
      let x ← prepare c p codeHash wasm
      runProgram runner c p x.record x.artifact x.left) := by
  unfold execute prepare
  simp only [bind_assoc]
  refine congrArg _ (funext fun warm => congrArg _ (funext fun found => ?_))
  obtain ⟨record, activated⟩ := found
  dsimp only
  simp only [chargeStart_bind]
  cases activated with
  | some a => rfl
  | none =>
    unfold loadActive
    simp only [Option.elim_none, bind_assoc]

/-! ### Ends -/

theorem verdict_not_returned (e : ProgramError) : e.verdict ≠ .returned := by
  cases e <;> exact fun h => by cases h

theorem unavailable_fails (gas : Nat) (e : ProgramError) :
    (unavailable gas e).succeeded = false := by
  cases e <;> rfl

theorem result_fails (e : ProgramError) : e.result.succeeded = false := by
  have h := verdict_not_returned e
  simp [CallResult.succeeded, ProgramError.result, h]

theorem throws_findRecord : Throws (·.succeeded = false) (findRecord c p codeHash wasm) := by
  refine throws_get.bind fun w => (throws_lift _).bind fun r => ?_
  cases r with
  | ok r => exact throws_pure _
  | error e =>
    refine (throws_adapt _ result_fails).bind fun previous => ?_
    refine throws_guard (unavailable_fails c.gas e) ?_
    refine Throws.bind ?_ fun _ => throws_pure _
    exact throws_adapt _ fun _ => rfl

theorem throws_loadActive : Throws (·.succeeded = false) (loadActive c p wasm) := by
  refine throws_get.bind fun w => Throws.bind ?_ fun _ => throws_pure _
  exact throws_adapt _ fun _ => rfl

theorem throws_chargeStart {warm : Bool} {r : Record} {a : Artifact} :
    Throws (·.succeeded = false) (chargeStart c p warm r a) :=
  throws_get.bind fun _ => throws_guard rfl (throws_pure _)

theorem throws_prepare : Throws (·.succeeded = false) (prepare c p codeHash wasm) := by
  refine Throws.bind ?_ fun warm => throws_findRecord.bind fun found => ?_
  · exact throws_get.bind fun w => (throws_set _).bind fun _ => throws_pure _
  · refine Throws.bind ?_ fun _ => throws_chargeStart
    cases found.2 with
    | some a => exact throws_pure a
    | none => exact throws_loadActive

/-! ### How far a call gets -/

theorem keeps_touchModule : Keeps R.Follows (touchModule p module) := by
  intro w
  refine (keeps_get w).bind fun w' t hget => ?_
  obtain ⟨rfl, rfl⟩ := gives_get.mp hget
  refine KeepsFrom.bind ?_ fun _ _ _ => keepsFrom_pure _ _
  exact Rules.follows_cache fun hw => R.touchRecent _ _ _ hw.cache

theorem keeps_findRecord (hrun : R.writes.Runs codeHash wasm) :
    Keeps R.Follows (findRecord c p codeHash wasm) := by
  refine keeps_get.bind fun w => ?_
  refine (keeps_lift (World.keeps_reading State.keeps_activeRecord)).bind fun r => ?_
  cases r with
  | ok r => exact keeps_pure _
  | error e =>
    refine ((World.keeps_reading State.keeps_record?).adapt _).bind fun previous => ?_
    refine keeps_guard ?_
    exact ((World.keeps_activateAndCharge hrun _).adapt _).bind fun _ => keeps_pure _

theorem keeps_loadActive (hrun : R.writes.Runs codeHash wasm) :
    Keeps R.Follows (loadActive c p wasm) :=
  keeps_get.bind fun _ => ((World.keeps_load hrun).adapt _).bind fun _ => keeps_pure _

theorem keeps_chargeStart {warm : Bool} {r : Record} {a : Artifact} :
    Keeps R.Follows (chargeStart c p warm r a) :=
  keeps_get.bind fun _ => keeps_guard (keeps_pure _)

theorem keeps_prepare (hrun : R.writes.Runs codeHash wasm) :
    Keeps R.Follows (prepare c p codeHash wasm) := by
  refine keeps_touchModule.bind fun warm => (keeps_findRecord hrun).bind fun found => ?_
  refine Keeps.bind ?_ fun _ => keeps_chargeStart
  cases found.2 with
  | some a => exact keeps_pure a
  | none => exact keeps_loadActive hrun

/-- The meter that a program starts with for so much gas, in a transaction with so many pages. -/
def startMeter (t : Transaction) (p : Params) (r : Record) (left : Nat) : Meter :=
  let entered := t.addPages r.footprint.toNat
  Meter.start p (InkPrice.toInk ⟨p.inkPrice.toNat⟩ left) entered.pagesOpen
    (max t.pagesEver entered.pagesOpen)

/-- The runner is handed the artifact, once, and what it leaves settles the call. -/
theorem outcome_runProgram (runner : Runner) (c : Call) (p : Params) (r : Record) (a : Artifact)
    (left : Nat) (w : World) :
    let meter := startMeter w.transaction p r left
    let ends := runner a (environment w c) meter
    outcome (runProgram runner c p r a left) w =
      (.ok (.settle w.config.chargesOutput c.gas ends.2.gasLeft ends.1), { w with
        transaction := ((w.transaction.addPages r.footprint.toNat).setPages
          ends.2.pagesEver).setPages w.transaction.pagesOpen
        starts := ⟨a, environment w c, meter⟩ :: w.starts }) := rfl

theorem keeps_runProgram {r : Record} {a : Artifact} {left : Nat} :
    Keeps World.Reading (runProgram runner c p r a left) := by
  intro w
  unfold KeepsFrom
  rw [outcome_runProgram]
  exact ⟨.refl, rfl, rfl, rfl⟩

theorem keeps_execute (hrun : R.writes.Runs codeHash wasm) :
    Keeps R.Follows (execute runner c p codeHash wasm) := by
  rw [execute_eq]
  exact (keeps_prepare hrun).bind fun _ => keeps_runProgram.mono fun _ _ => Rules.follows_of_reading

theorem within_findRecord : Keeps World.Within (findRecord c p codeHash wasm) := by
  refine keeps_get.bind fun w => (keeps_lift World.within_onState).bind fun r => ?_
  cases r with
  | ok r => exact keeps_pure _
  | error e =>
    refine (World.within_onState.adapt _).bind fun previous => keeps_guard ?_
    exact (World.within_activateAndCharge.adapt _).bind fun _ => keeps_pure _

theorem within_touchModule : Keeps World.Within (touchModule p module) :=
  fun _ => ⟨rfl, rfl, rfl, rfl⟩

theorem within_artifact (activated : Option Artifact) :
    Keeps World.Within (activated.elim (loadActive c p wasm) pure) := by
  cases activated with
  | some a => exact keeps_pure a
  | none => exact keeps_get.bind fun _ => (World.within_load.adapt _).bind fun _ => keeps_pure _

theorem within_prepare : Keeps World.Within (prepare c p codeHash wasm) :=
  within_touchModule.bind fun _ => within_findRecord.bind fun found =>
    (within_artifact found.2).bind fun _ => keeps_get.bind fun _ => keeps_guard (keeps_pure _)

/-! ### What each step gives -/

theorem gives_touchModule {warm : Bool} (h : Gives (touchModule p module) w warm w') :
    w' = { w with cache := (w.cache.touchRecent w.block.height module p.blockCacheSize.toNat).2 } := by
  obtain ⟨w₁, t, hget, h⟩ := gives_bind.mp h
  obtain ⟨rfl, rfl⟩ := gives_get.mp hget
  obtain ⟨u, t, hset, h⟩ := gives_bind.mp h
  obtain ⟨-, rfl⟩ := gives_pure.mp h
  exact (gives_set.mp hset).symm

def lookup (w : World) (p : Params) (codeHash : Word) : Except ProgramError Record :=
  (outcome (State.activeRecord p w.now codeHash) { ledger := w.ledger, frozen := true }).1

theorem gives_findRecord {found : Record × Option Artifact}
    (h : Gives (findRecord c p codeHash wasm) w found w') : ∃ l, w.ledger.Reads l ∧
      (lookup w p codeHash = .ok found.1 ∧ found.2 = none ∧ w' = { w with ledger := l } ∨
        ∃ e a, lookup w p codeHash = .error e ∧ c.frozen = false ∧ w.config.autoActivate = true ∧
          found = (a.record, some a.artifact) ∧
          Gives (World.activateAndCharge codeHash wasm
            (((w.ledger.view.record? codeHash).map Record.pinned).getD false) c.caller)
            { w with ledger := l } a w') := by
  obtain ⟨w₀, t, hget, h⟩ := gives_bind.mp h
  obtain ⟨rfl, rfl⟩ := gives_get.mp hget
  obtain ⟨r, w₁, hr, h⟩ := gives_bind.mp h
  obtain ⟨l, hreads, hlookup⟩ :=
    World.outcome_reading (State.keeps_activeRecord (h := codeHash) (p := p)) true w
  obtain ⟨hfound, rfl⟩ := Prod.mk.inj (hlookup.symm.trans (gives_lift.mp hr))
  change lookup w p codeHash = r at hfound
  cases r with
  | ok r =>
    obtain ⟨rfl, rfl⟩ := gives_pure.mp h
    exact ⟨l, hreads, .inl ⟨hfound, rfl, rfl⟩⟩
  | error e =>
    obtain ⟨previous, w₂, hprevious, h⟩ := gives_bind.mp h
    obtain ⟨hallowed, h⟩ := gives_guard.mp h
    obtain ⟨a, w₃, ha, h⟩ := gives_bind.mp h
    obtain ⟨rfl, rfl⟩ := gives_pure.mp h
    obtain ⟨d, hd, rfl⟩ := World.gives_onState (gives_adapt.mp hprevious)
    have hreads' : l.Reads d.ledger := State.keeps_record?.of_gives hd
    have hrecord := State.gives_record? hd
    dsimp only at hrecord
    rw [hreads.view] at hrecord
    rw [hrecord] at ha
    simp only [Bool.or_eq_true, not_or, Bool.not_eq_true] at hallowed
    exact ⟨d.ledger, hreads.trans hreads', .inr ⟨e, a, hfound, hallowed.1.2,
      by simpa using hallowed.2, rfl, gives_adapt.mp ha⟩⟩

theorem lookup_of_reads {l : Ledger} {k : Cache} (h : w.ledger.Reads l) :
    lookup { w with ledger := l, cache := k } p codeHash = lookup w p codeHash := by
  have htold : Access.Told (State.activeRecord p w.now codeHash) := State.told_activeRecord
  exact (htold ⟨l, none, true⟩ ⟨w.ledger, none, true⟩ h.tells.symm rfl).1

theorem gives_loadActive {a : Artifact} (h : Gives (loadActive c p wasm) w a w') :
    ∃ y, Gives (World.load wasm (w.settings p) w.config.autoCache) w y w' ∧ a = y.artifact := by
  obtain ⟨w₀, t, hget, h⟩ := gives_bind.mp h
  obtain ⟨rfl, rfl⟩ := gives_get.mp hget
  obtain ⟨y, w₁, hy, h⟩ := gives_bind.mp h
  obtain ⟨rfl, rfl⟩ := gives_pure.mp h
  exact ⟨y, gives_adapt.mp hy, rfl⟩

theorem gives_chargeStart {warm : Bool} {r : Record} {a : Artifact} {x : Prepared}
    (h : Gives (chargeStart c p warm r a) w x w') : x.record = r ∧ x.artifact = a ∧ w' = w := by
  obtain ⟨w₀, t, hget, h⟩ := gives_bind.mp h
  obtain ⟨rfl, rfl⟩ := gives_get.mp hget
  obtain ⟨-, h⟩ := gives_guard.mp h
  obtain ⟨rfl, rfl⟩ := gives_pure.mp h
  exact ⟨rfl, rfl, rfl⟩

/-- What is handed to the runner was active before, or has just been activated. -/
theorem gives_prepare {x : Prepared} (h : Gives (prepare c p codeHash wasm) w x w') :
    ∃ l k, w.ledger.Reads l ∧
      k = (w.cache.touchRecent w.block.height (keccak wasm) p.blockCacheSize.toNat).2 ∧
      (lookup w p codeHash = .ok x.record ∧ (∃ y,
          Gives (World.load wasm (w.settings p) w.config.autoCache)
            { w with ledger := l, cache := k } y w' ∧ x.artifact = y.artifact) ∨
        ∃ e a, lookup w p codeHash = .error e ∧ c.frozen = false ∧ w.config.autoActivate = true ∧
          x.record = a.record ∧ x.artifact = a.artifact ∧
          Gives (World.activateAndCharge codeHash wasm
            (((w.ledger.view.record? codeHash).map Record.pinned).getD false) c.caller)
            { w with ledger := l, cache := k } a w') := by
  obtain ⟨warm, w₁, htouch, h⟩ := gives_bind.mp h
  obtain ⟨found, w₂, hfound, h⟩ := gives_bind.mp h
  obtain ⟨artifact, w₃, hartifact, h⟩ := gives_bind.mp h
  obtain ⟨hrecord, hhanded, rfl⟩ := gives_chargeStart h
  have hw₁ := gives_touchModule htouch
  obtain ⟨l, hreads, hcases⟩ := gives_findRecord hfound
  rw [hw₁] at hreads hcases
  refine ⟨l, _, hreads, rfl, ?_⟩
  rcases hcases with ⟨hlookup, hnone, rfl⟩ | ⟨e, a, hlookup, hthawed, hauto, rfl, ha⟩
  · rw [hnone] at hartifact
    obtain ⟨y, hy, rfl⟩ := gives_loadActive hartifact
    exact .inl ⟨hrecord ▸ hlookup, y, hy, hhanded⟩
  · obtain ⟨rfl, rfl⟩ := gives_pure.mp hartifact
    exact .inr ⟨e, a, hlookup, hthawed, hauto, hrecord, hhanded, ha⟩

/-! ### The end -/

theorem run_keepIfReturned (m : StateM World CallResult) (w : World) :
    (keepIfReturned m).run w = ((m.run w).1, if (m.run w).1.succeeded then (m.run w).2
      else (m.run w).2.revert w.ledger.checkpoint) := by
  change StateT.run (if !(m.run w).1.succeeded
    then modify (World.revert w.ledger.checkpoint) >>= fun _ => pure (m.run w).1
    else pure (m.run w).1) (m.run w).2 = _
  cases (m.run w).1.succeeded with
  | true => rfl
  | false => rfl

/-- Undoing is about the ledger: the rest of a world is as the call leaves it, however it ends. -/
theorem beside_keepIfReturned {β : Type} (f : World → β) (hf : ∀ w p, f (World.revert p w) = f w)
    (m : StateM World CallResult) (w : World) :
    f ((keepIfReturned m).run w).2 = f (m.run w).2 := by
  rw [run_keepIfReturned]
  dsimp only
  split
  · rfl
  · exact hf _ _

theorem starts_keepIfReturned (m : StateM World CallResult) (w : World) :
    ((keepIfReturned m).run w).2.starts = (m.run w).2.starts :=
  beside_keepIfReturned World.starts (fun _ _ => rfl) m w

theorem follows_keepIfReturned {m : StateM World CallResult}
    (h : R.Follows w (m.run w).2) : R.Follows w ((keepIfReturned m).run w).2 := by
  rw [run_keepIfReturned]
  dsimp only
  split
  · exact h
  · exact h.revert

theorem run_finish (m : CallM CallResult) (w : World) : (finish m).run w =
    (match (outcome m w).1 with | .ok r => r | .error r => r, (outcome m w).2) := by
  change StateT.run (match (outcome m w).1 with
    | .ok r => _
    | .error r => _) (outcome m w).2 = _
  cases (outcome m w).1 <;> rfl

end Call
end Inkwell
