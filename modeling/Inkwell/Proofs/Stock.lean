import Inkwell.Proofs.Creations
import Inkwell.Proofs.Entries
import Inkwell.Proofs.Pins
set_option autoImplicit false

/-! What comes into the caches: the modules that are used, for as long as the block lasts, and the
artifacts that are kept. Whatever fails or is undone, it stays there. -/

namespace Inkwell

namespace Recent

variable {r : Recent} {block retain : Nat} {m module : Word}

theorem block_enter (block : Nat) (r : Recent) : (r.enter block).block = some block := by
  unfold enter
  split
  · assumption
  · rfl

theorem mem_enter (h : m ∈ (r.enter block).modules) : m ∈ r.modules ∧ r.block = some block := by
  unfold enter at h
  split at h
  · exact ⟨h, ‹_›⟩
  · cases h

theorem block_touch (module : Word) (retain : Nat) (r : Recent) :
    (r.touch module retain).2.block = r.block := by
  unfold touch
  split
  · rfl
  split <;> rfl

theorem mem_touch (h : m ∈ (r.touch module retain).2.modules) : m = module ∨ m ∈ r.modules := by
  unfold touch at h
  split at h
  · exact (List.mem_cons.mp h).imp id List.mem_of_mem_erase
  split at h
  · exact .inr h
  · dsimp only at h
    split at h
    · exact List.mem_cons.mp (List.dropLast_subset _ h)
    · exact List.mem_cons.mp h

end Recent

namespace Cache

variable {c : Cache} {wasm : Octets} {s : CompileSettings} {keep : Bool} {p : Word × Artifact}

theorem recent_load (c : Cache) (compiler : Compiler) (wasm : Octets) (s : CompileSettings)
    (keep : Bool) : (c.load compiler wasm s keep).2.recent = c.recent := by
  have hget : (c.get? (keccak wasm) s).2.recent = c.recent := rfl
  unfold load
  generalize c.get? (keccak wasm) s = g at hget
  obtain ⟨found, c'⟩ := g
  cases found with
  | some a => exact hget
  | none =>
    cases compiler wasm s with
    | error e => exact hget
    | ok a => cases keep <;> exact hget

theorem mem_load (h : p ∈ (c.load compile wasm s keep).2.artifacts.entries) :
    p ∈ c.artifacts.entries ∨ keep = true ∧ p.1 = keccak wasm ∧ compile wasm s = .ok p.2 := by
  have hget : ∀ q ∈ (c.get? (keccak wasm) s).2.artifacts.entries, q ∈ c.artifacts.entries :=
    fun q hq => Lru.mem_of_mem_get? hq
  unfold load at h
  generalize c.get? (keccak wasm) s = g at hget h
  obtain ⟨found, c'⟩ := g
  cases found with
  | some a => exact .inl (hget p h)
  | none =>
    cases ha : compile wasm s with
    | error e =>
      rw [ha] at h
      exact .inl (hget p h)
    | ok a =>
      rw [ha] at h
      cases keep with
      | false => exact .inl (hget p h)
      | true =>
        rcases Lru.mem_of_mem_insert h with rfl | h
        · exact .inr ⟨rfl, (compile_ok ha).moduleHash, rfl⟩
        · exact .inl (hget p h)

end Cache

/-- What may come into the caches: modules that are used, and artifacts that are kept. -/
structure Stock where
  uses : Word → Prop
  keeps : Word → Artifact → Prop

namespace Stock

/-- Between two worlds nothing else came into the caches, and the settings and the block stayed. -/
structure Adds (S : Stock) (w w' : World) : Prop where
  block : w'.block = w.block
  config : w'.config = w.config
  artifacts : ∀ p ∈ w'.cache.artifacts.entries, p ∈ w.cache.artifacts.entries ∨ S.keeps p.1 p.2
  recent : ∀ m ∈ w'.cache.recent.modules,
    m ∈ w.cache.recent.modules ∧ w'.cache.recent.block = w.cache.recent.block ∨
      S.uses m ∧ w'.cache.recent.block = some w.block.height

variable {S : Stock} {w w' : World}

theorem Adds.trans {w'' : World} (h : S.Adds w w') (h' : S.Adds w' w'') : S.Adds w w'' where
  block := h'.block.trans h.block
  config := h'.config.trans h.config
  artifacts p hp := by
    rcases h'.artifacts p hp with hp | hp
    · exact h.artifacts p hp
    · exact .inr hp
  recent m hm := by
    rcases h'.recent m hm with ⟨hm, hblock⟩ | hm
    · rw [hblock]
      exact h.recent m hm
    · rw [h.block] at hm
      exact .inr hm

instance : IsPreorder World S.Adds where
  refl _ := ⟨rfl, rfl, fun _ hp => .inl hp, fun _ hm => .inl ⟨hm, rfl⟩⟩
  trans _ _ _ := .trans

structure Fills (S : Stock) (w w' : World) : Prop where
  block : w'.block = w.block
  config : w'.config = w.config
  recent : w'.cache.recent = w.cache.recent
  artifacts : ∀ p ∈ w'.cache.artifacts.entries, p ∈ w.cache.artifacts.entries ∨ S.keeps p.1 p.2

theorem Fills.adds (h : S.Fills w w') : S.Adds w w' where
  block := h.block
  config := h.config
  artifacts := h.artifacts
  recent m hm := by
    rw [h.recent] at hm ⊢
    exact .inl ⟨hm, rfl⟩

instance : IsPreorder World S.Fills where
  refl _ := ⟨rfl, rfl, rfl, fun _ hp => .inl hp⟩
  trans _ _ _ h h' := ⟨h'.block.trans h.block, h'.config.trans h.config, h'.recent.trans h.recent,
    fun p hp => (h'.artifacts p hp).elim (h.artifacts p) .inr⟩

/-- Whatever is compiled of a module under the version and in the mode there are may be kept. -/
def Takes (S : Stock) (w : World) (wasm : Octets) : Prop :=
  ∀ s a, s.version = w.ledger.view.params.version → s.debug = w.config.debug →
    compile wasm s = .ok a → S.keeps (keccak wasm) a

/-- Calls may keep what they compile, if they keep anything. -/
def Fits (S : Stock) (w : World) : Prop := w.config.autoCache = true → ∀ wasm, S.Takes w wasm

theorem Takes.of_slot {wasm : Octets} (h : S.Takes w wasm)
    (hslot : w'.ledger.view.slot = w.ledger.view.slot) (hconfig : w'.config = w.config) :
    S.Takes w' wasm := by
  intro s a hversion hdebug
  rw [View.params_of_slot hslot] at hversion
  rw [hconfig] at hdebug
  exact h s a hversion hdebug

theorem Fits.of_slot (h : S.Fits w) (hslot : w'.ledger.view.slot = w.ledger.view.slot)
    (hconfig : w'.config = w.config) : S.Fits w' := by
  intro hauto wasm
  rw [hconfig] at hauto
  exact (h hauto wasm).of_slot hslot hconfig

theorem Fits.of_reading (h : S.Fits w) (hreading : w.Reading w') : S.Fits w' :=
  h.of_slot hreading.slot hreading.config

end Stock

structure World.Still (w w' : World) : Prop where
  cache : w'.cache = w.cache
  block : w'.block = w.block
  config : w'.config = w.config

instance : IsPreorder World World.Still where
  refl _ := ⟨rfl, rfl, rfl⟩
  trans _ _ _ h h' := ⟨h'.cache.trans h.cache, h'.block.trans h.block, h'.config.trans h.config⟩

namespace World

variable {S : Stock} {w w' : World} {α ε : Type} {codeHash fee : Word} {wasm : Octets}
  {payer : Address}

theorem Reading.still (h : w.Reading w') : w.Still w' := ⟨h.cache, h.block, h.config⟩

theorem Still.fills (h : w.Still w') : S.Fills w w' where
  block := h.block
  config := h.config
  recent := congrArg Cache.recent h.cache
  artifacts p hp := by
    rw [h.cache] at hp
    exact .inl hp

theorem Still.adds (h : w.Still w') : S.Adds w w' := h.fills.adds

theorem Reading.adds (h : w.Reading w') : S.Adds w w' := h.still.adds

theorem still_onState {frozen : Bool} {m : Access α} : Keeps Still (onState frozen m) := by
  intro w
  unfold KeepsFrom
  rw [outcome_onState]
  exact ⟨rfl, rfl, rfl⟩

theorem still_chargeFee : Keeps Still (chargeFee payer fee) := by
  have hledger : ∀ {β : Type} (m : LedgerM β), Keeps Still (onLedger m) := fun _ => still_onState
  refine keeps_ite (fun _ => keeps_pure _) fun _ => (hledger _).bind fun h => keeps_guard ?_
  refine still_onState.bind fun receiver => (hledger _).bind fun r => ?_
  cases r with
  | some e => exact keeps_throw _
  | none => exact keeps_pure _

theorem adds_startBlock (w : World) :
    S.Adds w { w with cache := w.cache.startBlock w.block.height } where
  block := rfl
  config := rfl
  artifacts _ hp := .inl hp
  recent m hm := by
    obtain ⟨hm, hblock⟩ := Recent.mem_enter hm
    exact .inl ⟨hm, (Recent.block_enter _ _).trans hblock.symm⟩

theorem adds_touchRecent {module : Word} (huses : S.uses module) (retain : Nat) :
    S.Adds w { w with cache := (w.cache.touchRecent w.block.height module retain).2 } where
  block := rfl
  config := rfl
  artifacts _ hp := .inl hp
  recent m hm := by
    have hblock : ((w.cache.recent.enter w.block.height).touch module retain).2.block =
        some w.block.height := (Recent.block_touch _ _ _).trans (Recent.block_enter _ _)
    rcases Recent.mem_touch hm with rfl | hm
    · exact .inr ⟨huses, hblock⟩
    · obtain ⟨hm, hbefore⟩ := Recent.mem_enter hm
      exact .inl ⟨hm, hblock.trans hbefore.symm⟩

theorem adds_evict (w : World) (module : Word) :
    S.Adds w { w with cache := (w.cache.evict module).2 } where
  block := rfl
  config := rfl
  artifacts _ hp := .inl (Lru.mem_of_mem_others hp)
  recent _ hm := .inl ⟨hm, rfl⟩

theorem fills_load {s : CompileSettings} {keep : Bool}
    (h : keep = true → ∀ a, compile wasm s = .ok a → S.keeps (keccak wasm) a) :
    KeepsFrom S.Fills (load wasm s keep) w := by
  unfold KeepsFrom
  rw [outcome_load]
  refine ⟨rfl, rfl, Cache.recent_load _ _ _ _ _, fun p hp => ?_⟩
  rcases Cache.mem_load hp with hp | ⟨hkeep, hmodule, hcompile⟩
  · exact .inl hp
  · rw [hmodule]
    exact .inr (h hkeep p.2 hcompile)

theorem atomically_of_still {R : World → World → Prop} [IsPreorder World R]
    (hstill : ∀ w w', Still w w' → R w w') {m : ExceptT ε (StateM World) α} (h : KeepsFrom R m w) :
    KeepsFrom R (atomically m) w :=
  keepsFrom_atomically_of_revert h fun _ h => IsTrans.trans _ _ _ h (hstill _ _ ⟨rfl, rfl, rfl⟩)

theorem fills_of_still {m : ExceptT ε (StateM World) α} (h : Keeps Still m) : Keeps S.Fills m :=
  h.mono fun _ _ => Still.fills

theorem fills_of_reading {m : ExceptT ε (StateM World) α} (h : Keeps Reading m) : Keeps S.Fills m :=
  fills_of_still (h.mono fun _ _ => Reading.still)

theorem adds_of_still {m : ExceptT ε (StateM World) α} (h : Keeps Still m) : Keeps S.Adds m :=
  h.mono fun _ _ => Still.adds

theorem adds_of_reading {m : ExceptT ε (StateM World) α} (h : Keeps Reading m) : Keeps S.Adds m :=
  h.mono fun _ _ => Reading.adds

theorem fills_onState {frozen : Bool} {m : Access α} : Keeps S.Fills (onState frozen m) :=
  fills_of_still still_onState

theorem fills_activate {pinned : Bool} (h : S.Fits w) :
    KeepsFrom S.Fills (activate codeHash wasm pinned) w := by
  rw [activate_eq]
  refine (fills_onState w).bind fun p w₁ hp => ?_
  obtain ⟨d, hd, rfl⟩ := gives_onState hp
  have hparams : p = w.ledger.view.params := State.gives_params hd
  refine (keeps_get _).bind fun w' t hget => ?_
  obtain ⟨rfl, rfl⟩ := gives_get.mp hget
  refine (fills_load fun hauto a ha => ?_).bind fun l w₂ _ => fills_onState w₂
  exact h hauto wasm _ a (congrArg Params.version hparams) rfl ha

theorem fills_activateAndCharge {pinned : Bool} (h : S.Fits w) :
    KeepsFrom S.Fills (activateAndCharge codeHash wasm pinned payer) w :=
  atomically_of_still (fun _ _ => Still.fills) ((fills_activate h).bind fun _ w₁ _ =>
    (fills_of_still still_chargeFee).bind (fun _ => keeps_pure _) w₁)

end World

/-! ### Calls of programs -/

namespace Call

variable {S : Stock} {w w' : World} {c : Call} {p : Params} {codeHash : Word} {wasm : Octets}
  {runner : Runner}

theorem fills_findRecord (h : S.Fits w) :
    KeepsFrom S.Fills (findRecord c p codeHash wasm) w := by
  have hactive : Keeps World.Reading (World.onState true (State.activeRecord p w.now codeHash)) :=
    World.reading_onState State.keeps_activeRecord
  have hprevious : Keeps World.Reading (World.onState true (State.record? codeHash)) :=
    World.reading_onState State.keeps_record?
  refine (keeps_get w).bind fun w' t hget => ?_
  obtain ⟨rfl, rfl⟩ := gives_get.mp hget
  refine KeepsFrom.bind (World.fills_of_reading (keeps_lift hactive) w) fun r w₁ hr => ?_
  have hreading₁ : w.Reading w₁ := (keeps_lift hactive).of_gives hr
  cases r with
  | ok r => exact keepsFrom_pure _ _
  | error e =>
    refine KeepsFrom.bind (World.fills_of_reading (hprevious.adapt _) w₁) fun previous w₂ hr => ?_
    have hreading₂ : w₁.Reading w₂ := (hprevious.adapt _).of_gives hr
    refine keepsFrom_guard fun _ => ?_
    have hfits : S.Fits w₂ := h.of_reading (hreading₁.trans hreading₂)
    have hactivated : KeepsFrom S.Fills ((World.activateAndCharge codeHash wasm
        ((previous.map Record.pinned).getD false) c.caller).adapt (refusal c.gas)) w₂ :=
      World.fills_activateAndCharge hfits
    exact hactivated.bind fun _ _ _ => keepsFrom_pure _ _

theorem fills_loadActive (h : S.Fits w) (hp : p = w.ledger.view.params) :
    KeepsFrom S.Fills (loadActive c p wasm) w := by
  refine (keeps_get w).bind fun w' t hget => ?_
  obtain ⟨rfl, rfl⟩ := gives_get.mp hget
  have hloaded : KeepsFrom S.Fills
      ((World.load wasm (w.settings p) w.config.autoCache).adapt (refusal c.gas)) w :=
    World.fills_load fun hauto a ha => h hauto wasm _ a (congrArg Params.version hp) rfl ha
  exact hloaded.bind fun _ _ _ => keepsFrom_pure _ _

theorem fills_execute (h : S.Fits w) (hp : p = w.ledger.view.params) (runner : Runner) :
    S.Fills { w with cache := (w.cache.touchRecent w.block.height (keccak wasm)
      p.blockCacheSize.toNat).2 } (outcome (execute runner c p codeHash wasm) w).2 := by
  let w₁ : World := { w with
    cache := (w.cache.touchRecent w.block.height (keccak wasm) p.blockCacheSize.toNat).2 }
  obtain ⟨warm, htouch⟩ : ∃ warm, Gives (touchModule p (keccak wasm)) w warm w₁ := ⟨_, rfl⟩
  have hcharged : ∀ warm r a, Keeps S.Fills (chargeStart c p warm r a) := fun _ _ _ =>
    keeps_get.bind fun _ => keeps_guard (keeps_pure _)
  rw [execute_eq]
  unfold prepare
  rw [bind_assoc, htouch.outcome_bind]
  have hfits : S.Fits w₁ := h
  refine KeepsFrom.bind ((fills_findRecord hfits).bind fun found w₂ hfound => ?_) fun x w₃ _ =>
    World.fills_of_reading keeps_runProgram w₃
  obtain ⟨l, hreads, hcases⟩ := gives_findRecord hfound
  have hartifact : KeepsFrom S.Fills (found.2.elim (loadActive c p wasm) pure) w₂ := by
    rcases hcases with ⟨-, hnone, rfl⟩ | ⟨e, a, -, -, -, rfl, -⟩
    · rw [hnone]
      have hview : l.view = w.ledger.view := hreads.view
      exact fills_loadActive (h.of_slot (congrArg View.slot hview) rfl) (by rw [hp, hview])
    · exact keepsFrom_pure _ _
  exact hartifact.bind fun artifact w₃ _ => hcharged _ _ _ w₃

theorem still_keepIfReturned (m : StateM World CallResult) (w : World) :
    World.Still (m.run w).2 ((keepIfReturned m).run w).2 :=
  ⟨beside_keepIfReturned World.cache (fun _ _ => rfl) m w,
    beside_keepIfReturned World.block (fun _ _ => rfl) m w,
    beside_keepIfReturned World.config (fun _ _ => rfl) m w⟩

theorem adds_run (runner : Runner) (c : Call) (h : S.Fits w)
    (huses : ∀ wasm, Package.module? w.ledger.view.params.maxWasmSize.toNat
      (w.ledger.account c.codeAt).code = .ok (some wasm) → S.uses (keccak wasm)) :
    S.Adds w ((run runner c).run w).2 := by
  obtain ⟨l, hreads, hcases⟩ := run_cases runner c w
  let w₁ : World := { w with ledger := l, cache := w.cache.startBlock w.block.height }
  have hstart : S.Adds w w₁ :=
    (World.adds_startBlock w).trans (World.Still.adds ⟨rfl, rfl, rfl⟩)
  rcases hcases with ⟨hstays, -⟩ | ⟨p, wasm, hp, hmodule, hrun⟩
  · rw [hstays]
    exact hstart
  have hparams : p = w.ledger.view.params := State.gives_params (Prod.ext hp rfl)
  have huse : S.uses (keccak wasm) := huses wasm (hparams ▸ hmodule)
  have hexecuted : S.Adds w₁ (outcome (execute runner c p
      (keccak (w.ledger.account c.codeAt).code) wasm) w₁).2 := by
    refine (World.adds_touchRecent huse p.blockCacheSize.toNat).trans (fills_execute ?_ ?_ runner).adds
    · exact h.of_slot hreads.slot rfl
    · rw [hparams]
      exact congrArg View.params hreads.view.symm
  have hstays := still_keepIfReturned (finish (execute runner c p
    (keccak (w.ledger.account c.codeAt).code) wasm)) w₁
  rw [run_finish] at hstays
  rw [hrun]
  exact hstart.trans (hexecuted.trans hstays.adds)

theorem same_run (runner : Runner) (c : Call) (w : World) :
    ((run runner c).run w).2.block = w.block ∧ ((run runner c).run w).2.config = w.config := by
  have hadds : Stock.Adds ⟨fun _ => True, fun _ _ => True⟩ w ((run runner c).run w).2 :=
    adds_run runner c (fun _ _ _ _ _ _ _ => trivial) fun _ _ => trivial
  exact ⟨hadds.block, hadds.config⟩

/-- What a call leaves in the block tier once it has come to the code of a program, however it ends. -/
theorem recent_run (runner : Runner) (hloadable : w.ledger.Loadable c.codeAt)
    (hknown : w.ledger.KnowsParams)
    (hmodule : Package.module? w.ledger.view.params.maxWasmSize.toNat
      (w.ledger.account c.codeAt).code = .ok (some wasm)) :
    ((run runner c).run w).2.cache.recent = ((w.cache.recent.enter w.block.height).touch
      (keccak wasm) w.ledger.view.params.blockCacheSize.toNat).2 := by
  let w₀ : World := { w with cache := w.cache.startBlock w.block.height }
  obtain ⟨l₁, l₂, hreads, hcode, hp⟩ := World.code_and_params (w := w₀) hloadable hknown
  rw [run_of_read hcode hp, hmodule]
  have hview : l₂.view = w.ledger.view := hreads.view
  have hfills : Stock.Fills ⟨fun _ => True, fun _ _ => True⟩ _ (outcome (execute runner c
      w.ledger.view.params (keccak (w.ledger.account c.codeAt).code) wasm)
        { w₀ with ledger := l₂ }).2 :=
    fills_execute (fun _ _ _ _ _ _ _ => trivial) (congrArg View.params hview.symm) runner
  have hstays := still_keepIfReturned (finish (execute runner c w.ledger.view.params
    (keccak (w.ledger.account c.codeAt).code) wasm)) { w₀ with ledger := l₂ }
  rw [run_finish] at hstays
  change (Prod.map some id ((keepIfReturned (finish (execute runner c w.ledger.view.params
    (keccak (w.ledger.account c.codeAt).code) wasm))).run { w₀ with ledger := l₂ })).2.cache.recent = _
  rw [Prod.map_snd, id_eq, hstays.cache]
  refine hfills.recent.trans ?_
  change (((w.cache.recent.enter _).enter _).touch _ _).2 = _
  rw [Recent.enter_enter]

end Call

/-! ### Calls of system contracts -/

namespace SystemContract

variable {S : Stock} {w : World} {c : Call} {f : Frame} {args : Octets} {α : Type}
  {methods : List Method}

/-- A manager asks for the module of a program to be compiled and kept. -/
structure Caches (c : Call) (v : View) (wasm : Octets) : Prop where
  asks : Asks c pinningAddress "cacheProgram(address)"
  manager : v.Manages c.caller
  module : ∃ arg, argument? c = some arg ∧ Package.module? v.params.maxWasmSize.toNat
    (v.account (Address.ofWord arg)).code = .ok (some wasm)

theorem adds_of_still {m : MethodM α} (h : Keeps (Frame.Over World.Still) m) :
    Keeps (Frame.Over S.Adds) m := h.mono fun _ _ => World.Still.adds

theorem adds_of_reading {m : MethodM α} (h : Keeps (Frame.Over World.Reading) m) :
    Keeps (Frame.Over S.Adds) m := h.mono fun _ _ => World.Reading.adds

theorem still_of_reading {m : MethodM α} (h : Keeps (Frame.Over World.Reading) m) :
    Keeps (Frame.Over World.Still) m := h.mono fun _ _ => World.Reading.still

theorem still_onState {m : Access α} : Keeps (Frame.Over World.Still) (onState c m) := by
  refine (still_of_reading reading_holdState).bind fun _ f => ?_
  unfold KeepsFrom
  rw [outcome_onHeldState]
  exact ⟨rfl, rfl, rfl⟩

theorem still_onLedger {m : LedgerM α} : Keeps (Frame.Over World.Still) (onLedger m) := by
  intro f
  unfold KeepsFrom
  rw [outcome_onLedger]
  exact ⟨rfl, rfl, rfl⟩

theorem adds_onWorld {m : WorldM α} (h : KeepsFrom S.Adds m f.world) :
    KeepsFrom (Frame.Over S.Adds) (onWorld m) f := by
  unfold KeepsFrom
  rw [outcome_onWorld]
  exact h

theorem still_payOut {dest : Address} {value : Word} :
    Keeps (Frame.Over World.Still) (payOut c dest value) := by
  refine still_onLedger.bind fun r => ?_
  cases r with
  | some e => exact keeps_throw _
  | none => exact keeps_pure _

theorem still_emit (g : Log) : Keeps (Frame.Over World.Still) (emit g) :=
  (still_of_reading (reading_pay _)).bind fun _ => keeps_modify fun _ => ⟨rfl, rfl, rfl⟩

theorem still_settleFee (fee : Word) : Keeps (Frame.Over World.Still) (settleFee c fee) :=
  keeps_guard (still_onState.bind fun _ => still_payOut.bind fun _ => still_payOut)

theorem adds_activateProgram (h : S.Fits f.world) :
    KeepsFrom (Frame.Over S.Adds) (Programs.activateProgram c args) f := by
  rw [Programs.activateProgram_eq]
  refine (adds_of_reading Programs.reading_inspect f).bind fun x g hx => ?_
  have hfits : S.Fits g.world := h.of_reading (Programs.reading_inspect.of_gives hx)
  cases x.current with
  | some r => exact adds_of_still (still_payOut.bind fun _ => keeps_pure _) g
  | none =>
    refine KeepsFrom.bind (adds_of_reading (reading_moduleAt _ _) g) fun wasm g₁ h₁ => ?_
    have hfits₁ : S.Fits g₁.world := hfits.of_reading ((reading_moduleAt _ _).of_gives h₁)
    refine KeepsFrom.bind (adds_onWorld (World.fills_activate hfits₁).adds) fun a g₂ _ => ?_
    exact adds_of_still ((still_settleFee _).bind fun _ => (still_emit _).bind fun _ =>
      keeps_pure _) g₂

theorem still_codehashKeepalive :
    Keeps (Frame.Over World.Still) (Programs.codehashKeepalive c args) := by
  have hkept : ∀ codeHash, Keeps World.Still (World.keepalive codeHash) := fun _ =>
    keeps_get.bind fun _ => World.still_onState
  refine (still_of_reading (reading_argument args)).bind fun codeHash => ?_
  exact (keeps_onWorld (hkept codeHash)).bind fun k => (still_settleFee _).bind fun _ =>
    (still_emit _).bind fun _ => keeps_pure _

theorem still_announce {codeHash : Word} {r : Record} {pinned : Bool} :
    Keeps (Frame.Over World.Still) (Pinning.announce c codeHash r pinned) :=
  (still_emit _).bind fun _ => still_of_reading (reading_pay _)

theorem adds_pin {x : Pinning.Inspected} (hparams : x.params = f.world.ledger.view.params)
    (h : ∀ wasm, Package.module? x.params.maxWasmSize.toNat
      (f.world.ledger.account x.program).code = .ok (some wasm) → S.Takes f.world wasm) :
    KeepsFrom (Frame.Over S.Adds) (Pinning.pin c x) f := by
  refine (adds_of_still still_announce f).bind fun u f₁ h₁ => ?_
  refine KeepsFrom.bind (adds_of_reading (reading_moduleAt _ _) f₁) fun wasm f₂ h₂ => ?_
  have haccount : f₁.world.ledger.account = f.world.ledger.account :=
    congrArg View.account (Pinning.gives_announce h₁)
  have hmodule := gives_moduleAt h₂
  rw [haccount] at hmodule
  have hstill₁ : f.world.Still f₁.world := still_announce.of_gives h₁
  have hreads₂ : f₁.world.Reading f₂.world := (reading_moduleAt _ _).of_gives h₂
  have hconfig : f₂.world.config = f.world.config := hreads₂.config.trans hstill₁.config
  have hloaded : KeepsFrom S.Adds (do World.load wasm ((← get).settings x.params) true) f₂.world := by
    refine (keeps_get _).bind fun w' t hget => ?_
    obtain ⟨rfl, rfl⟩ := gives_get.mp hget
    refine (World.fills_load fun _ a ha => h wasm hmodule _ a ?_ ?_ ha).adds
    · exact congrArg Params.version hparams
    · exact congrArg Config.debug hconfig
  refine KeepsFrom.bind (adds_onWorld hloaded) fun y f₃ _ => ?_
  exact adds_of_still (still_onState.bind fun _ => keeps_pure _) f₃

theorem adds_cacheProgram (hasks : Asks c pinningAddress "cacheProgram(address)")
    (h : ∀ wasm, Caches c f.world.ledger.view wasm → S.Takes f.world wasm) :
    KeepsFrom (Frame.Over S.Adds) (Pinning.cacheProgram c (c.input.drop 4)) f := by
  rw [Pinning.cacheProgram_eq]
  refine (adds_of_reading Pinning.reading_inspect f).bind fun x f₁ h₁ => ?_
  refine keepsFrom_ite (fun _ => keepsFrom_pure _ _) fun _ => ?_
  have hreads : f.world.Reading f₁.world := Pinning.reading_inspect.of_gives h₁
  obtain ⟨⟨arg, hword, hprogram⟩, hmanages, hparams, -⟩ := Pinning.gives_inspect h₁
  refine adds_pin (hparams.trans (congrArg View.params hreads.view.symm)) fun wasm hmodule => ?_
  rw [hreads.account, hparams, hprogram] at hmodule
  have htakes := h wasm ⟨hasks, hmanages, arg, hword, hmodule⟩
  exact htakes.of_slot hreads.slot hreads.config

theorem adds_evictCodehash : Keeps (Frame.Over S.Adds) (Pinning.evictCodehash c args) := by
  rw [Pinning.evictCodehash_eq]
  refine (adds_of_reading Pinning.reading_findPinned).bind fun x => ?_
  cases x.2 with
  | none => exact keeps_pure _
  | some r =>
    refine Keeps.bind (adds_of_still still_announce) fun _ => ?_
    refine Keeps.bind (adds_of_still still_onState) fun module => ?_
    refine Keeps.bind (adds_of_still still_onState) fun _ => ?_
    exact Keeps.bind (keeps_modify fun f => World.adds_evict f.world module) fun _ => keeps_pure _

theorem Programs.adds_answer {m : Method} (hm : m ∈ Programs.methods) (h : S.Fits f.world) :
    KeepsFrom (Frame.Over S.Adds) (m.answer c) f := by
  have hrun : KeepsFrom (Frame.Over S.Adds) (m.run c (c.input.drop 4)) f := by
    rcases methods_fit hm with hreads | ⟨-, hs, -⟩
    · exact adds_of_reading (hreads _ _) f
    rcases eq_of_mutating hm hs with rfl | rfl
    · exact adds_activateProgram h
    · exact adds_of_still still_codehashKeepalive f
  exact keepsFrom_guard fun _ => keepsFrom_guard fun _ => hrun

theorem Pinning.adds_answer {m : Method} (hm : m ∈ Pinning.methods)
    (hat : c.codeAt = pinningAddress) (htarget : c.frozen = false → c.target = c.codeAt)
    (hselector : m.selector = c.input.take 4)
    (h : ∀ wasm, Caches c f.world.ledger.view wasm → S.Takes f.world wasm) :
    KeepsFrom (Frame.Over S.Adds) (m.answer c) f := by
  refine keepsFrom_guard fun hthawed => keepsFrom_guard fun _ => ?_
  rcases methods_fit hm with hreads | ⟨hmutates, hs, -⟩
  · exact adds_of_reading (hreads _ _) f
  have hthawed : c.frozen = false := by simpa using fun hfrozen => hthawed ⟨hfrozen, hmutates⟩
  have hasks : Asks c pinningAddress m.signature :=
    ⟨hat, (htarget hthawed).trans hat, hthawed, hselector.symm⟩
  rcases eq_of_mutating hm hs with rfl | rfl
  · exact adds_cacheProgram hasks h
  · exact adds_evictCodehash f

theorem adds_call (c : Call) (h : S.Fits w)
    (hcaches : ∀ wasm, Caches c w.ledger.view wasm → S.Takes w wasm) :
    S.Adds w ((call c).run w).2 := by
  rcases call_cases c w with ⟨hstays, -⟩ | ⟨methods, hmethods, htarget, hcall⟩
  · rw [hstays]
    exact Std.Refl.refl w
  have hdispatch : KeepsFrom (Frame.Over S.Adds) (dispatch methods c) ⟨w, c.gas⟩ := by
    refine keepsFrom_dispatch World.Reading.adds fun m hm hselector f hreading => ?_
    have hfits : S.Fits f.world := h.of_reading hreading
    rcases methodsAt?_cases hmethods with ⟨-, rfl⟩ | ⟨hat, rfl⟩
    · exact Programs.adds_answer hm hfits
    · refine Pinning.adds_answer hm hat htarget hselector fun wasm hwasm => ?_
      rw [hreading.view] at hwasm
      exact (hcaches wasm hwasm).of_slot hreading.slot hreading.config
  have hinvoke : S.Adds w ((invoke methods c).run w).2 := by
    rw [run_invoke]
    split
    · exact Std.Refl.refl w
    · exact hdispatch
  have hstays : World.Still ((invoke methods c).run w).2
      ((Call.keepIfReturned (invoke methods c)).run w).2 := Call.still_keepIfReturned _ _
  rw [hcall]
  exact hinvoke.trans hstays.adds

end SystemContract

/-! ### Frames and deployments -/

namespace World

variable {S : Stock} {w : World} {c : Call} {run : Call → StateM World (Option CallResult)}

theorem still_revert (k : Checkpoint) (w : World) : w.Still (w.revert k) := ⟨rfl, rfl, rfl⟩

theorem adds_frame {pay : Bool}
    (h : ∀ l, Paid pay c w.ledger.view l.view →
      S.Adds { w with ledger := l } ((run c).run { w with ledger := l }).2) :
    S.Adds w (w.frame pay c run).2 := by
  obtain ⟨x, l, hmoved, hpaid⟩ : ∃ x l,
      (if pay then w.bare (Ledger.transfer c.caller c.target c.value) else (.ok none, w)) =
          (x, { w with ledger := l }) ∧ (x = .ok none → Paid pay c w.ledger.view l.view) := by
    cases pay with
    | true => exact ⟨_, _, rfl, fun hx => Ledger.gives_transfer (Prod.ext hx rfl)⟩
    | false => exact ⟨_, w.ledger, rfl, fun _ => rfl⟩
  have hstart : S.Adds w { w with ledger := l } := Still.adds ⟨rfl, rfl, rfl⟩
  unfold frame
  rw [hmoved]
  rcases x with f | (_ | e)
  · exact hstart.trans (still_revert _ _).adds
  · have hcalled := hstart.trans (h l (hpaid rfl))
    dsimp only
    rcases hrun : (run c).run { w with ledger := l } with ⟨r, w'⟩
    rw [hrun] at hcalled
    cases r with
    | none => exact hcalled.trans (still_revert _ _).adds
    | some r =>
      dsimp only
      split
      · exact hcalled
      · exact hcalled.trans (still_revert _ _).adds
  · exact hstart.trans (still_revert _ _).adds

end World

namespace Deploy

variable {S : Stock} {w w' : World} {r : DeployRequest} {maker address : Address} {code : Octets}
  {runner : Runner} {α : Type}

theorem adds_of_reading {m : DeployM α} (h : Keeps World.Reading m) : Keeps S.Adds m :=
  World.adds_of_reading h

theorem adds_onLedger {m : LedgerM α} : Keeps S.Adds (onLedger m) :=
  World.adds_of_still (World.still_onState.adapt _)

theorem adds_construct (h : S.Fits w)
    (huses : ∀ wasm, Package.module? w.ledger.view.params.maxWasmSize.toNat
      (w.ledger.account address).code = .ok (some wasm) → S.uses (keccak wasm)) :
    KeepsFrom S.Adds (construct runner r address) w := by
  refine (adds_onLedger w).bind fun e w₁ hpaid => ?_
  obtain ⟨l, hl, rfl⟩ := gives_onLedger hpaid
  cases e with
  | some e => exact keepsFrom_throw _ _
  | none =>
    have hpays : View.Pays r.caller address r.value w.ledger.view l.view := Ledger.gives_transfer hl
    have hcalled : KeepsFrom S.Adds (liftM (Call.run runner (constructorCall r address)) :
        DeployM (Option CallResult)) { w with ledger := l } := by
      refine Call.adds_run runner _ (h.of_slot hpays.slot rfl) fun wasm hwasm => huses wasm ?_
      have hparams : l.view.params = w.ledger.view.params := View.params_of_slot hpays.slot
      have hcode : (l.account address).code = (w.ledger.account address).code := hpays.code address
      rw [← hparams, ← hcode]
      exact hwasm
    refine KeepsFrom.bind hcalled fun result w₂ _ => ?_
    cases result with
    | none => exact keepsFrom_throw _ _
    | some result => exact keepsFrom_ite (fun _ => keepsFrom_throw _ _) fun _ => keepsFrom_pure _ _

theorem adds_install (h : S.Fits w)
    (huses : r.Constructs → ∀ wasm, Package.module? w.ledger.view.params.maxWasmSize.toNat code =
      .ok (some wasm) → S.uses (keccak wasm)) :
    KeepsFrom S.Adds (install runner r maker address code) w := by
  refine (adds_onLedger w).bind fun u w₁ h₁ => ?_
  refine (adds_onLedger w₁).bind fun u w₂ h₂ => (adds_onLedger w₂).bind fun u w₃ h₃ => ?_
  obtain ⟨l₁, hl₁, rfl⟩ := gives_onLedger h₁
  obtain ⟨l₂, hl₂, rfl⟩ := gives_onLedger h₂
  obtain ⟨l₃, hl₃, rfl⟩ := gives_onLedger h₃
  have hslot : l₃.slot = w.ledger.slot := (Ledger.funded_bumpNonce.of_gives hl₃).slot.trans
    ((Ledger.funded_setCode.of_gives hl₂).slot.trans (Ledger.funded_bumpNonce.of_gives hl₁).slot)
  have hcodes : l₂.codes = l₃.codes := Ledger.codes_bumpNonce.of_gives hl₃
  have hcode : (l₃.account address).code = code :=
    (congrFun hcodes address).symm.trans (Ledger.gives_setCode hl₂)
  refine keepsFrom_ite (fun hconstructs => ?_) fun _ => keepsFrom_pure _ _
  refine adds_construct (h.of_slot hslot rfl) fun wasm hwasm => huses hconstructs wasm ?_
  have hparams : l₃.view.params = w.ledger.view.params := View.params_of_slot hslot
  rw [← hparams, ← hcode]
  exact hwasm

theorem adds_deploy (h : S.Fits w)
    (huses : r.Constructs → ∀ code wasm, r.build.code = .ok code →
      Package.module? w.ledger.view.params.maxWasmSize.toNat code = .ok (some wasm) →
        S.uses (keccak wasm)) : KeepsFrom S.Adds (deploy runner r) w := by
  refine (adds_of_reading (reading_orFail _) w).bind fun code w₁ h₁ => ?_
  obtain ⟨hbuild, rfl⟩ := gives_orFail h₁
  refine (adds_of_reading (reading_orFail _) w).bind fun init w₂ h₂ => ?_
  obtain ⟨-, rfl⟩ := gives_orFail h₂
  refine (keeps_get w).bind fun w₃ t hget => ?_
  obtain ⟨rfl, rfl⟩ := gives_get.mp hget
  refine keepsFrom_guard fun _ => ?_
  refine (adds_of_reading reading_newAddress w).bind fun address w₄ h₄ => ?_
  refine (adds_of_reading reading_hold w₄).bind fun target w₅ h₅ => ?_
  have hreading : w.Reading w₅ :=
    (reading_newAddress.of_gives h₄).trans (reading_hold.of_gives h₅)
  refine keepsFrom_guard fun _ => ?_
  have hinstalled : KeepsFrom S.Adds (install runner r (creator w r) address code) w₅ := by
    refine adds_install (h.of_reading hreading) fun hconstructs wasm hwasm => ?_
    rw [hreading.view] at hwasm
    exact huses hconstructs code wasm hbuild hwasm
  have hinstalls := World.atomically_of_still (fun _ _ => World.Still.adds) hinstalled
  exact KeepsFrom.bind hinstalls fun _ _ _ => keepsFrom_pure _ _

end Deploy

/-! ### Turns -/

namespace Turn

variable {w : World} {t : Turn}

/-- The modules that a turn uses: of the code that is called, or of what is installed and called. -/
def Uses (w : World) (m : Word) : Turn → Prop
  | call _ (.program _) c => ∃ wasm, m = keccak wasm ∧
      Package.module? w.ledger.view.params.maxWasmSize.toNat (w.ledger.account c.codeAt).code =
        .ok (some wasm)
  | deploy _ r => r.Constructs ∧ ∃ code wasm, m = keccak wasm ∧ r.build.code = .ok code ∧
      Package.module? w.ledger.view.params.maxWasmSize.toNat code = .ok (some wasm)
  | _ => False

def Caches (w : World) (m : Word) : Turn → Prop
  | call _ .system c => ∃ wasm, m = keccak wasm ∧ SystemContract.Caches c w.ledger.view wasm
  | _ => False

/-- The artifacts that a turn may leave in the caches: what is compiled under the version and in the
mode there are, if calls keep anything or a manager asks for it. -/
def Keeps (w : World) (m : Word) (a : Artifact) (t : Turn) : Prop :=
  (w.config.autoCache = true ∨ t.Caches w m) ∧ ∃ wasm s, m = keccak wasm ∧
    compile wasm s = .ok a ∧ s.version = w.ledger.view.params.version ∧ s.debug = w.config.debug

def stock (w : World) (t : Turn) : Stock := ⟨fun m => t.Uses w m, fun m a => t.Keeps w m a⟩

/-- Nothing is put into the caches by hand, whatever is taken from them. -/
def Tends (w : World) (t : Turn) : Prop := ∀ k, t = .cache k →
  (∀ p ∈ k.artifacts.entries, p ∈ w.cache.artifacts.entries) ∧
    ∀ m ∈ k.recent.modules, m ∈ w.cache.recent.modules ∧ k.recent.block = w.cache.recent.block

theorem fits_stock (w : World) (t : Turn) : (t.stock w).Fits w :=
  fun hauto _ s _ hversion hdebug ha => ⟨.inl hauto, _, s, rfl, ha, hversion, hdebug⟩

theorem adds_callee {frame : Option Bool} {callee : Callee} {c : Call} {pay : Bool} {l : Ledger}
    (hpaid : World.Paid pay c w.ledger.view l.view) :
    ((call frame callee c).stock w).Adds { w with ledger := l }
      ((callee.run c).run { w with ledger := l }).2 := by
  obtain ⟨hslot, -, hcode⟩ := hpaid.same
  have hparams : l.view.params = w.ledger.view.params := View.params_of_slot hslot
  have hfits : ((call frame callee c).stock w).Fits { w with ledger := l } :=
    (fits_stock w _).of_slot hslot rfl
  cases callee with
  | program runner =>
    refine Call.adds_run runner c hfits fun wasm hwasm => ⟨wasm, rfl, ?_⟩
    change Package.module? l.view.params.maxWasmSize.toNat (l.view.account c.codeAt).code = _ at hwasm
    rw [hparams, hcode] at hwasm
    exact hwasm
  | system =>
    refine SystemContract.adds_call c hfits fun wasm hwasm => ?_
    have hcaches : SystemContract.Caches c w.ledger.view wasm := by
      obtain ⟨arg, harg, hmodule⟩ := hwasm.module
      change Package.module? l.view.params.maxWasmSize.toNat
        (l.view.account (Address.ofWord arg)).code = _ at hmodule
      rw [hparams, hcode] at hmodule
      exact ⟨hwasm.asks, (View.manages_of_slot hslot).mp hwasm.manager, arg, harg, hmodule⟩
    intro s a hversion hdebug ha
    exact ⟨.inr ⟨wasm, rfl, hcaches⟩, wasm, s, rfl, ha,
      hversion.trans (congrArg Params.version hparams), hdebug⟩

theorem adds_step (ht : t.Tends w) :
    (t.stock w).Adds w { w with cache := (t.step w).cache } := by
  have hturned : ∀ {w'}, (t.stock w).Adds w w' → (t.stock w).Adds w { w with cache := w'.cache } :=
    fun h => ⟨rfl, rfl, h.artifacts, h.recent⟩
  cases t with
  | call frame callee c =>
    cases frame with
    | none =>
      have hpaid : World.Paid false c w.ledger.view w.ledger.view := rfl
      exact hturned (adds_callee hpaid)
    | some pay => exact hturned (World.adds_frame fun _ hpaid => adds_callee hpaid)
  | deploy runner r =>
    refine hturned (Deploy.adds_deploy (fits_stock w _) ?_)
    exact fun hconstructs code wasm hbuild hmodule => ⟨hconstructs, code, wasm, rfl, hbuild, hmodule⟩
  | setParams p => exact hturned (World.adds_of_still World.still_onState w)
  | store slot v => exact hturned (World.adds_of_still World.still_onState w)
  | set config block transaction => exact Std.Refl.refl w
  | cache k =>
    obtain ⟨hartifacts, hrecent⟩ := ht k rfl
    exact ⟨rfl, rfl, fun p hp => .inl (hartifacts p hp), fun m hm => .inl (hrecent m hm)⟩

end Turn

/-! ### Runs -/

namespace World

variable {w : World} {ts : List Turn} {m : Word}

def Tended (w : World) (ts : List Turn) : Prop :=
  ∀ ts₁ t ts₂, ts = ts₁ ++ t :: ts₂ → t.Tends (w.after ts₁)

theorem Tended.init {t : Turn} (h : w.Tended (ts ++ [t])) : w.Tended ts := by
  rintro ts₁ t' ts₂ rfl
  exact h ts₁ t' (ts₂ ++ [t]) (by simp)

theorem Tended.last {t : Turn} (h : w.Tended (ts ++ [t])) : t.Tends (w.after ts) := h ts t [] rfl

/-- Nothing is kept, and no module was used. -/
structure Bare (w : World) : Prop where
  artifacts : w.cache.artifacts.entries = []
  recent : w.cache.recent.modules = []

/-- Whatever is kept was brought in by a turn. -/
theorem kept_after (hw : w.Bare) (hts : w.Tended ts) {p : Word × Artifact}
    (hp : p ∈ (w.after ts).cache.artifacts.entries) :
    ∃ ts₁ t ts₂, ts = ts₁ ++ t :: ts₂ ∧ t.Keeps (w.after ts₁) p.1 p.2 := by
  induction ts using List.reverseRecOn with
  | nil =>
    change p ∈ w.cache.artifacts.entries at hp
    rw [hw.artifacts] at hp
    cases hp
  | append_singleton ts t ih =>
    rw [after_snoc] at hp
    rcases (Turn.adds_step hts.last).artifacts p hp with hbefore | hkeeps
    · obtain ⟨ts₁, t', ts₂, rfl, hkeeps⟩ := ih hts.init hbefore
      exact ⟨ts₁, t', ts₂ ++ [t], by simp, hkeeps⟩
    · exact ⟨ts, t, [], rfl, hkeeps⟩

/-- Whatever is recent was used by a turn, in the block that it is recent in. -/
theorem recent_after (hw : w.Bare) (hts : w.Tended ts)
    (hm : m ∈ (w.after ts).cache.recent.modules) :
    ∃ ts₁ t ts₂, ts = ts₁ ++ t :: ts₂ ∧ t.Uses (w.after ts₁) m ∧
      (w.after ts).cache.recent.block = some (w.after ts₁).block.height := by
  induction ts using List.reverseRecOn with
  | nil =>
    change m ∈ w.cache.recent.modules at hm
    rw [hw.recent] at hm
    cases hm
  | append_singleton ts t ih =>
    rw [after_snoc] at hm ⊢
    rcases (Turn.adds_step hts.last).recent m hm with ⟨hbefore, hblock⟩ | ⟨huses, hblock⟩
    · obtain ⟨ts₁, t', ts₂, rfl, huses, hsame⟩ := ih hts.init hbefore
      exact ⟨ts₁, t', ts₂ ++ [t], by simp, huses, hblock.trans hsame⟩
    · exact ⟨ts, t, [], rfl, huses, hblock⟩

end World
end Inkwell
