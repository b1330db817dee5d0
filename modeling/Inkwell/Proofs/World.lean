import Inkwell.Proofs.Caches
import Inkwell.Proofs.Records
import Inkwell.Proofs.State
import Inkwell.Activation
set_option autoImplicit false

/-! Entering programs and keeping them: what lasts of it, and that a failure can be undone. Rules
say what may be written meanwhile and what the caches may hold. -/

namespace Inkwell

namespace Writes

/-- The slots of the pricer and those beside the data of a record are open. -/
structure Plain (W : Writes) (codeHash : Word) : Prop where
  pricer : ∀ slot ∈ Layout.pricerSlots, W.Open slot
  lifetime : W.Open (Layout.recordLifetime codeHash)
  fee : W.Open (Layout.recordFee codeHash)

/-- An artifact may be entered as the program of a code hash. -/
structure Enters (W : Writes) (codeHash : Word) (a : Artifact) : Prop extends Plain W codeHash where
  moduleHash : ∀ f, W.slot f (stateAccount, Layout.moduleHash codeHash) a.moduleHash
  data : ∀ (v : View) (p : Pricer) (r : Record), r.Describes a →
    W.slot ((v.setModuleHash codeHash a.moduleHash).setPricer p).slot
      (stateAccount, Layout.recordData codeHash) r.dataWord

/-- The record of a code hash may be renewed, also once data was priced. -/
structure Renews (W : Writes) (codeHash : Word) : Prop extends Plain W codeHash where
  data : ∀ (v : View) (r r' : Record), v.record? codeHash = some r → r.Continues r' →
    W.slot v.slot (stateAccount, Layout.recordData codeHash) r'.dataWord
  priced : ∀ (v : View) (p : Pricer) (r r' : Record), v.record? codeHash = some r →
    r.Continues r' → W.slot (v.setPricer p).slot (stateAccount, Layout.recordData codeHash) r'.dataWord

section
variable {W : Writes} (hW : ∀ f k w, W.slot f k w) (codeHash : Word)
include hW

theorem plain_of_open : W.Plain codeHash :=
  ⟨fun _ _ _ _ => hW _ _ _, fun _ _ => hW _ _ _, fun _ _ => hW _ _ _⟩

theorem enters_of_open (a : Artifact) : W.Enters codeHash a :=
  ⟨plain_of_open hW _, fun _ => hW _ _ _, fun _ _ _ _ => hW _ _ _⟩

theorem renews_of_open : W.Renews codeHash :=
  ⟨plain_of_open hW _, fun _ _ _ _ _ => hW _ _ _, fun _ _ _ _ _ _ => hW _ _ _⟩

end

theorem renews_any (codeHash : Word) : any.Renews codeHash :=
  renews_of_open (fun _ _ _ => trivial) _

/-- A module of code that may be there, by the hash of the code. -/
def Runs (W : Writes) (codeHash : Word) (wasm : Octets) : Prop :=
  ∃ code limit, W.code code ∧ codeHash = keccak code ∧
    Package.module? limit code = .ok (some wasm)

end Writes

/-- What may be written, and what the caches may hold. -/
structure Rules where
  writes : Writes
  cache : Cache → Prop
  none : writes.code []
  startBlock {c : Cache} (block : Nat) : cache c → cache (c.startBlock block)
  touchRecent {c : Cache} (block : Nat) (module : Word) (retain : Nat) : cache c →
    cache (c.touchRecent block module retain).2
  evict {c : Cache} (module : Word) : cache c → cache (c.evict module).2
  load {c : Cache} {codeHash : Word} {wasm : Octets} (s : CompileSettings) (keep : Bool) :
    writes.Runs codeHash wasm → cache c → cache (c.load compile wasm s keep).2
  enters {c : Cache} {codeHash : Word} {wasm : Octets} {s : CompileSettings} {keep : Bool}
    {l : Loaded} : writes.Runs codeHash wasm → cache c →
    (c.load compile wasm s keep).1 = .ok l → writes.Enters codeHash l.artifact
  renews {codeHash : Word} {wasm : Octets} : writes.Runs codeHash wasm → writes.Renews codeHash

/-- Nothing happens to a world but that something is fetched. -/
structure World.Reading (w w' : World) : Prop where
  ledger : w.ledger.Reads w'.ledger
  cache : w'.cache = w.cache
  block : w'.block = w.block
  config : w'.config = w.config

theorem World.Reading.trans {w w' w'' : World} (h : w.Reading w') (h' : w'.Reading w'') :
    w.Reading w'' :=
  ⟨h.ledger.trans h'.ledger, h'.cache.trans h.cache, h'.block.trans h.block,
    h'.config.trans h.config⟩

instance : IsPreorder World World.Reading where
  refl _ := ⟨.refl, rfl, rfl, rfl⟩
  trans _ _ _ := .trans

theorem World.Reading.view {w w' : World} (h : w.Reading w') : w'.ledger.view = w.ledger.view :=
  h.ledger.view

theorem World.Reading.account {w w' : World} (h : w.Reading w') :
    w'.ledger.account = w.ledger.account := h.ledger.account

theorem World.Reading.slot {w w' : World} (h : w.Reading w') : w'.ledger.slot = w.ledger.slot :=
  h.ledger.slot

theorem World.Reading.now {w w' : World} (h : w.Reading w') : w'.now = w.now :=
  congrArg Block.time h.block

namespace Rules

def any : Rules where
  writes := .any
  cache _ := True
  none := trivial
  startBlock _ _ := trivial
  touchRecent _ _ _ _ := trivial
  evict _ _ := trivial
  load _ _ _ _ := trivial
  enters _ _ _ := Writes.enters_of_open (fun _ _ _ => trivial) _ _
  renews _ := Writes.renews_any _

/-- A world in which the rules were kept so far. -/
structure Sound (R : Rules) (w : World) : Prop where
  cache : R.cache w.cache
  coded : w.ledger.Coded R.writes

/-- The rules are kept on the way from one world to another, if they were kept before. -/
structure Follows (R : Rules) (w w' : World) : Prop where
  cache : R.Sound w → R.cache w'.cache
  ledger : R.Sound w → w.ledger.Reaches R.writes w'.ledger

variable {R : Rules} {w w' : World} {α ε : Type}

theorem sound_any (w : World) : any.Sound w := ⟨trivial, fun _ => trivial⟩

theorem Follows.sound (h : R.Follows w w') (hw : R.Sound w) : R.Sound w' :=
  ⟨h.cache hw, (h.ledger hw).coded R.none hw.coded⟩

theorem Follows.trans {w'' : World} (h : R.Follows w w') (h' : R.Follows w' w'') :
    R.Follows w w'' :=
  ⟨fun hw => h'.cache (h.sound hw), fun hw => (h.ledger hw).trans (h'.ledger (h.sound hw))⟩

instance : IsPreorder World R.Follows where
  refl _ := ⟨fun hw => hw.cache, fun _ => .refl⟩
  trans _ _ _ := .trans

theorem Follows.revert (h : R.Follows w w') : R.Follows w (w'.revert w.ledger.checkpoint) :=
  ⟨h.cache, fun hw => .undone .refl (h.ledger hw)⟩

/-- Nothing is promised of a world in which the rules were not kept. -/
theorem follows_of_sound (h : R.Sound w → R.Follows w w') : R.Follows w w' :=
  ⟨fun hw => (h hw).cache hw, fun hw => (h hw).ledger hw⟩

theorem follows_of_reading (h : w.Reading w') : R.Follows w w' :=
  ⟨fun hw => h.cache ▸ hw.cache, fun _ => h.ledger.reaches⟩

theorem follows_ledger {l : Ledger} (h : R.Sound w → w.ledger.Reaches R.writes l) :
    R.Follows w { w with ledger := l } := ⟨fun hw => hw.cache, h⟩

theorem follows_cache {c : Cache} (h : R.Sound w → R.cache c) :
    R.Follows w { w with cache := c } := ⟨h, fun _ => .refl⟩

end Rules

namespace World

variable {R : Rules} {w w' : World} {α ε : Type} {codeHash fee : Word} {wasm : Octets}
  {payer : Address}

theorem outcome_onState (frozen : Bool) (m : Access α) (w : World) :
    outcome (onState frozen m) w = ((outcome m { ledger := w.ledger, frozen }).1,
      { w with ledger := (outcome m { ledger := w.ledger, frozen }).2.ledger }) :=
  outcome_part _ _ w

theorem outcome_load (wasm : Octets) (s : CompileSettings) (keep : Bool) (w : World) :
    outcome (load wasm s keep) w = ((w.cache.load compile wasm s keep).1.mapError .compile,
      { w with cache := (w.cache.load compile wasm s keep).2 }) :=
  outcome_part _ _ w

theorem gives_onState {frozen : Bool} {m : Access α} {a : α} (h : Gives (onState frozen m) w a w') :
    ∃ d, Gives m { ledger := w.ledger, frozen } a d ∧ w' = { w with ledger := d.ledger } := by
  unfold Gives at h
  rw [outcome_onState, Prod.mk.injEq] at h
  exact ⟨_, Prod.ext h.1 rfl, h.2.symm⟩

theorem onState_of_gives {m : Access α} {x : α} {e : Desk} {frozen : Bool}
    (h : Gives m { ledger := w.ledger, frozen } x e) :
    Gives (onState frozen m) w x { w with ledger := e.ledger } := by
  unfold Gives at h ⊢
  rw [outcome_onState, h]

theorem gives_load {s : CompileSettings} {keep : Bool} {l : Loaded}
    (h : Gives (load wasm s keep) w l w') : (w.cache.load compile wasm s keep).1 = .ok l ∧
      w' = { w with cache := (w.cache.load compile wasm s keep).2 } := by
  unfold Gives at h
  rw [outcome_load, Prod.mk.injEq, mapError_eq_ok] at h
  exact ⟨h.1, h.2.symm⟩

theorem keepsFrom_onState {frozen : Bool} {m : Access α}
    (h : R.Sound w → KeepsFrom (Desk.Over (Ledger.Reaches R.writes)) m
      { ledger := w.ledger, frozen }) : KeepsFrom R.Follows (onState frozen m) w := by
  unfold KeepsFrom
  rw [outcome_onState]
  exact Rules.follows_ledger h

theorem keeps_onState {frozen : Bool} {m : Access α}
    (h : Keeps (Desk.Over (Ledger.Reaches R.writes)) m) : Keeps R.Follows (onState frozen m) :=
  fun _ => keepsFrom_onState fun _ => h _

/-- Reading changes how much of the ledger is held, and nothing else of a world. -/
theorem outcome_reading {m : Access α} (hm : Keeps (Desk.Over Ledger.Reads) m) (frozen : Bool)
    (w : World) : ∃ l, w.ledger.Reads l ∧ outcome (onState frozen m) w =
      ((outcome m { ledger := w.ledger, frozen }).1, { w with ledger := l }) :=
  ⟨_, hm { ledger := w.ledger, frozen }, outcome_onState frozen m w⟩

theorem reading_onState {frozen : Bool} {m : Access α} (h : Keeps (Desk.Over Ledger.Reads) m) :
    Keeps Reading (onState frozen m) := by
  intro w
  unfold KeepsFrom
  rw [outcome_onState]
  exact ⟨h { ledger := w.ledger, frozen }, rfl, rfl, rfl⟩

theorem keeps_reading {frozen : Bool} {m : Access α} (h : Keeps (Desk.Over Ledger.Reads) m) :
    Keeps R.Follows (onState frozen m) :=
  (reading_onState h).mono fun _ _ => Rules.follows_of_reading

theorem reading_onLedger {m : LedgerM α} (h : Keeps Ledger.Reads m) :
    Keeps Reading (onLedger m) := reading_onState (Access.keeps_onLedger h)

theorem keeps_onLedger {m : LedgerM α} (h : Keeps (Ledger.Reaches R.writes) m) :
    Keeps R.Follows (onLedger m) := keeps_onState (Access.keeps_onLedger h)

theorem gives_onLedger {m : LedgerM α} {a : α} (h : Gives (onLedger m) w a w') :
    ∃ l, Gives m w.ledger a l ∧ w' = { w with ledger := l } := by
  obtain ⟨d, hd, rfl⟩ := gives_onState h
  obtain ⟨l, hl, rfl⟩ := Access.gives_onLedger hd
  exact ⟨l, hl, rfl⟩

theorem keeps_load {s : CompileSettings} {keep : Bool} (h : R.writes.Runs codeHash wasm) :
    Keeps R.Follows (load wasm s keep) := by
  intro w
  unfold KeepsFrom
  rw [outcome_load]
  exact Rules.follows_cache fun hw => R.load s keep h hw.cache

theorem sameLedger_load {s : CompileSettings} {keep : Bool} :
    Keeps (InvImage Eq World.ledger) (load wasm s keep) := by
  intro w
  unfold KeepsFrom
  rw [outcome_load]
  exact rfl

/-- What a failure undoes is the ledger's. -/
theorem keepsFrom_atomically_of_revert {T : World → World → Prop} {m : ExceptT ε (StateM World) α}
    (h : KeepsFrom T m w) (hrevert : ∀ t, T w t → T w (t.revert w.ledger.checkpoint)) :
    KeepsFrom T (atomically m) w := by
  unfold KeepsFrom at h ⊢
  unfold atomically
  rw [outcome_bind, outcome_get]
  dsimp only
  rw [outcome_tryCatch]
  rcases hm : outcome m w with ⟨r, t⟩
  rw [hm] at h
  cases r with
  | ok a => exact h
  | error e => exact hrevert t h

theorem keepsFrom_atomically {m : ExceptT ε (StateM World) α} (h : KeepsFrom R.Follows m w) :
    KeepsFrom R.Follows (atomically m) w := keepsFrom_atomically_of_revert h fun _ h => h.revert

theorem keeps_atomically {m : ExceptT ε (StateM World) α} (h : Keeps R.Follows m) :
    Keeps R.Follows (atomically m) := fun w => keepsFrom_atomically (h w)

theorem gives_atomically {m : ExceptT ε (StateM World) α} {a : α}
    (h : Gives (atomically m) w a w') : Gives m w a w' := by
  obtain ⟨w₀, t, hget, h⟩ := gives_bind.mp h
  obtain ⟨rfl, rfl⟩ := gives_get.mp hget
  unfold Gives at h ⊢
  rw [outcome_tryCatch] at h
  rcases hm : outcome m w with ⟨r, t⟩
  rw [hm] at h
  cases r with
  | ok b => exact h
  | error e => cases h

/-! ### Activation -/

theorem describes_ofArtifact (a : Artifact) (p : Params) (b : Block) (pinned : Bool) (fee : Word) :
    (Record.ofArtifact a p b pinned fee).Describes a := ⟨rfl, rfl, rfl⟩

def enter (codeHash : Word) (a : Artifact) (p : Params) (b : Block) (pinned : Bool) :
    Access Activation := do
  State.setModuleHash codeHash a.moduleHash
  let fee := BitVec.ofNat 256 (← State.priceData a.estimate.asmSize b.time)
  let record := Record.ofArtifact a p b pinned fee
  State.setRecord codeHash record
  pure ⟨record.version, fee, a.moduleHash, record, a⟩

theorem activate_eq (codeHash : Word) (wasm : Octets) (pinned : Bool) :
    activate codeHash wasm pinned = (do
      let p ← onState false State.params
      let w ← get
      let l ← load wasm (w.settings p) w.config.autoCache
      onState false (enter codeHash l.artifact p w.block pinned)) := rfl

/-- What is written last has to be allowed in the slots as they are then. -/
theorem keepsFrom_enter {W : Writes} {a : Artifact} (hW : W.Enters codeHash a) (p : Params)
    (b : Block) (pinned : Bool) (d : Desk) :
    KeepsFrom (Desk.Over (Ledger.Reaches W)) (enter codeHash a p b pinned) d := by
  refine (State.keeps_store hW.moduleHash d).bind fun u d₁ h₁ => ?_
  refine (State.keeps_priceData hW.pricer d₁).bind fun n d₂ h₂ => ?_
  have hview := (State.gives_priceData h₂).2
  rw [State.gives_setModuleHash h₁] at hview
  have hslot := congrArg View.slot hview
  refine (State.keepsFrom_setRecord ?_ hW.lifetime hW.fee).bind fun _ _ _ => keepsFrom_pure _ _
  change W.slot d₂.ledger.view.slot _ _
  rw [hslot]
  exact hW.data _ _ _ (describes_ofArtifact _ _ _ _ _)

theorem keeps_activate (hrun : R.writes.Runs codeHash wasm) (pinned : Bool) :
    Keeps R.Follows (activate codeHash wasm pinned) := by
  intro w
  rw [activate_eq]
  refine (keeps_reading State.keeps_params w).bind fun p w₁ _ => ?_
  refine (keeps_get w₁).bind fun w₁' t hget => ?_
  obtain ⟨rfl, rfl⟩ := gives_get.mp hget
  -- what may be written depends on the artifact, and that on the caches
  refine Rules.follows_of_sound fun hsound => ?_
  refine (keeps_load hrun w₁).bind fun l w₂ hload => ?_
  have henters := R.enters hrun hsound.cache (gives_load hload).1
  exact keepsFrom_onState fun _ => keepsFrom_enter henters p w₁.block pinned _

end World

namespace View

def activated (v : View) (codeHash : Word) (b : Block) (a : Activation) : View :=
  let u := v.setModuleHash codeHash a.moduleHash
  (u.setPricer (u.pricer.update a.artifact.estimate.asmSize (UInt64.ofNat b.time)).1).setRecord
    codeHash a.record

/-- What an activation answers, given the artifact. -/
def activation (v : View) (codeHash : Word) (p : Params) (b : Block) (pinned : Bool)
    (a : Artifact) : Activation :=
  let u := v.setModuleHash codeHash a.moduleHash
  let fee := BitVec.ofNat 256 (u.pricer.update a.estimate.asmSize (UInt64.ofNat b.time)).2
  ⟨p.version, fee, a.moduleHash, .ofArtifact a p b pinned fee, a⟩

section
variable {u v : View} (hslot : u.slot = v.slot) (codeHash : Word)
include hslot

theorem activation_of_slot (p : Params) (b : Block) (pinned : Bool) (a : Artifact) :
    u.activation codeHash p b pinned a = v.activation codeHash p b pinned a := by
  unfold activation
  dsimp only
  rw [pricer_of_slot (slot_setModuleHash_congr hslot codeHash a.moduleHash)]

theorem slot_activated_congr (b : Block) (a : Activation) :
    (u.activated codeHash b a).slot = (v.activated codeHash b a).slot := by
  have hmodule := slot_setModuleHash_congr hslot codeHash a.moduleHash
  unfold activated
  dsimp only
  rw [pricer_of_slot hmodule]
  exact slot_setRecord_congr (slot_setPricer_congr hmodule _) _ _

end

end View

namespace World

variable {R : Rules} {w w' : World} {α ε : Type} {codeHash fee : Word} {wasm : Octets}
  {payer : Address}

theorem gives_enter {a : Artifact} {p : Params} {b : Block} {pinned : Bool} {x : Activation}
    {d e : Desk} (h : Gives (enter codeHash a p b pinned) d x e) :
    x = d.ledger.view.activation codeHash p b pinned a ∧
      e.ledger.view = d.ledger.view.activated codeHash b x := by
  obtain ⟨u₁, d₁, h₁, h⟩ := gives_bind.mp h
  obtain ⟨n, d₂, h₂, h⟩ := gives_bind.mp h
  obtain ⟨u₃, d₃, h₃, h⟩ := gives_bind.mp h
  obtain ⟨rfl, rfl⟩ := gives_pure.mp h
  obtain ⟨hfee, hpriced⟩ := State.gives_priceData h₂
  rw [State.gives_setModuleHash h₁] at hfee hpriced
  rw [hfee]
  refine ⟨rfl, ?_⟩
  rw [State.gives_setRecord h₃, hpriced, hfee]
  rfl

/-- An activation writes the module hash, the pricer and the record, and nothing else. -/
theorem gives_activate {pinned : Bool} {a : Activation}
    (h : Gives (activate codeHash wasm pinned) w a w') : ∃ l,
      (w.cache.load compile wasm (w.settings w.ledger.view.params) w.config.autoCache).1 = .ok l ∧
      a = w.ledger.view.activation codeHash w.ledger.view.params w.block pinned l.artifact ∧
      w' = { w with
        ledger := w'.ledger
        cache := (w.cache.load compile wasm (w.settings w.ledger.view.params)
          w.config.autoCache).2 } ∧
      w'.ledger.view = w.ledger.view.activated codeHash w.block a := by
  rw [activate_eq] at h
  obtain ⟨p, w₁, hp, h⟩ := gives_bind.mp h
  obtain ⟨d₁, hd₁, rfl⟩ := gives_onState hp
  have hparams : p = w.ledger.view.params := State.gives_params hd₁
  have hview : d₁.ledger.view = w.ledger.view := State.view_of_reads State.keeps_params hd₁
  obtain ⟨w₁', t, hget, h⟩ := gives_bind.mp h
  obtain ⟨rfl, rfl⟩ := gives_get.mp hget
  obtain ⟨l, w₂, hload, h⟩ := gives_bind.mp h
  obtain ⟨hl, rfl⟩ := gives_load hload
  obtain ⟨d₂, henter, rfl⟩ := gives_onState h
  obtain ⟨ha, hactivated⟩ := gives_enter henter
  dsimp only at hl ha hactivated
  rw [hview] at ha hactivated
  subst hparams
  exact ⟨l, hl, ha, rfl, hactivated⟩

/-- One activation of a code hash as things stand in a world, what it answers and leaves. -/
def Activates (w : World) (codeHash : Word) (wasm : Octets) (a : Activation) (v : View) : Prop :=
  ∃ w₁ w₂, w₁.ledger.view = w.ledger.view ∧ w₁.block = w.block ∧ w₁.config = w.config ∧
    Gives (activate codeHash wasm (w.ledger.view.pinned codeHash)) w₁ a w₂ ∧ v = w₂.ledger.view

section
variable {a : Activation} {v : View} (h : w.Activates codeHash wasm a v)
include h

theorem Activates.view : v = w.ledger.view.activated codeHash w.block a := by
  obtain ⟨w₁, w₂, hview, hblock, -, hgives, rfl⟩ := h
  obtain ⟨-, -, -, -, hactivated⟩ := gives_activate hgives
  rw [hactivated, hview, hblock]

theorem Activates.account : v.account = w.ledger.account := by
  rw [h.view]
  rfl

theorem Activates.activation : ∃ artifact, a = w.ledger.view.activation codeHash
    w.ledger.view.params w.block (w.ledger.view.pinned codeHash) artifact := by
  obtain ⟨w₁, w₂, hview, hblock, -, hgives, -⟩ := h
  obtain ⟨l, -, ha, -⟩ := gives_activate hgives
  rw [hview, hblock] at ha
  exact ⟨l.artifact, ha⟩

end

/-- What the caches give for a module as things stand: an artifact that they keep of it, or one that
is compiled now. -/
def Loads (w : World) (wasm : Octets) (a : Artifact) : Prop := ∃ l, l.artifact = a ∧
  (w.cache.load compile wasm (w.settings w.ledger.view.params) w.config.autoCache).1 = .ok l

theorem Loads.compiled {a : Artifact} {M : Octets → Prop} (h : w.Loads wasm a)
    (hcache : w.cache.Genuine M) : ∃ wasm' s, compile wasm' s = .ok a := by
  obtain ⟨l, rfl, hl⟩ := h
  rw [Cache.load_eq] at hl
  cases hkept : (w.cache.kept? (keccak wasm)).filter
      (·.suits (w.settings w.ledger.view.params)) with
  | some a =>
    rw [hkept] at hl
    obtain ⟨wasm', s, -, -, hcompile⟩ := hcache.kept (Option.filter_eq_some_iff.mp hkept).1
    rw [← Except.ok.inj hl]
    exact ⟨wasm', s, hcompile⟩
  | none =>
    rw [hkept] at hl
    cases hcompile : compile wasm (w.settings w.ledger.view.params) with
    | error e =>
      rw [hcompile] at hl
      cases hl
    | ok a =>
      rw [hcompile] at hl
      rw [← Except.ok.inj hl]
      exact ⟨wasm, _, hcompile⟩

/-- An activation enters the artifact that the caches give. -/
theorem loads_of_activate {w₁ w₂ : World} {pinned : Bool} {a : Activation}
    (hview : w₁.ledger.view = w.ledger.view) (hconfig : w₁.config = w.config)
    (hkept : w₁.cache.artifacts = w.cache.artifacts)
    (h : Gives (activate codeHash wasm pinned) w₁ a w₂) : w.Loads wasm a.artifact := by
  obtain ⟨l, hl, rfl, -⟩ := gives_activate h
  refine ⟨l, rfl, ?_⟩
  unfold settings at hl ⊢
  rwa [hview, hconfig, Cache.load_of_artifacts hkept] at hl

/-! ### Fees -/

theorem keeps_chargeFee : Keeps R.Follows (chargeFee payer fee) := by
  refine keeps_ite (fun _ => keeps_pure _) fun _ => ?_
  refine (keeps_onLedger (Ledger.keeps_hold.mono fun _ _ => Ledger.Reads.reaches)).bind fun h => ?_
  refine keeps_guard ?_
  refine (keeps_reading State.keeps_feeAccount).bind fun receiver => ?_
  refine (keeps_onLedger Ledger.keeps_transfer).bind fun r => ?_
  cases r with
  | some e => exact keeps_throw _
  | none => exact keeps_pure _

theorem gives_chargeFee {u : Unit} (h : Gives (chargeFee payer fee) w u w') :
    w' = { w with ledger := w'.ledger } ∧
      View.Pays payer w.ledger.view.feeAccount fee w.ledger.view w'.ledger.view := by
  unfold chargeFee at h
  by_cases hzero : fee = 0
  · rw [if_pos hzero] at h
    obtain ⟨-, rfl⟩ := gives_pure.mp h
    exact ⟨rfl, hzero ▸ View.pays_zero _ _ _⟩
  rw [if_neg hzero] at h
  obtain ⟨x, w₁, hhold, h⟩ := gives_bind.mp h
  obtain ⟨l₁, h₁, rfl⟩ := gives_onLedger hhold
  have hv₁ : l₁.view = w.ledger.view := (Ledger.keeps_hold.of_gives h₁).view
  obtain ⟨-, h⟩ := gives_guard.mp h
  obtain ⟨receiver, w₂, hreceiver, h⟩ := gives_bind.mp h
  obtain ⟨d₂, h₂, rfl⟩ := gives_onState hreceiver
  have hv₂ : d₂.ledger.view = l₁.view := State.view_of_reads State.keeps_feeAccount h₂
  have haccount : receiver = l₁.view.feeAccount := State.gives_feeAccount h₂
  obtain ⟨r, w₃, htransfer, h⟩ := gives_bind.mp h
  obtain ⟨l₃, h₃, rfl⟩ := gives_onLedger htransfer
  cases r with
  | some e => exact absurd h not_gives_throw
  | none =>
    obtain ⟨-, rfl⟩ := gives_pure.mp h
    have hpaid := Ledger.gives_transfer h₃
    dsimp only at hpaid
    rw [hv₂, haccount, hv₁] at hpaid
    exact ⟨rfl, hpaid⟩

theorem keeps_activateAndCharge (hrun : R.writes.Runs codeHash wasm) (pinned : Bool) :
    Keeps R.Follows (activateAndCharge codeHash wasm pinned payer) :=
  keeps_atomically ((keeps_activate hrun pinned).bind fun _ => keeps_chargeFee.bind fun _ =>
    keeps_pure _)

theorem gives_activateAndCharge {pinned : Bool} {a : Activation}
    (h : Gives (activateAndCharge codeHash wasm pinned payer) w a w') :
    ∃ w₁, Gives (activate codeHash wasm pinned) w a w₁ ∧
      Gives (chargeFee payer a.fee) w₁ () w' := by
  obtain ⟨a', w₁, hactivate, h⟩ := gives_bind.mp (gives_atomically h)
  obtain ⟨u, w₂, hcharge, h⟩ := gives_bind.mp h
  obtain ⟨rfl, rfl⟩ := gives_pure.mp h
  exact ⟨w₁, hactivate, hcharge⟩

theorem continues_keptAlive (r : Record) (p : Params) (now : Nat) (fee : Word) :
    r.Continues (r.keptAlive p now fee) := ⟨rfl, rfl, rfl, rfl, rfl⟩

theorem keeps_keepalive (hW : R.writes.Renews codeHash) : Keeps R.Follows (keepalive codeHash) := by
  refine keeps_get.bind fun w => keeps_onState fun d => ?_
  refine (State.keeps_reads State.keeps_params d).bind fun p d₁ _ => ?_
  have hactive : Keeps (Desk.Over (Ledger.Reaches R.writes))
      (tryCatch (State.activeRecord p w.now codeHash) fun e => throw (inactive e)) :=
    (State.keeps_reads State.keeps_activeRecord).tryCatch fun _ => keeps_throw _
  refine (hactive d₁).bind fun r d₂ hr => ?_
  have hr' := gives_rethrow.mp hr
  have hv₂ : d₂.ledger.view = d₁.ledger.view := State.view_of_reads State.keeps_activeRecord hr'
  have hrecord := (State.gives_activeRecord hr').1
  refine (State.keeps_priceData hW.pricer d₂).bind fun n d₃ h₃ => ?_
  have hslot := congrArg View.slot (State.gives_priceData h₃).2
  refine (State.keepsFrom_setRecord ?_ hW.lifetime hW.fee).bind fun _ _ _ => keepsFrom_pure _ _
  change R.writes.slot d₃.ledger.view.slot _ _
  rw [hslot, hv₂]
  exact hW.priced _ _ _ _ hrecord (continues_keptAlive _ _ _ _)

/-! ### What stays beside -/

structure Within (w w' : World) : Prop where
  config : w'.config = w.config
  block : w'.block = w.block
  transaction : w'.transaction = w.transaction
  starts : w'.starts = w.starts

instance : IsPreorder World Within where
  refl _ := ⟨rfl, rfl, rfl, rfl⟩
  trans _ _ _ h h' := ⟨h'.config.trans h.config, h'.block.trans h.block,
    h'.transaction.trans h.transaction, h'.starts.trans h.starts⟩

theorem within_onState {frozen : Bool} {m : Access α} : Keeps Within (onState frozen m) := by
  intro w
  unfold KeepsFrom
  rw [outcome_onState]
  exact ⟨rfl, rfl, rfl, rfl⟩

theorem within_load {s : CompileSettings} {keep : Bool} : Keeps Within (load wasm s keep) := by
  intro w
  unfold KeepsFrom
  rw [outcome_load]
  exact ⟨rfl, rfl, rfl, rfl⟩

theorem within_atomically {m : ExceptT ε (StateM World) α} (h : Keeps Within m) :
    Keeps Within (atomically m) := fun w => keepsFrom_atomically_of_revert (h w) fun _ h =>
  ⟨h.config, h.block, h.transaction, h.starts⟩

theorem within_activate {pinned : Bool} : Keeps Within (activate codeHash wasm pinned) :=
  within_onState.bind fun _ => keeps_get.bind fun _ => within_load.bind fun _ => within_onState

theorem within_chargeFee : Keeps Within (chargeFee payer fee) := by
  have hledger : ∀ {β : Type} (m : LedgerM β), Keeps Within (onLedger m) := fun _ => within_onState
  refine keeps_ite (fun _ => keeps_pure _) fun _ => (hledger _).bind fun h => keeps_guard ?_
  refine within_onState.bind fun receiver => (hledger _).bind fun r => ?_
  cases r with
  | some e => exact keeps_throw _
  | none => exact keeps_pure _

theorem within_activateAndCharge {pinned : Bool} :
    Keeps Within (activateAndCharge codeHash wasm pinned payer) :=
  within_atomically (within_activate.bind fun _ => within_chargeFee.bind fun _ => keeps_pure _)

end World
end Inkwell
