import Inkwell.Proofs.Answers
import Inkwell.Proofs.Turns
set_option autoImplicit false

/-! When a program is active. Activating one finds it active just when calls do, unless programs are
of no version; and what was activated is active from then on. -/

namespace Inkwell

theorem Record.live_ofArtifact {a : Artifact} {p : Params} {b : Block} {pinned : Bool}
    {fee : Word} : (ofArtifact a p b pinned fee).isExpired b.time = false := by
  have hnow : b.time ≤ 2 ^ 64 - 1 := clamp64_le _
  have hdeadline : deadline b.time p.expiryDays =
      min (b.time + p.expiryDays.toNat * secondsPerDay) (2 ^ 64 - 1) := rfl
  have hread : (UInt64.ofNat (deadline b.time p.expiryDays)).toNat =
      deadline b.time p.expiryDays := by
    refine UInt64.toNat_ofNat_of_lt' ?_
    change _ < 2 ^ 64
    omega
  change decide ((UInt64.ofNat (deadline b.time p.expiryDays)).toNat < b.time) = false
  rw [hread, decide_eq_false_iff_not]
  omega

theorem View.state_of_empty {l : Ledger} {slot : Word} (h : l.slots = .empty) :
    l.view.state slot = l.store.slot (stateAccount, slot) := by
  unfold View.state Ledger.view Ledger.slot
  dsimp only
  rw [h]
  rfl

namespace View

theorem version_params (v : View) :
    v.params.version = (Params.ofWord (v.state Layout.paramsWord)).version := by
  unfold params
  dsimp only
  split <;> rfl

end View

namespace World

open State

variable {hash : Word → Prop} {w u : World} {α : Type} {h : Word} {r : Record} {a : Activation}

theorem gives_of_answers {m : Access α} {n : Nat} {x : α} (hm : Access.Answers m w.ledger n x)
    (hreads : Keeps (Desk.Over Ledger.Reads) m) (frozen : Bool) :
    ∃ l, w.ledger.Reads l ∧ Gives (onState frozen m) w x { w with ledger := l } := by
  obtain ⟨e, he, -⟩ := hm { ledger := w.ledger, frozen } (.refl _) (by simp)
  refine ⟨e.ledger, hreads.of_gives he, ?_⟩
  unfold Gives at he ⊢
  rw [outcome_onState, he]

theorem onLedger_of_gives {m : LedgerM α} {x : α} {l : Ledger} (h : Gives m w.ledger x l) :
    Gives (onLedger m) w x { w with ledger := l } := by
  unfold Gives onLedger at *
  rw [outcome_onState, Access.outcome_onLedger, h]
  rfl

theorem code_and_params {a : Address} (hloadable : w.ledger.Loadable a)
    (hknown : w.ledger.KnowsParams) : ∃ l₁ l₂, w.ledger.Reads l₂ ∧
      Gives (onLedger (Ledger.holdCode a)) w (w.ledger.account a).code { w with ledger := l₁ } ∧
      Gives (onState true State.params) { w with ledger := l₁ } w.ledger.view.params
        { w with ledger := l₂ } := by
  obtain ⟨code, l₁, hcode⟩ := Ledger.holdCode_of_loadable hloadable
  obtain rfl : code = (w.ledger.account a).code := Ledger.gives_holdCode hcode
  have hreads₁ : w.ledger.Reads l₁ := Ledger.keeps_holdCode.of_gives hcode
  obtain ⟨l₂, hreads₂, hp⟩ := gives_of_answers (w := { w with ledger := l₁ })
    (State.answers_params (hknown.of_tells hreads₁.tells)) State.keeps_params true
  rw [hreads₁.view] at hp
  exact ⟨l₁, l₂, hreads₁.trans hreads₂, onLedger_of_gives hcode, hp⟩

theorem active_of_current (hparams : w.ledger.KnowsParams) (hrecord : w.ledger.KnowsRecord h)
    (hcurrent : w.ledger.view.Current w.now h r) (hversion : r.version ≠ 0) : w.Active h := by
  obtain ⟨l, hreads, hp⟩ := gives_of_answers (answers_params hparams) keeps_params true
  have hr : l.view.record? h = some r := hreads.view.symm ▸ hcurrent.record
  obtain ⟨m, -, hm⟩ := gives_of_answers (w := { w with ledger := l })
    (answers_activeRecord (hrecord.of_tells hreads.tells) hr hversion hcurrent.version hcurrent.live)
    keeps_activeRecord true
  exact ⟨_, _, r, _, hp, hm⟩

theorem known_of_active (hactive : w.Active h) :
    w.ledger.KnowsParams ∧ w.ledger.KnowsRecord h ∧ ∃ r, w.ledger.view.record? h = some r := by
  obtain ⟨p, w₁, r, w₂, hp, hr⟩ := hactive
  have hreads₁ : w.ledger.Reads w₁.ledger := ((reading_onState keeps_params).of_gives hp).ledger
  have hreads₂ : w₁.ledger.Reads w₂.ledger := ((reading_onState keeps_activeRecord).of_gives hr).ledger
  obtain ⟨d, hd, rfl⟩ := gives_onState hp
  obtain ⟨e, he, rfl⟩ := gives_onState hr
  obtain ⟨hrecord, -⟩ := gives_activeRecord he
  obtain ⟨r', d', hr', hrest⟩ := gives_bind.mp he
  cases r' with
  | none => exact absurd hrest not_gives_throw
  | some r' =>
    have hparams : d.ledger.KnowsParams := known_of_params hd
    have hknown : d'.ledger.KnowsRecord h := known_of_record? hr'
    have hreads' := keeps_record?.of_gives hr'
    change d.ledger.Reads d'.ledger at hreads'
    refine ⟨hparams.of_tells hreads₁.tells.symm,
      hknown.of_tells (hreads₁.tells.trans hreads'.tells).symm, r, ?_⟩
    rw [← hreads₁.view]
    exact hrecord

theorem Active.of_ledger (hactive : w.Active h) (hledger : u.ledger = w.ledger)
    (hnow : u.now = w.now) : u.Active h := by
  obtain ⟨p, w₁, r, w₂, hp, hr⟩ := hactive
  obtain ⟨d, hd, rfl⟩ := gives_onState hp
  obtain ⟨e, he, rfl⟩ := gives_onState hr
  rw [← hledger] at hd
  change Gives (activeRecord p w.now h) _ r e at he
  rw [← hnow] at he
  exact ⟨p, _, r, _, onState_of_gives hd, onState_of_gives (w := { u with ledger := d.ledger }) he⟩

theorem known_of_enter {p : Params} {b : Block} {pinned : Bool} {artifact : Artifact} {d e : Desk}
    (hg : Gives (enter h artifact p b pinned) d a e) :
    d.ledger.Reaches .any e.ledger ∧ e.ledger.KnowsRecord h := by
  have hopen : Writes.any.Enters h artifact := Writes.enters_of_open (fun _ _ _ => trivial) _ _
  refine ⟨(keepsFrom_enter hopen p b pinned d).of_gives hg, ?_⟩
  obtain ⟨u₁, d₁, -, hg⟩ := gives_bind.mp hg
  obtain ⟨n, d₂, -, hg⟩ := gives_bind.mp hg
  obtain ⟨u₃, d₃, hset, hg⟩ := gives_bind.mp hg
  obtain ⟨-, rfl⟩ := gives_pure.mp hg
  exact known_of_setRecord hset

theorem known_of_activate {wasm : Octets} {pinned : Bool}
    (hg : Gives (activate h wasm pinned) w a u) : u.ledger.KnowsParams ∧ u.ledger.KnowsRecord h := by
  rw [activate_eq] at hg
  obtain ⟨p, w₁, hp, hg⟩ := gives_bind.mp hg
  obtain ⟨w₁', t, hget, hg⟩ := gives_bind.mp hg
  obtain ⟨rfl, rfl⟩ := gives_get.mp hget
  obtain ⟨l, w₂, hload, hg⟩ := gives_bind.mp hg
  obtain ⟨d₁, hd₁, rfl⟩ := gives_onState hp
  obtain ⟨-, rfl⟩ := gives_load hload
  obtain ⟨d₂, henter, rfl⟩ := gives_onState hg
  obtain ⟨hreaches, hrecord⟩ := known_of_enter henter
  exact ⟨(known_of_params hd₁).reaches hreaches, hrecord⟩

theorem current_of_activate (hA : Layout.Apart hash) (hh : hash h) {wasm : Octets} {pinned : Bool}
    (hversion : w.ledger.view.params.version ≠ 0) (hg : Gives (activate h wasm pinned) w a u) :
    u.ledger.view.Current w.now h a.record.kept ∧ a.record.kept.version ≠ 0 := by
  obtain ⟨l, -, ha, -, hview⟩ := gives_activate hg
  have hrecord : a.record.version = w.ledger.view.params.version := by
    rw [ha]
    rfl
  have hword : a.record.dataWord ≠ 0 := fun hzero =>
    hversion (hrecord.symm.trans (Record.blank_of_dataWord hzero).1)
  refine ⟨⟨?_, ?_, ?_⟩, fun hzero => hversion (hrecord.symm.trans hzero)⟩
  · rw [hview, View.record?_activated_self hA hh, if_neg hword]
  · rw [hview, View.params_activated hA hh]
    exact hrecord
  · change a.record.isExpired w.block.time = false
    rw [ha]
    exact Record.live_ofArtifact

/-- Once a program was activated it stays active for the time being, if nothing else is written. -/
theorem active_of_activate (hA : Layout.Apart hash) (hh : hash h) {wasm : Octets} {pinned : Bool}
    (hversion : w.ledger.view.params.version ≠ 0) (hg : Gives (activate h wasm pinned) w a u)
    {t : World} (hreaches : u.ledger.Reaches .any t.ledger)
    (hslot : t.ledger.view.slot = u.ledger.view.slot) (hnow : t.now = w.now) : t.Active h := by
  obtain ⟨hparams, hrecord⟩ := known_of_activate hg
  obtain ⟨hcurrent, hactivated⟩ := current_of_activate hA hh hversion hg
  rw [← hnow] at hcurrent
  exact active_of_current (hparams.reaches hreaches) (hrecord.reaches hreaches)
    (hcurrent.of_slot hslot) hactivated

end World

namespace Call

variable {hash : Word → Prop} {w w' : World} {c : Call} {runner : Runner} {r : CallResult}

theorem active_prepare {x : Prepared} {l : Ledger} {k : Cache} {wasm : Octets} {h : Word} {t : World}
    (hA : Layout.Apart hash) (hh : hash h) (hreads : w.ledger.Reads l)
    (hversion : w.ledger.view.params.version ≠ 0)
    (hinactive : ∀ y, lookup w w.ledger.view.params h ≠ .ok y)
    (hg : Gives (prepare c w.ledger.view.params h wasm) { w with ledger := l, cache := k } x w')
    (hledger : t.ledger = w'.ledger) (hblock : t.block = w.block) : t.Active h := by
  obtain ⟨l', k', hreads', -, hcases⟩ := gives_prepare hg
  rw [lookup_of_reads hreads] at hcases
  rcases hcases with ⟨hlookup, -⟩ | ⟨e, a, -, -, -, -, -, ha⟩
  · exact absurd hlookup (hinactive _)
  obtain ⟨w₂, hactivate, hcharge⟩ := World.gives_activateAndCharge ha
  have hreaches : w₂.ledger.Reaches .any w'.ledger :=
    ((World.keeps_chargeFee (R := Rules.any)).of_gives hcharge).ledger (Rules.sound_any _)
  have hview : l'.view = w.ledger.view := hreads'.view.trans hreads.view
  refine World.active_of_activate hA hh ?_ hactivate (hledger ▸ hreaches) ?_ ?_
  · change l'.view.params.version ≠ 0
    rw [hview]
    exact hversion
  · rw [hledger]
    exact (World.gives_chargeFee hcharge).2.slot
  · change t.block.time = w.block.time
    rw [hblock]

theorem findRecord_of_active {h : Word} (hactive : w.Active h) : ∃ r, ∀ wasm, ∃ l, w.ledger.Reads l ∧
    Gives (findRecord c w.ledger.view.params h wasm) w (r, none) { w with ledger := l } := by
  obtain ⟨e, he, -⟩ := State.answers_params (World.known_of_active hactive).1
    ⟨w.ledger, none, true⟩ (.refl _) (by simp)
  obtain ⟨r, hlookup⟩ := (active_iff (congrArg Prod.fst he)).mp hactive
  obtain ⟨l, hreads, hfound⟩ := World.outcome_reading
    (State.keeps_activeRecord (h := h) (p := w.ledger.view.params)) true w
  change outcome _ _ = (lookup w w.ledger.view.params h, _) at hfound
  rw [hlookup] at hfound
  refine ⟨r, fun wasm => ⟨l, hreads, (gives_get.mpr ⟨rfl, rfl⟩).bind ?_⟩⟩
  exact (gives_lift.mpr hfound).bind (gives_pure.mpr ⟨rfl, rfl⟩)

theorem Effect.params {v : View} (hA : Layout.Apart hash)
    (hw : Hashes hash (w.ledger.account c.codeAt).code) (h : Effect c w v) :
    v.params = w.ledger.view.params := by
  cases h with
  | ran => rfl
  | @activated codeHash wasm a entered _ hhash _ _ _ hmodule hactivates hpays =>
    have hh : hash codeHash := hhash ▸ hw _ _ hmodule
    rw [View.params_of_slot hpays.slot, hactivates.view, View.params_activated hA hh]

theorem active_run (hA : Layout.Apart hash) (hw : Hashes hash (w.ledger.account c.codeAt).code)
    (hversion : w.ledger.view.params.version ≠ 0)
    (hinactive : ¬ w.Active (keccak (w.ledger.account c.codeAt).code))
    (hrun : (run runner c).run w = (some r, w')) (hr : r.succeeded = true) :
    World.Active { w' with block := w.block } (keccak (w.ledger.account c.codeAt).code) := by
  obtain ⟨l, hreads, ⟨-, hfails⟩ | ⟨p, wasm, hp, hmodule, hcall⟩⟩ := run_cases runner c w
  · rw [hfails r (by rw [hrun])] at hr
    cases hr
  have hparams : p = w.ledger.view.params := State.gives_params (Prod.ext hp rfl)
  subst hparams
  have hlookup := (active_iff hp).not.mp hinactive
  rw [hcall, run_keepIfReturned] at hrun
  rcases hfinish : (finish (execute runner c w.ledger.view.params _ wasm)).run
    { w with ledger := l, cache := w.cache.startBlock w.block.height } with ⟨r', t⟩
  rw [hfinish] at hrun
  obtain ⟨hr', ht⟩ := Prod.mk.inj hrun
  obtain rfl := Option.some.inj hr'
  obtain ⟨x, w₁, hprepare, hledger⟩ := prepared_of_returned hfinish hr
  refine active_prepare hA (hw _ _ hmodule) hreads hversion (not_exists.mp hlookup) hprepare ?_ rfl
  rw [← hledger]
  dsimp only at ht
  rw [if_pos hr] at ht
  have hsame : t = w' := ht
  rw [hsame]

end Call

namespace SystemContract

variable {hash : Word → Prop} {w w' : World} {c : Call} {f g : Frame} {args out : Octets}
  {x : Programs.Inspected}

theorem gives_pay_of_le {cost : Nat} (h : cost ≤ f.gas) :
    Gives (pay cost) f ⟨⟩ { f with gas := f.gas - cost } :=
  (gives_get.mpr ⟨rfl, rfl⟩).bind (gives_guard.mpr ⟨Nat.not_lt.mpr h, rfl⟩)

namespace Programs

theorem known_inspect (h : Gives (inspect c args) f x g) : g.world.ledger.KnowsParams ∧
    ∀ r, x.existing = some r → g.world.ledger.KnowsRecord x.codeHash := by
  obtain ⟨program, f₁, -, h⟩ := gives_bind.mp h
  obtain ⟨p, f₂, hp, h⟩ := gives_bind.mp h
  obtain ⟨u, f₃, hpay, h⟩ := gives_bind.mp h
  obtain ⟨codeHash, f₄, hhash, h⟩ := gives_bind.mp h
  obtain ⟨existing, f₅, hexisting, h⟩ := gives_bind.mp h
  obtain ⟨f₅', t, hget, h⟩ := gives_bind.mp h
  obtain ⟨rfl, rfl⟩ := gives_get.mp hget
  obtain ⟨rfl, rfl⟩ := gives_pure.mp h
  have hr₃ : f₂.world.Reading f₃.world := (reading_pay _).of_gives hpay
  have hr₄ : f₃.world.Reading f₄.world :=
    (keeps_onWorld (World.reading_onLedger Ledger.keeps_codeHash)).of_gives hhash
  have hr₅ : f₄.world.Reading f₅.world := (reading_onState State.keeps_record?).of_gives hexisting
  obtain ⟨l₂, d₂, -, hd₂, hledger₂⟩ := gives_onState hp
  obtain ⟨l₅, d₅, -, hd₅, hledger₅⟩ := gives_onState hexisting
  have hparams : f₂.world.ledger.KnowsParams := hledger₂ ▸ State.known_of_params hd₂
  refine ⟨hparams.reaches (W := .any) ((hr₃.trans hr₄).trans hr₅).ledger.reaches, fun r hr => ?_⟩
  dsimp only at hr
  subst hr
  exact hledger₅ ▸ State.known_of_record? hd₅

def inspectGas : Nat := Gas.readParams + activationGas + State.recordGas

theorem onState_of_answers {α : Type} {m : Access α} {n : Nat} {a : α}
    (hstate : (f.world.ledger.account? stateAccount).isSome)
    (hm : Access.Answers m f.world.ledger n a) (hgas : n ≤ f.gas) :
    ∃ g, Gives (onState c m) f a g ∧ g.gas = f.gas - n := by
  obtain ⟨x, l, hl⟩ := Ledger.hold_of_account hstate
  have htells : f.world.ledger.Tells l := (Ledger.keeps_hold.of_gives hl).tells
  obtain ⟨d, hd, hleft⟩ := hm ⟨l, some f.gas, c.frozen⟩ htells (by simpa using hgas)
  exact ⟨_, onState_of_gives hl hd, by rw [hleft]; rfl⟩

theorem onWorld_of_gives {α : Type} {m : WorldM α} {a : α} {w : World} (h : Gives m f.world a w) :
    Gives (onWorld m) f a { f with world := w } := by
  unfold Gives at h ⊢
  rw [outcome_onWorld, h]
  rfl

theorem inspect_of_answers {arg : Word} {n : Nat} {existing : Option Record}
    (harg : Abi.firstWord? args = some arg)
    (hload : f.world.ledger.Loadable (Address.ofWord arg)) (hparams : f.world.ledger.KnowsParams)
    (hrecord : Access.Answers (State.record? (f.world.ledger.view.codeHash (Address.ofWord arg)))
      f.world.ledger n existing)
    (hgas : Gas.readParams + activationGas + n ≤ f.gas) :
    ∃ x g, Gives (inspect c args) f x g ∧ g.gas = f.gas - (Gas.readParams + activationGas + n) := by
  have hprogram := addressArgument_of_word harg f
  obtain ⟨f₁, hp, hleft₁⟩ := onState_of_answers (c := c) hparams.word.account
    (State.answers_params hparams) (by omega)
  have hr₁ : f.world.Reading f₁.world := (reading_onState State.keeps_params).of_gives hp
  have hleft : activationGas ≤ f₁.gas := by omega
  obtain ⟨f₂, hpay, hworld, hleft₂⟩ : ∃ f₂, Gives (pay activationGas) f₁ ⟨⟩ f₂ ∧
      f₂.world = f₁.world ∧ f₂.gas = f₁.gas - activationGas := ⟨_, gives_pay_of_le hleft, rfl, rfl⟩
  rw [← hworld] at hr₁
  obtain ⟨codeHash, l, hl⟩ := Ledger.codeHash_of_loadable (hload.of_reads hr₁.ledger)
  have hreads : f.world.ledger.Reads l := hr₁.ledger.trans (Ledger.keeps_codeHash.of_gives hl)
  have hhash : codeHash = f₂.world.ledger.view.codeHash (Address.ofWord arg) :=
    Ledger.gives_codeHash hl
  rw [hr₁.view] at hhash
  rw [← hhash] at hrecord
  obtain ⟨g, hexisting, hleft₃⟩ := onState_of_answers (c := c)
    (f := ⟨{ f₂.world with ledger := l }, f₂.gas⟩)
    (by rw [hreads.tells.account]; exact hparams.word.account) (hrecord.of_tells hreads.tells)
    (by dsimp only; omega)
  have hhashed := onWorld_of_gives (f := f₂) (World.onLedger_of_gives hl)
  refine ⟨_, g, hprogram.bind (hp.bind (hpay.bind (hhashed.bind (hexisting.bind
    ((gives_get.mpr ⟨rfl, rfl⟩).bind (gives_pure.mpr ⟨rfl, rfl⟩)))))), ?_⟩
  rw [hleft₃, hleft₂, hleft₁]
  omega

theorem inspect_of_loadable {arg : Word} {r : Record} (harg : Abi.firstWord? args = some arg)
    (hload : f.world.ledger.Loadable (Address.ofWord arg)) (hparams : f.world.ledger.KnowsParams)
    (hrecord : f.world.ledger.KnowsRecord (f.world.ledger.view.codeHash (Address.ofWord arg)))
    (hr : f.world.ledger.view.record? (f.world.ledger.view.codeHash (Address.ofWord arg)) = some r)
    (hgas : inspectGas ≤ f.gas) : ∃ x g, Gives (inspect c args) f x g := by
  obtain ⟨x, g, hx, -⟩ := inspect_of_answers (c := c) harg hload hparams
    (State.answers_record? hrecord hr) hgas
  exact ⟨x, g, hx⟩

/-- There is something to pay for unless the record is current. -/
theorem outcome_activateProgram (h : Gives (inspect c args) f x g) :
    outcome (activateProgram c args) f =
      outcome (x.current.elim (enterProgram c x) (handBack c)) g := by
  rw [activateProgram_eq, h.outcome_bind]

/-- An activation finds the program active just when a call would, but for programs of no version,
which it finds active and a call does not. -/
theorem lookup_inspect (h : Gives (inspect c args) f x g) (r : Record) :
    Call.lookup f.world x.params x.codeHash = .ok r ↔ x.current = some r ∧ x.params.version ≠ 0 := by
  have hreads : f.world.ledger.Reads g.world.ledger := (reading_inspect.of_gives h).ledger
  obtain ⟨-, hparams, -, hexisting, hcurrent⟩ := gives_inspect h
  rw [hcurrent]
  constructor
  · intro hlookup
    obtain ⟨hrecord, hactivated, hversion, hlive⟩ :=
      State.gives_activeRecord (d := ⟨f.world.ledger, none, true⟩) (Prod.ext hlookup rfl)
    rw [← hversion]
    exact ⟨⟨hrecord, hparams ▸ hversion, hlive⟩, hactivated⟩
  · rintro ⟨hr, hactivated⟩
    have hknown := (known_inspect h).2 r (hexisting.trans hr.record)
    have hversion : r.version = x.params.version := hparams ▸ hr.version
    obtain ⟨e, he, -⟩ := State.answers_activeRecord (hknown.of_tells hreads.tells.symm) hr.record
      (hversion ▸ hactivated) hversion hr.live ⟨f.world.ledger, none, true⟩ (.refl _) (by simp)
    exact congrArg Prod.fst he

/-- An activation hands the value back just when the program is active, but for programs of no
version. -/
theorem active_inspect (h : Gives (inspect c args) f x g) :
    f.world.Active x.codeHash ↔ x.current.isSome ∧ x.params.version ≠ 0 := by
  have hreads : f.world.ledger.Reads g.world.ledger := (reading_inspect.of_gives h).ledger
  obtain ⟨-, hparams, -⟩ := gives_inspect h
  have hknown : f.world.ledger.KnowsParams := (known_inspect h).1.of_tells hreads.tells.symm
  obtain ⟨e, he, -⟩ := State.answers_params hknown ⟨f.world.ledger, none, true⟩ (.refl _) (by simp)
  rw [← hparams] at he
  rw [Call.active_iff (congrArg Prod.fst he), Option.isSome_iff_exists]
  simp only [lookup_inspect h, exists_and_right]

section
variable {arg : Word} {t : World} (harg : argument? c = some arg)
  (hversion : f.world.ledger.view.params.version ≠ 0) (hledger : t.ledger = g.world.ledger)
  (hblock : t.block = f.world.block)
include harg hversion hledger hblock

theorem active_handBack {r : Record} {f₁ : Frame}
    (hx : Gives (inspect c (c.input.drop 4)) f x f₁) (hcurrent : x.current = some r)
    (h : Gives (handBack c r) f₁ out g) :
    t.Active (f.world.ledger.view.codeHash (Address.ofWord arg)) := by
  obtain ⟨⟨arg', hword, hprogram⟩, -, hhash, hexisting, hiff⟩ := gives_inspect hx
  obtain rfl : arg = arg' := Option.some.inj (harg.symm.trans hword)
  rw [hprogram] at hhash
  have hr := (hiff r).mp hcurrent
  obtain ⟨hparams, hrecord⟩ := known_inspect hx
  obtain ⟨u, f₂, hpaid, h⟩ := gives_bind.mp h
  obtain ⟨-, rfl⟩ := gives_pure.mp h
  have hreaches : f₁.world.ledger.Reaches .any f₂.world.ledger :=
    ((keeps_payOut (R := Rules.any)).of_gives hpaid).ledger (Rules.sound_any _)
  have hview : f₁.world.ledger.view = f.world.ledger.view := (reading_inspect.of_gives hx).view
  rw [← hledger] at hreaches
  have hnow : f.world.now = t.now := congrArg Block.time hblock.symm
  rw [hnow] at hr
  rw [← hhash]
  refine World.active_of_current (hparams.reaches hreaches)
    ((hrecord r (hexisting.trans hr.record)).reaches hreaches) (hr.of_slot ?_)
    (hr.version ▸ hversion)
  rw [hledger, (gives_payOut hpaid).slot, hview]

theorem active_enterProgram (hA : Layout.Apart hash)
    (hw : Hashes hash (f.world.ledger.account (Address.ofWord arg)).code) {f₁ : Frame}
    (hx : Gives (inspect c (c.input.drop 4)) f x f₁) (h : Gives (enterProgram c x) f₁ out g) :
    t.Active (f.world.ledger.view.codeHash (Address.ofWord arg)) := by
  obtain ⟨⟨arg', hword, hprogram⟩, hparams, hhash, -, -⟩ := gives_inspect hx
  obtain rfl : arg = arg' := Option.some.inj (harg.symm.trans hword)
  rw [hprogram] at hhash
  obtain ⟨wasm, a, w₁, w₂, hreads, hmodule, hactivated, hreaches, -, u, v, hcharged, hreturned, hview⟩ :=
    gives_enterProgram h
  have hr₁ : f.world.Reading f₁.world := reading_inspect.of_gives hx
  have hr₂ : f.world.Reading w₁ := hr₁.trans hreads
  rw [hr₁.account, hprogram] at hmodule
  have hh : hash x.codeHash := by
    rw [hhash, codeHash_of_module hmodule]
    exact hw _ _ hmodule
  rw [← hledger] at hreaches
  rw [← hhash]
  refine World.active_of_activate hA hh ?_ hactivated hreaches ?_ ?_
  · rw [hr₂.view]
    exact hversion
  · rw [hledger, hview]
    exact hreturned.slot.trans hcharged.slot
  · rw [hr₂.now]
    exact congrArg Block.time hblock

theorem active_activateProgram (hA : Layout.Apart hash)
    (hw : Hashes hash (f.world.ledger.account (Address.ofWord arg)).code)
    (h : Gives (activateProgram c (c.input.drop 4)) f out g) :
    t.Active (f.world.ledger.view.codeHash (Address.ofWord arg)) := by
  rw [activateProgram_eq] at h
  obtain ⟨x, f₁, hx, h⟩ := gives_bind.mp h
  cases hcurrent : x.current with
  | some r =>
    rw [hcurrent] at h
    exact active_handBack harg hversion hledger hblock hx hcurrent h
  | none =>
    rw [hcurrent] at h
    exact active_enterProgram harg hversion hledger hblock hA hw hx h

end

end Programs

theorem active_call {arg : Word} {r : CallResult} (hA : Layout.Apart hash)
    (hw : Hashes hash (w.ledger.account (Address.ofWord arg)).code)
    (hversion : w.ledger.view.params.version ≠ 0) (hat : c.codeAt = programsAddress)
    (hselector : c.input.take 4 = Abi.selectorOf "activateProgram(address)")
    (harg : argument? c = some arg) (hcall : (call c).run w = (some r, w'))
    (hr : r.succeeded = true) :
    World.Active { w' with block := w.block } (w.ledger.view.codeHash (Address.ofWord arg)) := by
  obtain ⟨methods, hmethods, hinvoke⟩ := invoked_of_returned hcall hr
  rw [hat] at hmethods
  obtain rfl : Programs.methods = methods := Option.some.inj hmethods
  rcases invoke_returned hinvoke hr with ⟨hshort, -⟩ | ⟨out, g, hdispatch, rfl⟩
  · have hnone : c.input.drop 4 = [] := List.drop_eq_nil_of_le hshort.le
    rw [argument?, hnone] at harg
    cases harg
  obtain ⟨-, f', hworld, hrun⟩ := run_of_find (Programs.find_activateProgram hselector) (.inr rfl)
    hdispatch
  obtain rfl : f'.world = w := hworld
  exact Programs.active_activateProgram harg hversion rfl rfl hA hw hrun

end SystemContract

end Inkwell
