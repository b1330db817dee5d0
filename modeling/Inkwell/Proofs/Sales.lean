import Inkwell.Proofs.Fees
set_option autoImplicit false

/-! What data is sold to programs: the activations and keepalives that there are, and what they leave of
records and of the price of data. -/

namespace Inkwell

open SystemContract

structure Sale extends Bill where
  bytes : UInt32
  time : Nat
  days : UInt16
  deriving DecidableEq, Repr

namespace Sale

def ofActivation (w : World) (codeHash : Word) (a : Activation) : Sale where
  codeHash := codeHash
  fee := a.fee
  activates := true
  bytes := a.artifact.estimate.asmSize
  time := w.now
  days := w.ledger.view.params.expiryDays

def ofKeepalive (w : World) (codeHash fee : Word) (r : Record) : Sale where
  codeHash := codeHash
  fee := fee
  activates := false
  bytes := UInt32.ofNat r.asmSize
  time := w.now
  days := w.ledger.view.params.keepaliveDays

def deadline (e : Sale) : Nat := Record.deadline e.time e.days

def priced (e : Sale) (p : Pricer) : Pricer × Nat := p.update e.bytes (UInt64.ofNat e.time)

/-- A sale as things stand in a world: an activation of code that holds a module, with the artifact
that the caches give of it, or a keepalive of a record that is current. -/
inductive Of (w : World) : Sale → Prop
  | activation {codeHash : Word} {wasm : Octets} {a : Activation} {v : View} (program : Address) :
      codeHash = keccak (w.ledger.account program).code →
      Package.module? w.ledger.view.params.maxWasmSize.toNat (w.ledger.account program).code =
        .ok (some wasm) →
      w.Activates codeHash wasm a v → w.Loads wasm a.artifact → Of w (.ofActivation w codeHash a)
  | keepalive {codeHash fee : Word} {r : Record} : w.ledger.view.Current w.now codeHash r →
      Of w (.ofKeepalive w codeHash fee r)

end Sale

namespace View

variable {hash : Word → Prop} {v v' u u' : View} {h : Word} {r : Record} {o : Option Sale} {p : Pricer}

/-! ### The price of data -/

/-- What was sold was sold at its price; without a sale the pricer is as it was. -/
def Sold (v u : View) : Option Sale → Prop
  | none => u.pricer = v.pricer
  | some e => u.pricer = (e.priced v.pricer).1 ∧ e.fee.toNat = (e.priced v.pricer).2

theorem Sold.of_slot (hv : v.slot = v'.slot) (hu : u'.slot = u.slot) (h : v.Sold u o) :
    v'.Sold u' o := by
  cases o with
  | none => exact ((pricer_of_slot hu).trans h).trans (pricer_of_slot hv)
  | some e =>
    obtain ⟨hpricer, hfee⟩ := h
    rw [pricer_of_slot hv] at hpricer hfee
    exact ⟨(pricer_of_slot hu).trans hpricer, hfee⟩

/-! ### Records -/

def Sized (hash : Word → Prop) (v : View) : Prop := ∀ h, hash h → ∀ r, v.record? h = some r → r.asmKb ≠ 0

def Spared (hash : Word → Prop) (h : Word) (v u : View) : Prop :=
  ∀ h', hash h' → h' ≠ h → u.record? h' = v.record? h'

/-- What happens to records. They stay, or a single one is pinned or unpinned; an activation begins a
record, and a keepalive extends one that is current. -/
inductive Renewed (hash : Word → Prop) (v u : View) : Option Sale → Prop
  | same : (∀ h, hash h → u.record? h = v.record? h) → Renewed hash v u none
  | flipped {h : Word} {r : Record} (pinned : Bool) : hash h → v.record? h = some r →
      u.record? h = some { r with pinned } → v.Spared hash h u → Renewed hash v u none
  | activated {e : Sale} {r : Record} : e.activates = true → hash e.codeHash →
      u.record? e.codeHash = some r → r.version = v.params.version → r.asmKb ≠ 0 →
      r.activatedAt = UInt64.ofNat e.time → r.expiresAt = UInt64.ofNat e.deadline →
      r.keepaliveUntil = 0 → r.dataFee = e.fee → v.Spared hash e.codeHash u →
      Renewed hash v u (some e)
  | keptAlive {e : Sale} {r : Record} : e.activates = false → hash e.codeHash →
      v.Current e.time e.codeHash r → e.days = v.params.keepaliveDays →
      u.record? e.codeHash = some (r.keptAlive v.params e.time e.fee) →
      v.Spared hash e.codeHash u → Renewed hash v u (some e)

theorem Sized.of_slot (hu : u.slot = v.slot) (hv : v.Sized hash) : u.Sized hash :=
  fun h hh r hr => hv h hh r ((record?_of_slot hu h).symm.trans hr)

theorem Spared.of_slot (hv : v.slot = v'.slot) (hu : u'.slot = u.slot) (h' : v.Spared hash h u) :
    v'.Spared hash h u' := fun k hk hne => by
  rw [record?_of_slot hu, h' k hk hne, record?_of_slot hv]

theorem Renewed.of_slot (hv : v.slot = v'.slot) (hu : u'.slot = u.slot) (hrenewed : v.Renewed hash u o) :
    v'.Renewed hash u' o := by
  have hparams : v.params = v'.params := params_of_slot hv
  cases hrenewed with
  | same hsame =>
    exact .same fun h hh => by rw [record?_of_slot hu, hsame h hh, record?_of_slot hv]
  | flipped b hh hr hflipped hspared =>
    exact .flipped b hh ((record?_of_slot hv _).symm.trans hr) ((record?_of_slot hu _).trans hflipped)
      (hspared.of_slot hv hu)
  | activated hactivates hh hr hversion hsize hat hexpires huntil hfee hspared =>
    exact .activated hactivates hh ((record?_of_slot hu _).trans hr) (hparams ▸ hversion) hsize hat
      hexpires huntil hfee (hspared.of_slot hv hu)
  | keptAlive hkeeps hh hr hdays hkept hspared =>
    rw [hparams] at hdays hkept
    exact .keptAlive hkeeps hh (hr.of_slot hv.symm) hdays ((record?_of_slot hu _).trans hkept)
      (hspared.of_slot hv hu)

theorem Renewed.sized (hrenewed : v.Renewed hash u o) (hv : v.Sized hash) : u.Sized hash := by
  have hstep : ∀ {h : Word} {r : Record}, u.record? h = some r → r.asmKb ≠ 0 → v.Spared hash h u →
      u.Sized hash := by
    intro h r hr hsize hspared k hk r' hr'
    by_cases heq : k = h
    · rw [heq, hr] at hr'
      rwa [← Option.some.inj hr']
    · exact hv k hk r' ((hspared k hk heq).symm.trans hr')
  cases hrenewed with
  | same hsame => exact fun h hh r hr => hv h hh r ((hsame h hh).symm.trans hr)
  | @flipped h r b hh hr hflipped hspared =>
    have hsize : r.asmKb ≠ 0 := hv h hh r hr
    exact hstep hflipped hsize hspared
  | activated _ _ hr _ hsize _ _ _ _ hspared => exact hstep hr hsize hspared
  | @keptAlive e r _ hh hr _ hkept hspared =>
    have hsize : r.asmKb ≠ 0 := hv _ hh r hr.record
    exact hstep hkept hsize hspared

end View

/-! ### What calls sell -/

/-- What a call that returns leaves, once it was made in this world: what it has sold, if anything, was
sold at its price, and records were renewed accordingly, if all in the caches was compiled. -/
structure World.Sells (hash : Word → Prop) (w : World) (u : View) (o : Option Sale) : Prop where
  sale : ∀ e ∈ o, e.Of w
  sold : w.ledger.view.Sold u o
  renewed : w.cache.Genuine (fun _ => True) → w.ledger.view.Sized hash →
    w.ledger.view.Renewed hash u o

section
variable {hash : Word → Prop} {w : World} {c : Call} {v u u' : View} {h : Word} {wasm : Octets}
  {a : Activation} {r : Record} {g : Log} {o : Option Sale}

theorem World.Sells.of_slot (hu : u'.slot = u.slot) (hsells : w.Sells hash u o) : w.Sells hash u' o :=
  ⟨hsells.sale, hsells.sold.of_slot rfl hu, fun hcache hsized =>
    (hsells.renewed hcache hsized).of_slot rfl hu⟩

theorem World.sells_nothing (hu : u.slot = w.ledger.view.slot) : w.Sells hash u none :=
  ⟨by simp, View.pricer_of_slot hu, fun _ _ => .same fun _ _ => View.record?_of_slot hu _⟩

section
variable (hA : Layout.Apart hash) (hh : hash h)
include hA hh

theorem World.Activates.sells (program : Address)
    (hhash : h = keccak (w.ledger.account program).code)
    (hmodule : Package.module? w.ledger.view.params.maxWasmSize.toNat
      (w.ledger.account program).code = .ok (some wasm))
    (hactivates : w.Activates h wasm a v) (hloads : w.Loads wasm a.artifact) :
    w.Sells hash v (some (.ofActivation w h a)) := by
  obtain ⟨artifact, ha⟩ := hactivates.activation
  have hview := hactivates.view
  have hpricer : v.pricer = (w.ledger.view.pricer.update a.artifact.estimate.asmSize
      (UInt64.ofNat w.now)).1 := by
    rw [hview, View.activated, View.pricer_setRecord hA hh, View.pricer_setPricer_update,
      View.pricer_setModuleHash hA hh]
    rfl
  refine ⟨fun e he => ?_, ⟨hpricer, ?_⟩, fun hcache _ => ?_⟩
  · rw [← Option.mem_some.mp he]
    exact .activation program hhash hmodule hactivates hloads
  · change a.fee.toNat = (w.ledger.view.pricer.update a.artifact.estimate.asmSize _).2
    rw [ha]
    exact (View.toNat_price _ _).trans (by rw [View.pricer_setModuleHash hA hh]; rfl)
  · obtain ⟨wasm', s, hcompile⟩ := hloads.compiled hcache
    obtain ⟨hleast, hmost⟩ := asmKb_of_compile hcompile
    have hasmKb : a.record.asmKb.toNat = a.artifact.estimate.asmKb := by
      rw [ha]
      exact Nat.mod_eq_of_lt (Nat.lt_trans (ha ▸ hmost) (by decide))
    have hsize : a.record.asmKb ≠ 0 := by
      intro hzero
      rw [hzero] at hasmKb
      have hnone : (0 : UInt32).toNat = 0 := rfl
      omega
    refine .activated (r := a.record) rfl hh ?_ ?_ hsize ?_ ?_ ?_ hactivates.fee fun k hk hne => ?_
    · rw [hview]
      exact View.record?_setRecord_sized hA hh hsize (by omega)
    · rw [ha]
      rfl
    · rw [ha]
      rfl
    · rw [ha]
      rfl
    · rw [ha]
      rfl
    · rw [hview]
      exact View.record?_activated_of_ne hA hk hh hne

theorem World.sells_keptAlive {fee : Word} (hcurrent : w.ledger.view.Current w.now h r)
    (hfee : fee = BitVec.ofNat 256 (w.ledger.view.priced (UInt32.ofNat r.asmSize) w.now).2)
    (hu : u = (w.ledger.view.setPricer (w.ledger.view.priced (UInt32.ofNat r.asmSize) w.now).1).setRecord
      h (r.keptAlive w.ledger.view.params w.now fee)) :
    w.Sells hash u (some (.ofKeepalive w h fee r)) := by
  refine ⟨fun e he => ?_, ⟨?_, ?_⟩, fun _ hsized => ?_⟩
  · rw [← Option.mem_some.mp he]
    exact .keepalive hcurrent
  · rw [hu, View.pricer_setRecord hA hh]
    exact View.pricer_setPricer_update _ _
  · change fee.toNat = _
    rw [hfee]
    exact View.toNat_price _ _
  · have hfits := View.asmKb_le_of_record hcurrent.record
    refine .keptAlive rfl hh hcurrent rfl ?_ fun k hk hne => ?_
    · rw [hu]
      exact View.record?_setRecord_sized hA hh (hsized h hh r hcurrent.record) hfits
    · rw [hu, View.record?_setRecord_of_ne hA hk hh hne, View.record?_setPricer hA hk]

theorem World.sells_flipped {pinned : Bool} (hr : w.ledger.view.record? h = some r)
    (hv : v.slot = w.ledger.view.slot) : w.Sells hash (v.setRecord h { r with pinned }) none := by
  refine ⟨by simp, ?_, fun _ hsized => ?_⟩
  · exact (View.pricer_setRecord hA hh).trans (View.pricer_of_slot hv)
  · refine .flipped pinned hh hr ?_ fun k hk hne => ?_
    · have hsize : r.asmKb ≠ 0 := hsized h hh r hr
      have hfits : r.asmKb.toNat ≤ 0xffffff := View.asmKb_le_of_record hr
      exact View.record?_setRecord_sized hA hh hsize hfits
    · rw [View.record?_setRecord_of_ne hA hk hh hne, View.record?_of_slot hv]

end

/-- A call of a program that returns has sold the activation of the program, unless it was active. -/
theorem Call.Effect.sells (hA : Layout.Apart hash)
    (hw : Hashes hash (w.ledger.account c.codeAt).code) (heffect : Call.Effect c w v) :
    ∃ o, Call.Charges c w v (o.map Sale.toBill) ∧ w.Sells hash v o := by
  cases heffect with
  | ran hactive => exact ⟨none, .ran hactive rfl, World.sells_nothing rfl⟩
  | @activated codeHash wasm a entered _ hhash hinactive _ _ hmodule hactivates hpays hloads =>
    have hh : hash codeHash := hhash ▸ hw _ _ hmodule
    exact ⟨some (.ofActivation w codeHash a),
      charges_activated hA hh hhash hinactive hactivates hpays,
      (hactivates.sells hA hh _ hhash hmodule hloads).of_slot hpays.slot⟩

theorem SystemContract.Effect.sells (hA : Layout.Apart hash) (hw : w.Hashed hash)
    (hc : Callee.system.Allowed hash c) (heffect : SystemContract.Effect c w v) :
    ∃ o, SystemContract.Charges c w v (o.map Sale.toBill) ∧ w.Sells hash v o := by
  cases heffect with
  | nothing hidle => exact ⟨none, .nothing hidle rfl, World.sells_nothing rfl⟩
  | handedBack hasks harg hcurrent hpays =>
    exact ⟨none, .handedBack hasks harg hcurrent fun hdistinct => View.settles_of_back hdistinct hpays,
      World.sells_nothing hpays.slot⟩
  | @activated arg codeHash wasm a entered u v hasks harg hhash hmodule hnone hactivates hcovered hfee
      hback hloads =>
    have hh : hash codeHash := hhash ▸ hw _ _ _ hmodule
    exact ⟨some (.ofActivation w codeHash a),
      charges_activated hA hh hcovered hasks harg hhash hnone hactivates rfl hfee hback,
      (hactivates.sells hA hh _ hhash hmodule hloads).of_slot (hback.slot.trans hfee.slot)⟩
  | @keptAlive codeHash fee r renewed u v hasks harg hcurrent _ hprice hrenewed hcovered hfee hback =>
    have hh : hash codeHash := hc _ (by simp [renewing]) hasks.selector _ harg
    exact ⟨some (.ofKeepalive w codeHash fee r),
      charges_keptAlive hA hh hcovered hasks harg hcurrent hprice hrenewed hfee hback,
      (World.sells_keptAlive hA hh hcurrent hprice hrenewed).of_slot (hback.slot.trans hfee.slot)⟩
  | @pinned arg codeHash wasm r hasks _ hhash hmodule _ hcurrent =>
    have hh : hash codeHash := hhash ▸ hw _ _ _ hmodule
    exact ⟨none, .nothing (idle_of_pinning hasks.codeAt) rfl,
      World.sells_flipped hA hh hcurrent.record rfl⟩
  | @unpinned codeHash r hasks harg _ hrecord =>
    have hh : hash codeHash := hc _ (by simp [renewing]) hasks.selector _ harg
    exact ⟨none, .nothing (idle_of_pinning hasks.codeAt) rfl, World.sells_flipped hA hh hrecord rfl⟩

theorem Callee.sells (hA : Layout.Apart hash) {callee : Callee} (hw : w.Hashed hash)
    (hc : callee.Allowed hash c) (heffect : callee.Effect c w v) :
    ∃ o, callee.Charges c w v (o.map Sale.toBill) ∧ w.Sells hash v o := by
  cases callee with
  | program runner => exact Call.Effect.sells hA (hw _) heffect
  | system => exact SystemContract.Effect.sells hA hw hc heffect

end

/-! ### What turns sell -/

/-- What a turn has sold: a call that returns, of a program, a system contract or the constructor of a
new program, what it was charged for, and anything else nothing. -/
inductive Turn.Sells (w : World) (u : View) : Turn → Option Sale → Prop
  | undone {t : Turn} : ¬ t.Returns w → Sells w u t none
  | called {frame : Option Bool} {callee : Callee} {c : Call} {l : Ledger} {o : Option Sale} :
      (Turn.call frame callee c).Returns w → World.Paid (frame.getD false) c w.ledger.view l.view →
      callee.Charges c { w with ledger := l } u (o.map Sale.toBill) →
      (∀ e ∈ o, e.Of { w with ledger := l }) → Sells w u (.call frame callee c) o
  | placed {runner : Runner} {r : DeployRequest} {l : Ledger} :
      (Turn.deploy runner r).Returns w → w.ledger.Funded l → u = l.view →
      Sells w u (.deploy runner r) none
  | constructed {runner : Runner} {r : DeployRequest} {l m : Ledger} {address : Address}
      {o : Option Sale} : (Turn.deploy runner r).Returns w → w.ledger.Funded l →
      View.Pays r.caller address r.value l.view m.view →
      Call.Charges (Deploy.constructorCall r address) { w with ledger := m } u (o.map Sale.toBill) →
      (∀ e ∈ o, e.Of { w with ledger := m }) → Sells w u (.deploy runner r) o
  | beside {t : Turn} : (∀ frame callee c, t ≠ .call frame callee c) →
      (∀ runner r, t ≠ .deploy runner r) → Sells w u t none

namespace Turn

variable {hash : Word → Prop} {w : World} {t : Turn}

def KeepsPrices (t : Turn) : Prop := ∀ slot v, t = .store slot v → slot ∉ Layout.pricerSlots

theorem pricer_beside (ht : t.KeepsPrices) (hcall : ∀ frame callee c, t ≠ .call frame callee c)
    (hdeploy : ∀ runner r, t ≠ .deploy runner r) :
    (t.step w).ledger.view.pricer = w.ledger.view.pricer := by
  have hstore : ∀ slot v, slot ∉ Layout.pricerSlots → Keeps
      (Desk.Over (Ledger.Reaches (.sparing Layout.pricerSlots))) (Access.store slot v) :=
    fun slot v hslot => State.keeps_store fun _ => Writes.sparing_of_notMem hslot
  have hstays : ∀ {m : Access Unit}, Keeps (Desk.Over (Ledger.Reaches (.sparing Layout.pricerSlots))) m →
      (outcome (World.onState false m) w).2.ledger.view.pricer = w.ledger.view.pricer := by
    intro m hm
    rw [World.outcome_onState]
    exact View.pricer_of_pricerSlots (hm { ledger := w.ledger }).spares
  cases t with
  | call frame callee c => exact absurd rfl (hcall frame callee c)
  | deploy runner r => exact absurd rfl (hdeploy runner r)
  | setParams p =>
    have hapart := (List.nodup_append.mp Layout.nodup_shared).2.2
    refine hstays ((hstore _ _ fun hslot => ?_).bind fun _ => hstore _ _ fun hslot => ?_)
    · exact hapart _ hslot _ (by simp) rfl
    · exact hapart _ hslot _ (by simp) rfl
  | store slot v => exact hstays (hstore slot v (ht slot v rfl))
  | set config block transaction => rfl
  | cache k => rfl

/-- A turn sells something at its price, or nothing, unless it writes to the pricer; and it renews
records accordingly, if all in the caches was compiled. -/
theorem sells_step (hA : Layout.Apart hash) (hw : w.Hashed hash) (ht : t.Allowed hash) : ∃ o,
    t.Sells w (t.step w).ledger.view o ∧
      (t.KeepsPrices → w.ledger.view.Sold (t.step w).ledger.view o) ∧
      ((w.cache.Genuine fun _ => True) → w.ledger.view.Sized hash →
        w.ledger.view.Renewed hash (t.step w).ledger.view o) := by
  by_cases hreturns : t.Returns w
  · have heffect := effect_step hA ht hreturns
    cases t with
    | call frame callee c =>
      obtain ⟨l, hpaid, heffect⟩ := heffect
      obtain ⟨o, hcharges, hsells⟩ := Callee.sells hA (hw.of_paid hpaid) ht heffect
      have hslot : l.view.slot = w.ledger.view.slot := hpaid.same.1
      refine ⟨o, .called hreturns hpaid hcharges hsells.sale, fun _ => hsells.sold.of_slot hslot rfl,
        fun hcache hsized => (hsells.renewed hcache (hsized.of_slot hslot)).of_slot hslot rfl⟩
    | deploy runner r =>
      change Deploy.Effect r w _ at heffect
      generalize (step w (deploy runner r)).ledger.view = v at heffect ⊢
      cases heffect with
      | placed hfunded =>
        have hslot := hfunded.slot
        exact ⟨none, .placed hreturns hfunded rfl, fun _ => View.pricer_of_slot hslot,
          fun _ _ => .same fun _ _ => View.record?_of_slot hslot _⟩
      | @constructed l m address _ hfunded hpays hbuild heffect =>
        obtain ⟨o, hcharges, hsells⟩ := Call.Effect.sells hA (ht _ hbuild) heffect
        have hslot : m.view.slot = w.ledger.view.slot := hpays.slot.trans hfunded.slot
        exact ⟨o, .constructed hreturns hfunded hpays hcharges hsells.sale,
          fun _ => hsells.sold.of_slot hslot rfl,
          fun hcache hsized => (hsells.renewed hcache (hsized.of_slot hslot)).of_slot hslot rfl⟩
    | _ =>
      have hspares : w.ledger.view.Spares hash _ := heffect
      exact ⟨none, .beside (fun _ _ _ => nofun) (fun _ _ => nofun), fun ht =>
        pricer_beside ht (fun _ _ _ => nofun) (fun _ _ => nofun),
        fun _ _ => .same fun h hh => View.record?_congr fun p _ => hspares.state h hh p⟩
  · have hslot : (t.step w).ledger.view.slot = w.ledger.view.slot := (undone_step hreturns).slot
    exact ⟨none, .undone hreturns, fun _ => View.pricer_of_slot hslot,
      fun _ _ => .same fun _ _ => View.record?_of_slot hslot _⟩

end Turn

theorem Turn.Sells.charges {hash : Word → Prop} {w : World} {t : Turn} {o : Option Sale}
    (h : t.Sells w (t.step w).ledger.view o) (hA : Layout.Apart hash) (ht : t.Allowed hash)
    (hbounded : w.ledger.Bounded) : t.Charges w (t.step w).ledger.view (o.map Sale.toBill) := by
  have hundone : ¬ t.Returns w → (t.step w).ledger.view.account = w.ledger.account :=
    fun hfails => (undone_step hfails).account hbounded
  have hbeside : (∀ frame callee c, t ≠ .call frame callee c) → (∀ runner r, t ≠ .deploy runner r) →
      (t.step w).ledger.view.account = w.ledger.account := by
    intro hcall hdeploy
    cases t with
    | call frame callee c => exact absurd rfl (hcall frame callee c)
    | deploy runner r => exact absurd rfl (hdeploy runner r)
    | _ =>
      have hspares : w.ledger.view.Spares hash _ := effect_step hA ht trivial
      exact hspares.account
  generalize (t.step w).ledger.view = u at h hundone hbeside
  cases h with
  | undone hfails => exact .undone hfails (hundone hfails)
  | called hreturns hpaid hcharges => exact .called hreturns hpaid hcharges
  | placed hreturns hfunded hview => exact .deployed hreturns (.placed fun a => hview ▸ hfunded.balance a)
  | constructed hreturns hfunded hpays hcharges =>
    exact .deployed hreturns (.constructed hfunded hpays hcharges)
  | beside hcall hdeploy => exact .beside hcall hdeploy (hbeside hcall hdeploy)

/-! ### Runs -/

/-- The pricer once one thing after another was sold, and what each of them cost. -/
def Pricer.replay (p : Pricer) : List Sale → Pricer × List Nat
  | [] => (p, [])
  | e :: es =>
    let (q, price) := e.priced p
    ((q.replay es).1, price :: (q.replay es).2)

theorem Pricer.replay_append (p : Pricer) (es : List Sale) (e : Sale) :
    p.replay (es ++ [e]) =
      ((e.priced (p.replay es).1).1, (p.replay es).2 ++ [(e.priced (p.replay es).1).2]) := by
  induction es generalizing p with
  | nil => rfl
  | cons x es ih =>
    simp only [List.cons_append, replay, ih]

/-- What is sold next follows what was sold before. -/
theorem View.Sold.replay {v u : View} {p : Pricer} {es : List Sale} {o : Option Sale}
    (hsold : v.Sold u o) (hreplay : p.replay es = (v.pricer, es.map fun e => e.fee.toNat)) :
    p.replay (es ++ o.toList) = (u.pricer, (es ++ o.toList).map fun e => e.fee.toNat) := by
  cases o with
  | none =>
    have hsame : u.pricer = v.pricer := hsold
    rw [Option.toList_none, List.append_nil, hreplay, hsame]
  | some e =>
    obtain ⟨hpricer, hfee⟩ := hsold
    rw [Option.toList_some, Pricer.replay_append, hreplay, hpricer, List.map_append, List.map_singleton,
      hfee]

namespace World

variable {hash : Word → Prop} {w : World} {ts : List Turn}

inductive Sold (w : World) : List Turn → List Sale → Prop
  | start : Sold w [] []
  | turn {ts : List Turn} {es : List Sale} {t : Turn} {o : Option Sale} : Sold w ts es →
      t.Sells (w.after ts) (t.step (w.after ts)).ledger.view o → Sold w (ts ++ [t]) (es ++ o.toList)

/-- In every run in which nothing is written to the pricer directly, the pricer is the one there was,
once all that was sold is sold to it in turn, and what each of the sales was charged for is what it
costs there. A turn that does not return sells nothing and leaves the pricer as it is. -/
theorem prices_replayed (hA : Layout.Apart hash) (hw : w.Hashed hash)
    (hts : ∀ t ∈ ts, t.Allowed hash) (hprices : ∀ t ∈ ts, t.KeepsPrices) :
    (∃ es, w.Sold ts es ∧ w.ledger.view.pricer.replay es =
        ((w.after ts).ledger.view.pricer, es.map fun e => e.fee.toNat)) ∧
      ∀ ts₁ t ts₂, ts = ts₁ ++ t :: ts₂ → ¬ t.Returns (w.after ts₁) →
        (w.after (ts₁ ++ [t])).ledger.view.pricer = (w.after ts₁).ledger.view.pricer := by
  refine ⟨?_, fun ts₁ t ts₂ _ hfails => ?_⟩
  · induction ts using List.reverseRecOn with
    | nil => exact ⟨[], .start, rfl⟩
    | append_singleton ts t ih =>
      have hts' : ∀ t ∈ ts, t.Allowed hash := fun t ht => hts t (List.mem_append_left _ ht)
      obtain ⟨es, hes, hreplay⟩ := ih hts' fun t ht => hprices t (List.mem_append_left _ ht)
      obtain ⟨o, hsells, hsold, -⟩ := Turn.sells_step hA (hashed_after hts' hw) (hts t (by simp))
      refine ⟨es ++ o.toList, hes.turn hsells, ?_⟩
      rw [after_snoc]
      exact (hsold (hprices t (by simp))).replay hreplay
  · rw [after_snoc]
    exact View.pricer_of_slot (Turn.undone_step hfails).slot

theorem Sold.billed {es : List Sale} (h : w.Sold ts es) (hA : Layout.Apart hash) (hw : w.Hashed hash)
    (hts : ∀ t ∈ ts, t.Allowed hash) (hbounded : w.ledger.Bounded) :
    w.Billed ts (es.map Sale.toBill) := by
  induction h with
  | start => exact .start
  | @turn ts es t o _ hsells ih =>
    have hts' : ∀ t ∈ ts, t.Allowed hash := fun t ht => hts t (List.mem_append_left _ ht)
    have hcharges := hsells.charges hA (hts t (by simp)) ((reaches_after hts' hw).bounded hbounded)
    have hbilled := (ih hts').turn hcharges
    rw [List.map_append]
    cases o <;> exact hbilled

def unfunded : Turn :=
  .call (some true) .system { service programsAddress "activateProgram(address)" 1 1 with caller := 2 }

theorem not_returns_unfunded {paid : Word} {r : Option Record} {p : Pricer}
    (h : w.ledger.Serves paid r p) : ¬ unfunded.Returns w := by
  rintro ⟨s, hs, hreturned⟩
  obtain ⟨l, hpaid, -⟩ := effect_of_returned hs hreturned
  have hfunds : (1 : Word) ≤ (w.ledger.account 2).balance := View.Pays.funds hpaid
  rw [h.account, Accounts.balance_move, if_neg (by decide), if_neg (by decide), account_furnished,
    if_neg (by decide), if_neg (by decide)] at hfunds
  exact absurd hfunds (by decide)

theorem allowed_unfunded : ∀ t ∈ served ++ [unfunded], t.Allowed (· = smallHash) := by
  simp only [List.forall_mem_append, List.forall_mem_singleton]
  have hservice : Callee.system.Allowed (· = smallHash)
      (service programsAddress "activateProgram(address)" 1 1) :=
    allowed_service (.inr activateProgram_ne)
  exact ⟨allowed_served, hservice⟩

theorem keepsPrices_unfunded : ∀ t ∈ served ++ [unfunded], t.KeepsPrices := by
  have hrequest : ∀ (time : Word) (c : Call), ∀ t ∈ request time c, t.KeepsPrices := by
    intro time c t ht slot v heq
    rcases List.mem_pair.mp ht with rfl | rfl <;> cases heq
  simp only [served, List.forall_mem_append, List.forall_mem_singleton]
  refine ⟨⟨⟨⟨⟨?managing, hrequest _ _⟩, hrequest _ _⟩, hrequest _ _⟩, hrequest _ _⟩, ?unfunded⟩
  case managing =>
    intro slot v heq
    obtain ⟨rfl, -⟩ := Turn.store.inj heq
    exact beside_manager.priced
  case unfunded =>
    intro slot v heq
    cases heq

/-- The two sales of the small package, and a call that fails. -/
theorem prices_replayed_served :
    let w := furnished 9
    let v := (w.after (served ++ [unfunded])).ledger.view
    w.Goes served ∧ ¬ unfunded.Returns (w.after served) ∧
      (∃ es, w.Sold (served ++ [unfunded]) es ∧
        es.map Sale.toBill = [⟨smallHash, firstFee, true⟩, ⟨smallHash, secondFee, false⟩] ∧
        w.ledger.view.pricer.replay es = (v.pricer, [firstFee.toNat, secondFee.toNat])) ∧
      v.pricer = { demand := 514048, lastUpdate := 31536000 } := by
  intro w v
  obtain ⟨hgoes, -, -, -, hserves⟩ := goes_served
  have hfails := not_returns_unfunded hserves
  obtain ⟨⟨es, hsold, hreplay⟩, hstays⟩ := prices_replayed Layout.apart_smallHash (hashed_furnished 9)
    allowed_unfunded keepsPrices_unfunded
  have hbilled := hsold.billed Layout.apart_smallHash (hashed_furnished 9) allowed_unfunded
    (healthy_furnished 9).bounded
  obtain ⟨bs, b, hbefore, hlast, hbs⟩ := hbilled.snoc
  rw [bills_served hbefore, hlast.of_fails hfails, Option.toList_none, List.append_nil] at hbs
  have hfees : es.map (fun e => e.fee.toNat) = (es.map Sale.toBill).map fun b => b.fee.toNat := by
    rw [List.map_map]
    rfl
  rw [hfees, hbs] at hreplay
  have hpricer : v.pricer = _ := (hstays served unfunded [] rfl hfails).trans hserves.pricer
  exact ⟨hgoes, hfails, ⟨es, hsold, hbs, hreplay⟩, hpricer⟩

end World
end Inkwell
