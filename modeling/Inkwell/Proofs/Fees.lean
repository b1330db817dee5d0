import Inkwell.Proofs.Services
set_option autoImplicit false

/-! What is paid for data. Fees move from who activates programs or keeps them alive to the fee
account, a record keeps the sum of what was paid since the program was activated last, and there is
as much money as there was. -/

namespace Inkwell

open SystemContract

structure Bill where
  codeHash : Word
  fee : Word
  /-- The program was activated: what was paid for it before does not count any more. -/
  activates : Bool
  deriving DecidableEq, Repr

namespace Bill

/-- The sums of what was paid for each code hash, once this was paid too. -/
def add (sums : Word → Nat) (b : Bill) : Word → Nat :=
  Function.update sums b.codeHash (if b.activates then b.fee.toNat else sums b.codeHash + b.fee.toNat)

def sums (bs : List Bill) : Word → Nat := bs.foldl add 0

theorem sums_append (bs : List Bill) (b : Option Bill) :
    sums (bs ++ b.toList) = b.elim (sums bs) (add (sums bs)) := by
  cases b with
  | none => simp
  | some b => exact List.foldl_concat _ _ _ _

theorem sums_renewed (h fee fee' : Word) : sums [⟨h, fee, true⟩, ⟨h, fee', false⟩] h =
    fee.toNat + fee'.toNat := by
  simp [sums, add]

end Bill

namespace View

variable {hash : Word → Prop} {v v' u u' : View} {source dest : Address} {h amount w : Word}
  {r : Record} {p : Pricer} {c : Call} {sums : Word → Nat}

/-! ### Money -/

/-- A fee has gone from the value of a call to the fee account, and the rest of the value to whoever
makes the call. -/
structure Settles (c : Call) (fee : Word) (v u : View) : Prop where
  covered : fee ≤ c.value
  contract : (u.account c.target).balance.toNat + c.value.toNat = (v.account c.target).balance.toNat
  caller : (u.account c.caller).balance.toNat =
    (v.account c.caller).balance.toNat + (c.value.toNat - fee.toNat)
  receiver : (u.account v.feeAccount).balance.toNat =
    (v.account v.feeAccount).balance.toNat + fee.toNat
  others : ∀ a, a ≠ c.target → a ≠ c.caller → a ≠ v.feeAccount → u.account a = v.account a

structure Distinct (c : Call) (v : View) : Prop where
  caller : c.caller ≠ c.target
  receiver : c.target ≠ v.feeAccount
  payer : c.caller ≠ v.feeAccount

theorem Settles.log {fee : Word} {g : Log} (h : v.Settles c fee u) : v.Settles c fee (u.log g) :=
  ⟨h.covered, h.contract, h.caller, h.receiver, h.others⟩

/-- The two payments out of the value of a call settle a fee, if only records were written before. -/
theorem settles_of_pays {fee : Word} (hdistinct : Distinct c v) (haccount : v'.account = v.account)
    (hreceiver : v'.feeAccount = v.feeAccount) (hfee : fee ≤ c.value)
    (hcharged : Pays c.target v'.feeAccount fee v' u)
    (hreturned : Pays c.target c.caller (c.value - fee) u u') : v.Settles c fee u' := by
  rw [hreceiver] at hcharged
  have hcharge := (hcharged.moves hdistinct.receiver).of_account haccount
  have hreturn := hreturned.moves hdistinct.caller.symm
  have hle : fee.toNat ≤ c.value.toNat := hfee
  have hrest : (c.value - fee).toNat = c.value.toNat - fee.toNat := BitVec.toNat_sub_of_le hfee
  have hcaller := hcharge.others _ hdistinct.caller hdistinct.payer
  have hreceiver := hreturn.others _ hdistinct.receiver.symm hdistinct.payer.symm
  have hpaid := hcharge.paid
  have hback := hreturn.paid
  have hgot := hreturn.got
  rw [hcaller] at hgot
  refine ⟨hfee, by omega, by omega, by rw [hreceiver, hcharge.got], fun a ht hc hf => ?_⟩
  rw [hreturn.others a ht hc, hcharge.others a ht hf]

theorem settles_of_back (hdistinct : Distinct c v) (hback : Pays c.target c.caller c.value v u) :
    v.Settles c 0 u := by
  have hvalue : c.value - 0 = c.value := by simp
  exact settles_of_pays hdistinct rfl rfl (Nat.zero_le _) (pays_zero _ _ _) (hvalue.symm ▸ hback)

/-! ### Records -/

/-- The records of these code hashes say what was paid, as far as there is room for it. -/
def Tallies (hash : Word → Prop) (sums : Word → Nat) (v : View) : Prop := ∀ h, hash h → ∀ r,
  v.record? h = some r → r.dataFee.toNat = min (sums h) (2 ^ 256 - 1)

theorem Tallies.of_slot (htallies : v.Tallies hash sums) (hslot : u.slot = v.slot) :
    u.Tallies hash sums :=
  fun h hh r hr => htallies h hh r ((record?_of_slot hslot h).symm.trans hr)

theorem Tallies.of_spares (htallies : v.Tallies hash sums) (hspares : v.Spares hash u) :
    u.Tallies hash sums :=
  fun h hh r hr => htallies h hh r ((record?_congr fun p _ => hspares.state h hh p).symm.trans hr)

section
variable (hA : Layout.Apart hash) (htallies : v.Tallies hash sums)
include hA htallies

theorem Tallies.setPricer : (v.setPricer p).Tallies hash sums :=
  fun h hh r hr => htallies h hh r ((record?_setPricer hA hh).symm.trans hr)

variable (hh : hash h)
include hh

theorem Tallies.setModuleHash : (v.setModuleHash h w).Tallies hash sums :=
  fun _ hh' r hr => htallies _ hh' r ((record?_setModuleHash hA hh' hh).symm.trans hr)

theorem Tallies.setRecord {n : Nat} (hr : r.dataFee.toNat = min n (2 ^ 256 - 1)) :
    (v.setRecord h r).Tallies hash (Function.update sums h n) := by
  intro h' hh' r' hr'
  by_cases heq : h' = h
  · subst heq
    rw [record?_setRecord_self hA hh] at hr'
    split at hr'
    · cases hr'
    · cases hr'
      rw [Function.update_self]
      exact hr
  · rw [record?_setRecord_of_ne hA hh' hh heq] at hr'
    rw [Function.update_of_ne heq]
    exact htallies h' hh' r' hr'

theorem Tallies.activated {block : Block} {a : Activation} (ha : a.record.dataFee = a.fee) :
    (v.activated h block a).Tallies hash (Bill.add sums ⟨h, a.fee, true⟩) := by
  refine Tallies.setRecord hA ((htallies.setModuleHash hA hh).setPricer hA) hh ?_
  have hroom := a.fee.isLt
  change a.record.dataFee.toNat = min a.fee.toNat _
  rw [ha]
  omega

theorem Tallies.keptAlive {fee : Word} {params : Params} {now : Nat} (hr : v.record? h = some r) :
    ((v.setPricer p).setRecord h (r.keptAlive params now fee)).Tallies hash
      (Bill.add sums ⟨h, fee, false⟩) := by
  refine Tallies.setRecord hA (htallies.setPricer hA) hh ?_
  have hbefore := htallies h hh r hr
  change (BitVec.ofNat 256 (min (r.dataFee.toNat + fee.toNat) (2 ^ 256 - 1))).toNat =
    min (sums h + fee.toNat) _
  rw [BitVec.toNat_ofNat]
  omega

theorem Tallies.rewritten {b : Bool} (hr : v.record? h = some r) :
    (v.setRecord h { r with pinned := b }).Tallies hash sums := by
  have hwritten := Tallies.setRecord hA htallies hh (r := { r with pinned := b }) (htallies h hh r hr)
  rwa [Function.update_eq_self] at hwritten

end

end View

/-! ### What calls charge -/

/-- What a call of a program that returns has charged: nothing for an active program, and otherwise
the fee of the activation, to whoever makes the call. -/
inductive Call.Charges (c : Call) (w : World) (u : View) : Option Bill → Prop
  | ran : w.Active (keccak (w.ledger.account c.codeAt).code) → u.account = w.ledger.account →
      Charges c w u none
  | activated {codeHash : Word} {wasm : Octets} {a : Activation} {entered : View} :
      codeHash = keccak (w.ledger.account c.codeAt).code → ¬ w.Active codeHash →
      w.Activates codeHash wasm a entered →
      (c.caller ≠ w.ledger.view.feeAccount →
        w.ledger.view.Moves c.caller w.ledger.view.feeAccount a.fee u) →
      Charges c w u (some ⟨codeHash, a.fee, true⟩)

/-- What a call of a system contract that returns has charged: fees for the methods that are paid
for, out of the value, unless the program is active already, and nothing else. -/
inductive SystemContract.Charges (c : Call) (w : World) (u : View) : Option Bill → Prop
  | nothing : Idle c → u.account = w.ledger.account → Charges c w u none
  | handedBack {arg : Word} {r : Record} : Asks c programsAddress "activateProgram(address)" →
      argument? c = some arg →
      w.ledger.view.Current w.now (w.ledger.view.codeHash (Address.ofWord arg)) r →
      (w.ledger.view.Distinct c → w.ledger.view.Settles c 0 u) → Charges c w u none
  | activated {arg codeHash : Word} {wasm : Octets} {a : Activation} {entered : View} :
      Asks c programsAddress "activateProgram(address)" → argument? c = some arg →
      codeHash = keccak (w.ledger.account (Address.ofWord arg)).code →
      (∀ r, ¬ w.ledger.view.Current w.now codeHash r) → w.Activates codeHash wasm a entered →
      a.fee ≤ c.value → (w.ledger.view.Distinct c → w.ledger.view.Settles c a.fee u) →
      Charges c w u (some ⟨codeHash, a.fee, true⟩)
  | keptAlive {codeHash fee : Word} {r : Record} :
      Asks c programsAddress "codehashKeepalive(bytes32)" → argument? c = some codeHash →
      w.ledger.view.Current w.now codeHash r →
      fee = BitVec.ofNat 256 (w.ledger.view.priced (UInt32.ofNat r.asmSize) w.now).2 →
      fee ≤ c.value → (w.ledger.view.Distinct c → w.ledger.view.Settles c fee u) →
      Charges c w u (some ⟨codeHash, fee, false⟩)

namespace SystemContract.Charges

variable {c : Call} {w : World} {u : View} {b : Option Bill} {arg h : Word} {r : Record}

theorem of_idle (hcharges : Charges c w u b) (hidle : Idle c) : b = none := by
  have hnever : ∀ s ∈ paying, Asks c programsAddress s → False := fun s hs hasks =>
    hidle hasks.codeAt s hs hasks.selector
  cases hcharges with
  | nothing => rfl
  | handedBack => rfl
  | activated hasks => exact (hnever _ (by simp [paying]) hasks).elim
  | keptAlive hasks => exact (hnever _ (by simp [paying]) hasks).elim

theorem of_activation (hcharges : Charges c w u b)
    (hasks : Asks c programsAddress "activateProgram(address)") (harg : argument? c = some arg)
    (hhash : h = keccak (w.ledger.account (Address.ofWord arg)).code)
    (hcode : w.ledger.view.codeHash (Address.ofWord arg) = h)
    (hnone : ∀ r, ¬ w.ledger.view.Current w.now h r) :
    ∃ fee, b = some ⟨h, fee, true⟩ ∧ (w.ledger.view.Distinct c → w.ledger.view.Settles c fee u) := by
  cases hcharges with
  | nothing hidle => exact absurd hasks.selector (hidle hasks.codeAt _ (by simp [paying]))
  | handedBack _ harg' hcurrent =>
    obtain rfl := Option.some.inj (harg.symm.trans harg')
    exact absurd (hcode ▸ hcurrent) (hnone _)
  | activated _ harg' hhash' _ _ _ hsettles =>
    obtain rfl := Option.some.inj (harg.symm.trans harg')
    obtain rfl := hhash.trans hhash'.symm
    exact ⟨_, rfl, hsettles⟩
  | keptAlive hasks' => exact absurd hasks' hasks.not_keepalive

theorem of_keepalive (hcharges : Charges c w u b)
    (hasks : Asks c programsAddress "codehashKeepalive(bytes32)") (harg : argument? c = some h) :
    ∃ fee, b = some ⟨h, fee, false⟩ ∧ (w.ledger.view.Distinct c → w.ledger.view.Settles c fee u) := by
  cases hcharges with
  | nothing hidle => exact absurd hasks.selector (hidle hasks.codeAt _ (by simp [paying]))
  | handedBack hasks' => exact absurd hasks hasks'.not_keepalive
  | activated hasks' => exact absurd hasks hasks'.not_keepalive
  | keptAlive _ harg' _ _ _ hsettles =>
    obtain rfl := Option.some.inj (harg.symm.trans harg')
    exact ⟨_, rfl, hsettles⟩

end SystemContract.Charges

section
variable {hash : Word → Prop} {w : World} {c : Call} {u v : View} {sums : Word → Nat} {h : Word}
  {wasm : Octets} {a : Activation}

theorem World.Activates.fee (hactivates : w.Activates h wasm a v) : a.record.dataFee = a.fee := by
  obtain ⟨artifact, ha⟩ := hactivates.activation
  rw [ha]
  rfl

theorem World.Activates.tallies (hA : Layout.Apart hash) (hh : hash h)
    (hactivates : w.Activates h wasm a v) (htallies : w.ledger.view.Tallies hash sums) :
    v.Tallies hash (Bill.add sums ⟨h, a.fee, true⟩) := by
  rw [hactivates.view]
  exact htallies.activated hA hh hactivates.fee

section
variable {entered : View} {fee : Word}

theorem Call.charges_activated (hA : Layout.Apart hash) (hh : hash h)
    (hhash : h = keccak (w.ledger.account c.codeAt).code) (hinactive : ¬ w.Active h)
    (hactivates : w.Activates h wasm a entered)
    (hpays : View.Pays c.caller entered.feeAccount a.fee entered u) :
    Call.Charges c w u (some ⟨h, a.fee, true⟩) := by
  obtain ⟨haccount, hreceiver⟩ := hactivates.same hA hh
  refine .activated hhash hinactive hactivates fun hne => ?_
  rw [hreceiver] at hpays
  exact (hpays.moves hne).of_account haccount

namespace SystemContract

variable {g : Log} (hA : Layout.Apart hash) (hh : hash h) (hcovered : fee ≤ c.value)
include hA hh hcovered

theorem charges_activated {arg : Word} (hasks : Asks c programsAddress "activateProgram(address)")
    (harg : argument? c = some arg)
    (hhash : h = keccak (w.ledger.account (Address.ofWord arg)).code)
    (hnone : ∀ r, ¬ w.ledger.view.Current w.now h r) (hactivates : w.Activates h wasm a entered)
    (hfee : a.fee = fee) (hcharged : View.Pays c.target entered.feeAccount fee entered u)
    (hback : View.Pays c.target c.caller (c.value - fee) u v) :
    Charges c w (v.log g) (some ⟨h, fee, true⟩) := by
  subst hfee
  obtain ⟨haccount, hreceiver⟩ := hactivates.same hA hh
  refine .activated hasks harg hhash hnone hactivates hcovered fun hdistinct => ?_
  exact (View.settles_of_pays hdistinct haccount hreceiver hcovered hcharged hback).log

theorem charges_keptAlive {r r' : Record} {p : Pricer}
    (hasks : Asks c programsAddress "codehashKeepalive(bytes32)") (harg : argument? c = some h)
    (hcurrent : w.ledger.view.Current w.now h r)
    (hprice : fee = BitVec.ofNat 256 (w.ledger.view.priced (UInt32.ofNat r.asmSize) w.now).2)
    (hentered : entered = (w.ledger.view.setPricer p).setRecord h r')
    (hcharged : View.Pays c.target entered.feeAccount fee entered u)
    (hback : View.Pays c.target c.caller (c.value - fee) u v) :
    Charges c w (v.log g) (some ⟨h, fee, false⟩) := by
  have haccount : entered.account = w.ledger.view.account := by
    rw [hentered]
    rfl
  have hreceiver : entered.feeAccount = w.ledger.view.feeAccount := by
    rw [hentered, (View.rests_renewed hh).feeAccount hA]
  refine .keptAlive hasks harg hcurrent hprice hcovered fun hdistinct => ?_
  exact (View.settles_of_pays hdistinct haccount hreceiver hcovered hcharged hback).log

end SystemContract
end

theorem Call.Effect.charges (hA : Layout.Apart hash)
    (hw : Hashes hash (w.ledger.account c.codeAt).code) (h : Call.Effect c w v) :
    ∃ b, Call.Charges c w v b ∧
      ∀ sums, w.ledger.view.Tallies hash sums → v.Tallies hash (b.elim sums (Bill.add sums)) := by
  cases h with
  | ran hactive => exact ⟨none, .ran hactive rfl, fun _ => id⟩
  | @activated codeHash wasm a entered _ hhash hinactive _ _ hmodule hactivates hpays =>
    have hh : hash codeHash := hhash ▸ hw _ _ hmodule
    exact ⟨_, charges_activated hA hh hhash hinactive hactivates hpays, fun sums htallies =>
      (hactivates.tallies hA hh htallies).of_slot hpays.slot⟩

theorem SystemContract.Effect.charges (hA : Layout.Apart hash) (hw : w.Hashed hash)
    (hc : Callee.system.Allowed hash c) (h : SystemContract.Effect c w v) :
    ∃ b, SystemContract.Charges c w v b ∧
      ∀ sums, w.ledger.view.Tallies hash sums → v.Tallies hash (b.elim sums (Bill.add sums)) := by
  cases h with
  | nothing hidle => exact ⟨none, .nothing hidle rfl, fun _ => id⟩
  | handedBack hasks harg hcurrent hpays =>
    exact ⟨none, .handedBack hasks harg hcurrent fun hdistinct => View.settles_of_back hdistinct hpays,
      fun _ htallies => htallies.of_slot hpays.slot⟩
  | @activated arg codeHash wasm a entered u v hasks harg hhash hmodule hnone hactivates hcovered hfee
      hback =>
    have hh : hash codeHash := hhash ▸ hw _ _ _ hmodule
    exact ⟨_, charges_activated hA hh hcovered hasks harg hhash hnone hactivates rfl hfee hback,
      fun sums htallies => (hactivates.tallies hA hh htallies).of_slot (hback.slot.trans hfee.slot)⟩
  | @keptAlive codeHash fee r renewed u v hasks harg hcurrent _ hprice hrenewed hcovered hfee hback =>
    have hh : hash codeHash := hc _ (by simp [renewing]) hasks.selector _ harg
    refine ⟨_, charges_keptAlive hA hh hcovered hasks harg hcurrent hprice hrenewed hfee hback,
      fun sums htallies => View.Tallies.of_slot ?_ (hback.slot.trans hfee.slot)⟩
    rw [hrenewed]
    exact htallies.keptAlive hA hh hcurrent.record
  | @pinned arg codeHash wasm r hasks _ hhash hmodule _ hcurrent =>
    have hh : hash codeHash := hhash ▸ hw _ _ _ hmodule
    exact ⟨none, .nothing (idle_of_pinning hasks.codeAt) rfl, fun sums htallies =>
      View.Tallies.rewritten hA (htallies.of_slot rfl) hh hcurrent.record⟩
  | @unpinned codeHash r hasks harg _ hrecord =>
    have hh : hash codeHash := hc _ (by simp [renewing]) hasks.selector _ harg
    exact ⟨none, .nothing (idle_of_pinning hasks.codeAt) rfl, fun sums htallies =>
      View.Tallies.rewritten hA (htallies.of_slot rfl) hh hrecord⟩

end

/-! ### What turns charge -/

/-- What a deployment that succeeds has charged: nothing but the value for the constructor, and what
its call charges. -/
inductive Deploy.Charges (r : DeployRequest) (w : World) (u : View) : Option Bill → Prop
  | placed : (∀ a, (u.account a).balance = (w.ledger.account a).balance) → Charges r w u none
  | constructed {l m : Ledger} {address : Address} {b : Option Bill} : w.ledger.Funded l →
      View.Pays r.caller address r.value l.view m.view →
      Call.Charges (constructorCall r address) { w with ledger := m } u b → Charges r w u b

def Callee.Charges : Callee → Call → World → View → Option Bill → Prop
  | .program _ => Call.Charges
  | .system => SystemContract.Charges

/-- What a turn has charged: a call or a deployment that returns charges what it says, once the value
is paid, and no other turn moves any money. -/
inductive Turn.Charges (w : World) (u : View) : Turn → Option Bill → Prop
  | undone {t : Turn} : ¬ t.Returns w → u.account = w.ledger.account → Charges w u t none
  | called {frame : Option Bool} {callee : Callee} {c : Call} {l : Ledger} {b : Option Bill} :
      (Turn.call frame callee c).Returns w → World.Paid (frame.getD false) c w.ledger.view l.view →
      callee.Charges c { w with ledger := l } u b → Charges w u (.call frame callee c) b
  | deployed {runner : Runner} {r : DeployRequest} {b : Option Bill} :
      (Turn.deploy runner r).Returns w → Deploy.Charges r w u b → Charges w u (.deploy runner r) b
  | beside {t : Turn} : (∀ frame callee c, t ≠ .call frame callee c) →
      (∀ runner r, t ≠ .deploy runner r) → u.account = w.ledger.account → Charges w u t none

theorem Turn.Charges.of_call {w : World} {u : View} {frame : Option Bool} {callee : Callee} {c : Call}
    {b : Option Bill} (h : Turn.Charges w u (.call frame callee c) b)
    (hreturns : (Turn.call frame callee c).Returns w) : ∃ l : Ledger,
      World.Paid (frame.getD false) c w.ledger.view l.view ∧
      callee.Charges c { w with ledger := l } u b := by
  cases h with
  | undone hfails => exact absurd hreturns hfails
  | called _ hpaid hcharges => exact ⟨_, hpaid, hcharges⟩
  | beside hcall => exact absurd rfl (hcall _ _ _)

theorem Turn.Charges.of_fails {w : World} {u : View} {t : Turn} {b : Option Bill}
    (h : t.Charges w u b) (hfails : ¬ t.Returns w) : b = none := by
  cases h with
  | undone => rfl
  | called hreturns => exact absurd hreturns hfails
  | deployed hreturns => exact absurd hreturns hfails
  | beside => rfl

theorem Turn.Charges.of_beside {w : World} {u : View} {t : Turn} {b : Option Bill}
    (h : t.Charges w u b) (hcall : ∀ frame callee c, t ≠ .call frame callee c)
    (hdeploy : ∀ runner r, t ≠ .deploy runner r) : b = none := by
  cases h with
  | undone => rfl
  | called => exact absurd rfl (hcall _ _ _)
  | deployed => exact absurd rfl (hdeploy _ _)
  | beside => rfl

section
variable {hash : Word → Prop} {w : World} {v : View}

theorem Deploy.Effect.charges (hA : Layout.Apart hash) {r : DeployRequest}
    (hcode : ∀ code, r.build.code = .ok code → Hashes hash code) (h : Deploy.Effect r w v) :
    ∃ b, Deploy.Charges r w v b ∧
      ∀ sums, w.ledger.view.Tallies hash sums → v.Tallies hash (b.elim sums (Bill.add sums)) := by
  cases h with
  | placed hfunded =>
    exact ⟨none, .placed hfunded.balance, fun _ htallies => htallies.of_slot hfunded.slot⟩
  | @constructed l m address _ hfunded hpays hbuild heffect =>
    obtain ⟨b, hcharges, hsum⟩ := Call.Effect.charges hA (hcode _ hbuild) heffect
    exact ⟨b, .constructed hfunded hpays hcharges, fun sums htallies =>
      hsum sums (htallies.of_slot (hpays.slot.trans hfunded.slot))⟩

theorem Callee.charges (hA : Layout.Apart hash) {callee : Callee} {c : Call} (hw : w.Hashed hash)
    (hc : callee.Allowed hash c) (h : callee.Effect c w v) :
    ∃ b, callee.Charges c w v b ∧
      ∀ sums, w.ledger.view.Tallies hash sums → v.Tallies hash (b.elim sums (Bill.add sums)) := by
  cases callee with
  | program runner => exact Call.Effect.charges hA (hw _) h
  | system => exact SystemContract.Effect.charges hA hw hc h

/-- What a turn has charged is what the record then says besides. -/
theorem Turn.charges_step (hA : Layout.Apart hash) {t : Turn} (hw : w.Hashed hash)
    (ht : t.Allowed hash) (hbounded : w.ledger.Bounded) :
    ∃ b, t.Charges w (t.step w).ledger.view b ∧ ∀ sums, w.ledger.view.Tallies hash sums →
      (t.step w).ledger.view.Tallies hash (b.elim sums (Bill.add sums)) := by
  by_cases hreturns : t.Returns w
  · have heffect := effect_step hA ht hreturns
    cases t with
    | call frame callee c =>
      obtain ⟨l, hpaid, heffect⟩ := heffect
      obtain ⟨b, hcharges, hsum⟩ := Callee.charges hA (hw.of_paid hpaid) ht heffect
      exact ⟨b, .called hreturns hpaid hcharges, fun sums htallies =>
        hsum sums (htallies.of_slot hpaid.same.1)⟩
    | deploy runner r =>
      obtain ⟨b, hcharges, hsum⟩ := Deploy.Effect.charges hA ht heffect
      exact ⟨b, .deployed hreturns hcharges, hsum⟩
    | _ =>
      have hspares : w.ledger.view.Spares hash _ := heffect
      exact ⟨none, .beside (fun _ _ _ => nofun) (fun _ _ => nofun) hspares.account,
        fun _ htallies => htallies.of_spares hspares⟩
  · have hundone := undone_step hreturns
    exact ⟨none, .undone hreturns (hundone.account hbounded), fun _ htallies =>
      htallies.of_slot hundone.slot⟩

end

/-! ### Runs -/

namespace World

/-- What was paid in a run, turn after turn. -/
inductive Billed (w : World) : List Turn → List Bill → Prop
  | start : Billed w [] []
  | turn {ts : List Turn} {bs : List Bill} {t : Turn} {b : Option Bill} : Billed w ts bs →
      t.Charges (w.after ts) (t.step (w.after ts)).ledger.view b →
      Billed w (ts ++ [t]) (bs ++ b.toList)

variable {hash : Word → Prop} {w : World} {ts : List Turn}

theorem reaches_after (hts : ∀ t ∈ ts, t.Allowed hash) (hw : w.Hashed hash) :
    w.ledger.Reaches (Rules.hashed hash).writes (w.after ts).ledger :=
  (follows_after hts).ledger ⟨trivial, hw⟩

section
variable (hA : Layout.Apart hash) (hw : w.Hashed hash) (hts : ∀ t ∈ ts, t.Allowed hash)
include hA hw hts

theorem billed_after (hbounded : w.ledger.Bounded)
    (htallies : w.ledger.view.Tallies hash (Bill.sums [])) :
    ∃ bs, w.Billed ts bs ∧ (w.after ts).ledger.view.Tallies hash (Bill.sums bs) := by
  induction ts using List.reverseRecOn with
  | nil => exact ⟨[], .start, htallies⟩
  | append_singleton ts t ih =>
    have hts' : ∀ t ∈ ts, t.Allowed hash := fun t ht => hts t (List.mem_append_left _ ht)
    obtain ⟨bs, hbilled, hsums⟩ := ih hts'
    obtain ⟨b, hcharges, hsum⟩ := Turn.charges_step hA (hashed_after hts' hw) (hts t (by simp))
      ((reaches_after hts' hw).bounded hbounded)
    refine ⟨bs ++ b.toList, hbilled.turn hcharges, ?_⟩
    rw [after_snoc, Bill.sums_append]
    exact hsum _ hsums

/-- In every run from a state with no records, in which all the money there is fits a word: what each
turn charges is paid in full, by whoever owes it, to the fee account; each record says what was paid
for its program since it was activated last; and there is as much money as there was. -/
theorem fees_paid (hnone : ∀ h, hash h → w.ledger.view.record? h = none)
    (hbounded : w.ledger.Bounded) :
    (∃ bs, w.Billed ts bs ∧ (w.after ts).ledger.view.Tallies hash (Bill.sums bs)) ∧
      (w.after ts).ledger.supply = w.ledger.supply := by
  refine ⟨billed_after hA hw hts hbounded fun h hh r hr => ?_, ?_⟩
  · rw [hnone h hh] at hr
    cases hr
  · obtain ⟨ds, hundoes⟩ := (reaches_after hts hw).undoes
    exact hundoes.supply hbounded

end

theorem Billed.snoc {t : Turn} {bs : List Bill} (h : w.Billed (ts ++ [t]) bs) : ∃ bs₀ b,
    w.Billed ts bs₀ ∧ t.Charges (w.after ts) (t.step (w.after ts)).ledger.view b ∧
      bs = bs₀ ++ b.toList := by
  generalize hts : ts ++ [t] = ts' at h
  cases h with
  | start => exact absurd hts (by simp)
  | turn hbilled hcharges =>
    obtain ⟨rfl, hlast⟩ := List.append_inj' hts rfl
    obtain rfl := List.singleton_inj.mp hlast
    exact ⟨_, _, hbilled, hcharges, rfl⟩

theorem Billed.nil {bs : List Bill} (h : w.Billed [] bs) : bs = [] := by
  generalize hts : ([] : List Turn) = ts at h
  cases h with
  | start => rfl
  | turn => simp at hts

theorem Billed.asked {time : Word} {c : Call} {bs : List Bill}
    (h : w.Billed (ts ++ request time c) bs) (hgoes : (w.after ts).Goes (request time c)) :
    ∃ bs₀ l b, w.Billed ts bs₀ ∧
      View.Pays c.caller c.target c.value (w.after ts).ledger.view l.view ∧
      SystemContract.Charges c { (w.after ts).timed time with ledger := l }
        ((w.after ts).after (request time c)).ledger.view b ∧ bs = bs₀ ++ b.toList := by
  have hsplit : ts ++ request time c =
      ts ++ [.set {} { timestamp := time } {}] ++ [.call (some true) .system c] := by
    simp [request]
  rw [hsplit] at h
  obtain ⟨bs₁, b, hset, hcall, hbs⟩ := h.snoc
  obtain ⟨bs₀, b₀, hbefore, hnone, hbs₁⟩ := hset.snoc
  rw [hnone.of_beside (fun _ _ _ => nofun) (fun _ _ => nofun), Option.toList_none,
    List.append_nil] at hbs₁
  rw [after_snoc] at hcall
  obtain ⟨l, hmoved, hcharges⟩ := hcall.of_call hgoes.2.1
  exact ⟨bs₀, l, b, hbefore, hmoved, hcharges, hbs₁ ▸ hbs⟩

section
variable {l : Ledger} {b : Option Bill} {paid fee value arg : Word} {r r' : Option Record}
  {p p' : Pricer} {n : Ledger} {signature : String}

theorem fee_of_serves (h : w.ledger.Serves paid r p) (h' : n.Serves (paid + fee) r' p') {fee' : Word}
    (hmoved : View.Pays 9 programsAddress value w.ledger.view l.view)
    (hsettles : l.view.Distinct (service programsAddress signature value arg) →
      l.view.Settles (service programsAddress signature value arg) fee' n.view) : fee' = fee := by
  have hreceiver : l.view.feeAccount = 0 := (View.feeAccount_of_slot hmoved.slot).trans h.receiver
  have hcaller : (9 : Address) ≠ programsAddress := by decide
  have hcontract : programsAddress ≠ 0 := by decide
  have hpayer : (9 : Address) ≠ 0 := by decide
  have hsettled := hsettles ⟨hcaller, hreceiver ▸ hcontract, hreceiver ▸ hpayer⟩
  have hgot := hsettled.receiver
  rw [hreceiver] at hgot
  have hbefore : (l.account 0).balance = paid := by
    have hsame := (hmoved.moves hcaller).others 0 hpayer.symm hcontract.symm
    exact (congrArg Account.balance hsame).trans h.received
  change (n.account 0).balance.toNat = (l.account 0).balance.toNat + _ at hgot
  rw [h'.received, hbefore] at hgot
  have hsum : paid + fee' = paid + fee := by
    refine BitVec.eq_of_toNat_eq ?_
    rw [BitVec.toNat_add, ← hgot, Nat.mod_eq_of_lt (paid + fee).isLt]
  exact add_left_cancel hsum

theorem charges_activating {time : Word} (h : w.ledger.Serves 0 none {})
    (h' : n.Serves firstFee (some enteredRecord) firstSale.1)
    (hmoved : View.Pays 9 programsAddress value w.ledger.view l.view)
    (hcharges : SystemContract.Charges (service programsAddress "activateProgram(address)" value 1)
      { w.timed time with ledger := l } n.view b) : b = some ⟨smallHash, firstFee, true⟩ := by
  have hat : Address.ofWord 1 = 1 := by decide
  have hcode : (l.account 1).code = smallPackage := (hmoved.code 1).trans h.code
  have hhash : smallHash = keccak (l.account (Address.ofWord 1)).code := by
    rw [hat, hcode, keccak_smallPackage]
  have hmodule :
      Package.module? 131072 (l.account (Address.ofWord 1)).code = .ok (some smallModule) := by
    rw [hat, hcode]
    exact module?_smallPackage
  obtain ⟨fee, hb, hsettles⟩ := hcharges.of_activation asks_service argument_service hhash
    ((codeHash_of_module (v := l.view) hmodule).trans hhash.symm) fun r hr => by
      have hrecord := hr.record
      rw [show (l.view.record? smallHash) = none from
        (View.record?_of_slot hmoved.slot smallHash).trans h.record] at hrecord
      cases hrecord
  have h'' : n.Serves (0 + firstFee) (some enteredRecord) firstSale.1 := by rwa [zero_add]
  rw [hb, fee_of_serves h h'' hmoved hsettles]

theorem charges_keeping {time : Word} (h : w.ledger.Serves paid r p) (h' : n.Serves (paid + fee) r' p')
    (hmoved : View.Pays 9 programsAddress value w.ledger.view l.view)
    (hcharges : SystemContract.Charges
      (service programsAddress "codehashKeepalive(bytes32)" value arg)
        { w.timed time with ledger := l } n.view b) :
    b = some ⟨arg, fee, false⟩ := by
  obtain ⟨fee', hb, hsettles⟩ := hcharges.of_keepalive asks_service argument_service
  rw [hb, fee_of_serves h h' hmoved hsettles]

end

/-- What the small package is charged: the activation and the keepalive, and nothing for the rest. -/
theorem bills_served {bs : List Bill} (h : (furnished 9).Billed served bs) :
    bs = [⟨smallHash, firstFee, true⟩, ⟨smallHash, secondFee, false⟩] := by
  obtain ⟨hgoes, h₁, h₂, -, -⟩ := goes_served
  simp only [served, goes_append] at hgoes
  obtain ⟨⟨⟨⟨-, hgoes₁⟩, hgoes₂⟩, hgoes₃⟩, hgoes₄⟩ := hgoes
  obtain ⟨bs₃, l₄, b₄, hbilled₃, -, hcharges₄, rfl⟩ := Billed.asked h hgoes₄
  obtain ⟨bs₂, l₃, b₃, hbilled₂, -, hcharges₃, rfl⟩ := Billed.asked hbilled₃ hgoes₃
  obtain ⟨bs₁, l₂, b₂, hbilled₁, hmoved₂, hcharges₂, rfl⟩ := Billed.asked hbilled₂ hgoes₂
  obtain ⟨bs₀, l₁, b₁, hbilled₀, hmoved₁, hcharges₁, rfl⟩ := Billed.asked hbilled₁ hgoes₁
  have h₀ : ((furnished 9).after [managing]).ledger.Serves 0 none {} := by
    rw [after_one]
    exact serves_managing
  have hkept : b₂ = some ⟨smallHash, secondFee, false⟩ := by
    rw [after_append _ _ keeping, keeping] at h₂
    exact charges_keeping h₁ h₂ hmoved₂ hcharges₂
  have hentered : b₁ = some ⟨smallHash, firstFee, true⟩ := by
    rw [after_append, activating] at h₁
    exact charges_activating h₀ h₁ hmoved₁ hcharges₁
  have hstart : (furnished 9).Billed ([] ++ [managing]) bs₀ := hbilled₀
  obtain ⟨bs, b, hbilled, hnone, rfl⟩ := hstart.snoc
  rw [hcharges₄.of_idle (idle_of_pinning rfl), hcharges₃.of_idle (idle_of_pinning rfl), hkept, hentered,
    hbilled.nil, hnone.of_beside (by simp [managing]) (by simp [managing])]
  rfl

/-- Account nine pays for the activation and for the keepalive of the small package, and nothing for the
rest. -/
theorem fees_paid_served :
    let w := furnished 9
    w.Goes served ∧ w.Billed served [⟨smallHash, firstFee, true⟩, ⟨smallHash, secondFee, false⟩] ∧
      (∃ r, (w.after served).ledger.view.record? smallHash = some r ∧
        r.dataFee.toNat = firstFee.toNat + secondFee.toNat) ∧
      (w.after served).ledger.account =
        Accounts.move 9 0 (firstFee + secondFee) w.ledger.account ∧
      (w.after served).ledger.supply = w.ledger.supply := by
  intro w
  obtain ⟨hgoes, -, -, -, hserves⟩ := goes_served
  obtain ⟨⟨bs, hbilled, htallies⟩, hsupply⟩ := fees_paid Layout.apart_smallHash (hashed_furnished 9)
    allowed_served (fun h _ => record_furnished 9 h) (healthy_furnished 9).bounded
  obtain rfl := bills_served hbilled
  refine ⟨hgoes, hbilled, ⟨renewedRecord, hserves.record, ?_⟩, hserves.account, hsupply⟩
  have htold := htallies smallHash rfl renewedRecord hserves.record
  obtain ⟨hfirst, hsecond⟩ := fees_le
  have hroom : max64 + max64 ≤ 2 ^ 256 - 1 := by decide
  rw [htold, Bill.sums_renewed]
  omega

/-! ### Money that does not fit

If there is more money than fits a word, a receiver may have no room. The sender has paid by then,
and a payment that fails is not listed among the changes to take back. -/

def crowded : Address := 0xe536720791a7dadbebdbcd8c8546fb0791a11901

theorem created_crowded : Address.created 2 0 = crowded := by
  rw [Address.created, keccak, Keccak.digest_eq]
  decide +kernel

/-- The account to be created has all the money that fits an account, and its creator has more. -/
def overfull : World where
  ledger := { store := {
    accounts := (Table.empty.insert 2 { balance := 1 }).insert
      crowded { balance := BitVec.allOnes 256 } } }
  cache := .ofCapacity 1

def overpaid : DeployRequest where
  build := ⟨.package, [0xef, 0xf0, 0x00, 0x00]⟩
  caller := 2
  value := 1

theorem account_overfull (a : Address) : overfull.ledger.account a =
    if a = crowded then { balance := BitVec.allOnes 256 }
    else if a = 2 then { balance := 1 } else {} := by
  have hstored : overfull.ledger.account a = overfull.ledger.store.account a := rfl
  rw [hstored]
  unfold Store.account overfull
  simp only [Table.get?_insert]
  split_ifs <;> rfl

def placing : Deploy.DeployM Address := do
  let target ← Deploy.onLedger (Ledger.hold crowded)
  if target.nonce ≠ 0 ∨ target.code ≠ [] then
    throw (.addressInUse crowded)
  World.atomically (Deploy.install quiet overpaid 2 crowded [0xef, 0xf0, 0x00, 0x00])
  pure crowded

def opened : World := (outcome (Deploy.onLedger (Ledger.hold 2)) overfull).2

theorem newAddress_overpaid (init : Octets) :
    Gives (Deploy.newAddress overpaid 2 init) overfull crowded opened := by
  have hheld : Gives (Deploy.onLedger (Ledger.hold 2)) overfull ⟨{ balance := 1 }, true, false⟩
      opened := rfl
  exact hheld.bind (gives_pure.mpr ⟨created_crowded, rfl⟩)

theorem deploy_overpaid : outcome (deploy quiet overpaid) overfull = outcome placing opened := by
  have hcode : Gives (Deploy.orFail overpaid.build.code) overfull [0xef, 0xf0, 0x00, 0x00] overfull :=
    rfl
  have hinit : Gives (Deploy.orFail (InitCode.ofCode [0xef, 0xf0, 0x00, 0x00])) overfull _ overfull :=
    rfl
  have hget : Gives (get : Deploy.DeployM World) overfull overfull overfull := rfl
  have hcreator : Deploy.creator overfull overpaid = 2 := rfl
  unfold deploy placing
  rw [hcode.outcome_bind, hinit.outcome_bind, hget.outcome_bind]
  dsimp only
  rw [if_neg (by decide), hcreator, (newAddress_overpaid _).outcome_bind]

theorem held_overpaid : ((Turn.deploy quiet overpaid).step overfull).ledger.held.entries =
    [(2, ⟨{ balance := 0 }, true, false⟩),
      (crowded, ⟨{ balance := BitVec.allOnes 256 }, true, false⟩)] := by
  rw [Turn.step_deploy, deploy_overpaid]
  decide +kernel

/-- The deployer has paid, and nobody was paid. -/
theorem account_overpaid : ((Turn.deploy quiet overpaid).step overfull).ledger.account =
    Accounts.adjustBalance 2 (· - 1) overfull.ledger.account := by
  have hstore := Turn.store_step (w := overfull) (t := .deploy quiet overpaid) fun _ _ _ _ _ => trivial
  have hheld := held_overpaid
  generalize ((Turn.deploy quiet overpaid).step overfull).ledger = l at hstore hheld
  have hget : ∀ a, l.held.get? a = if 2 = a then some ⟨{ balance := 0 }, true, false⟩
      else if crowded = a then some ⟨{ balance := BitVec.allOnes 256 }, true, false⟩ else none := by
    intro a
    unfold Table.get?
    rw [hheld]
    rfl
  have hne : (2 : Address) ≠ crowded := by decide
  funext a
  unfold Accounts.adjustBalance
  by_cases hpayer : 2 = a
  · subst hpayer
    rw [Function.update_self, account_overfull, if_neg hne, if_pos rfl]
    exact Ledger.account_eq ((hget 2).trans (if_pos rfl))
  rw [Function.update_of_ne (Ne.symm hpayer)]
  by_cases hfull : crowded = a
  · subst hfull
    have hfilled : l.held.get? crowded = some ⟨{ balance := BitVec.allOnes 256 }, true, false⟩ := by
      rw [hget, if_neg hne, if_pos rfl]
    rw [account_overfull, if_pos rfl, Ledger.account_eq hfilled]
  · have hnone := hget a
    rw [if_neg hpayer, if_neg hfull] at hnone
    exact Ledger.account_of_stored hstore hnone rfl

/-- A deployment whose account has no room for its value fails, and costs the value. -/
theorem supply_overpaid :
    let w := overfull
    let ts := [Turn.deploy quiet overpaid]
    (∀ h, w.ledger.view.record? h = none) ∧ overpaid.caller ≠ w.ledger.view.feeAccount ∧
      (w.after ts).ledger.supply ≠ w.ledger.supply := by
  refine ⟨fun _ => rfl, by decide, ?_⟩
  have hfunds : (1 : Word) ≤ (overfull.ledger.account 2).balance := by
    rw [account_overfull, if_neg (by decide), if_pos rfl]
    exact Nat.le_refl _
  have hspent := Accounts.supply_spend hfunds
  have hpaid : (1 : Word).toNat = 1 := by decide
  rw [← account_overpaid, hpaid] at hspent
  have hless : ∀ {m n : Nat}, m + 1 = n → m ≠ n := by omega
  rw [after_one, Ledger.supply, Ledger.supply]
  exact hless hspent

end World
end Inkwell
