import Inkwell.Proofs.Apart
import Inkwell.Proofs.Effects
import Inkwell.Proofs.Sessions
set_option autoImplicit false

/-! Runs of a world: turn after turn something is called or deployed, or what calls read is changed.
A turn does what it is there for, or nothing lasts of it. -/

namespace Inkwell

inductive Callee where
  | program (runner : Runner)
  | system

namespace Callee

def run : Callee → Call → StateM World (Option CallResult)
  | .program runner => Call.run runner
  | .system => SystemContract.call

def Effect : Callee → Call → World → View → Prop
  | .program _ => Call.Effect
  | .system => SystemContract.Effect

theorem ends (callee : Callee) (c : Call) (w : World) :
    Call.Ends (callee.Effect c w) w ((callee.run c).run w) := by
  cases callee with
  | program runner => exact Call.run_ends runner c w
  | system => exact SystemContract.call_ends c w

def Allowed (hash : Word → Prop) (c : Call) : Callee → Prop
  | .program _ => True
  | .system => ∀ s ∈ SystemContract.renewing, c.input.take 4 = Abi.selectorOf s →
      ∀ h, SystemContract.argument? c = some h → hash h

theorem follows {R : Rules} {c : Call} (hW : ∀ f k w, R.writes.slot f k w) (callee : Callee)
    (w : World) : R.Follows w ((callee.run c).run w).2 := by
  cases callee with
  | program runner => exact Call.follows_run R runner c w
  | system => exact SystemContract.follows_call R c w fun _ _ _ h _ => Writes.renews_of_open hW h

end Callee

/-- Code is of one of these hashes unless it is no program. -/
def Hashes (hash : Word → Prop) (code : Octets) : Prop :=
  ∀ limit wasm, Package.module? limit code = .ok (some wasm) → hash (keccak code)

theorem hashes_nil {hash : Word → Prop} : Hashes hash [] := fun limit wasm h => by
  cases h

def Rules.hashed (hash : Word → Prop) : Rules where
  writes := ⟨fun _ _ _ => True, Hashes hash⟩
  cache _ := True
  none _ _ h := nomatch h
  startBlock _ _ := trivial
  touchRecent _ _ _ _ := trivial
  evict _ _ := trivial
  load _ _ _ _ := trivial
  enters _ _ _ := Writes.enters_of_open (fun _ _ _ => trivial) _ _
  renews _ := Writes.renews_of_open (fun _ _ _ => trivial) _

def Rules.compiled : Rules where
  writes := .any
  cache c := c.Genuine fun _ => True
  none := trivial
  startBlock block h := h.startBlock block
  touchRecent block module retain h := h.touchRecent block module retain
  evict module h := h.evict module
  load _ keep _ h := h.load trivial keep
  enters _ _ _ := Writes.enters_of_open (fun _ _ _ => trivial) _ _
  renews _ := Writes.renews_any _

namespace World

/-- Makes a call as it is, or in a frame, which may move its value first. -/
def invoke (frame : Option Bool) (callee : Callee) (c : Call) (w : World) :
    Option CallResult × World :=
  match frame with
  | none => (callee.run c).run w
  | some pay =>
    let (r, w) := w.frame pay c callee.run
    (r.toOption.join, w)

variable {R : Rules} {w : World} {c : Call} {callee : Callee} {frame : Option Bool}

/-- A call that returns has done what it is there for once the value was moved, if it had to be. -/
theorem invoke_ends (frame : Option Bool) (callee : Callee) (c : Call) (w : World) :
    (∃ r l, (w.invoke frame callee c).1 = some r ∧ r.succeeded = true ∧
        Paid (frame.getD false) c w.ledger.view l.view ∧
        callee.Effect c { w with ledger := l } (w.invoke frame callee c).2.ledger.view) ∨
      (∀ r, (w.invoke frame callee c).1 = some r → r.succeeded = false) ∧
        w.ledger.Undone (w.invoke frame callee c).2.ledger := by
  cases frame with
  | none =>
    rcases callee.ends c w with ⟨r, hr, hreturned, heffect⟩ | hfails
    · exact .inl ⟨r, w.ledger, hr, hreturned, rfl, heffect⟩
    · exact .inr hfails
  | some pay =>
    rcases frame_ends (callee.ends c) (callee.follows fun _ _ _ => trivial) pay (w := w) with
      ⟨r, l, hr, hreturned, hpaid, heffect⟩ | ⟨hfails, hundone⟩
    · refine .inl ⟨r, l, ?_, hreturned, hpaid, heffect⟩
      simp only [invoke, hr]
      rfl
    · refine .inr ⟨fun r hr => hfails r ?_, hundone⟩
      change ((w.frame pay c callee.run).1.toOption.join) = some r at hr
      cases hframe : (w.frame pay c callee.run).1 with
      | error e =>
        rw [hframe] at hr
        cases hr
      | ok x =>
        rw [hframe] at hr
        exact congrArg Except.ok hr

theorem Paid.same {pay : Bool} {v u : View} (h : Paid pay c v u) :
    u.slot = v.slot ∧ u.logs = v.logs ∧ ∀ a, (u.account a).code = (v.account a).code := by
  cases pay with
  | true => exact ⟨View.Pays.slot h, View.Pays.logs h, View.Pays.code h⟩
  | false =>
    rw [show u = v from h]
    exact ⟨rfl, rfl, fun _ => rfl⟩

theorem follows_invoke (hW : ∀ f k w, R.writes.slot f k w) :
    R.Follows w (w.invoke frame callee c).2 := by
  cases frame with
  | none => exact callee.follows hW w
  | some pay => exact follows_frame (callee.follows hW) pay

end World

/-- What is kept of these code hashes, the logs and the accounts are as they were. -/
structure View.Spares (hash : Word → Prop) (v u : View) : Prop where
  state : ∀ h, hash h → ∀ p : Layout.Part, u.state (p.slot h) = v.state (p.slot h)
  logs : u.logs = v.logs
  account : u.account = v.account

theorem View.spares_of_eq {hash : Word → Prop} {v u : View} (h : u = v) : v.Spares hash u := by
  rw [h]
  exact ⟨fun _ _ _ => rfl, rfl, rfl⟩

instance {hash : Word → Prop} : IsPreorder View (View.Spares hash) where
  refl _ := View.spares_of_eq rfl
  trans _ _ _ h h' := ⟨fun k hk p => (h'.state k hk p).trans (h.state k hk p), h'.logs.trans h.logs,
    h'.account.trans h.account⟩

abbrev Ledger.Seen (T : View → View → Prop) : Ledger → Ledger → Prop := InvImage T Ledger.view

namespace Access

variable {hash : Word → Prop} {slot w : Word}

theorem spares_write (hslot : ∀ h, hash h → ∀ p : Layout.Part, p.slot h ≠ slot) :
    Keeps (Ledger.Seen (View.Spares hash)) (Ledger.write (stateAccount, slot) w) := by
  have hread : Keeps (Ledger.Seen (View.Spares hash)) (Ledger.read (stateAccount, slot)) :=
    Ledger.keeps_read.mono fun _ _ h => View.spares_of_eq h.view
  refine hread.bind fun old => keeps_ite (fun _ => keeps_modify fun l => ?_) fun _ => keeps_pure _
  refine ⟨fun h hh p => ?_, rfl, rfl⟩
  change Ledger.slot { l with slots := l.slots.insert (stateAccount, slot) w } _ = _
  rw [Ledger.slot_insert, Function.update_of_ne (by simpa using hslot h hh p)]
  rfl

theorem spares_store (hslot : ∀ h, hash h → ∀ p : Layout.Part, p.slot h ≠ slot) :
    Keeps (Desk.Over (Ledger.Seen (View.Spares hash))) (store slot w) := by
  have hhold : ∀ a, Keeps (Ledger.Seen (View.Spares hash)) (Ledger.hold a) := fun _ =>
    Ledger.keeps_hold.mono fun _ _ h => View.spares_of_eq h.view
  refine keeps_get.bind fun d => keeps_guard ((keeps_pay _).bind fun _ => keeps_onLedger ?_)
  refine (hhold _).bind fun _ => (spares_write hslot).bind fun _ => keeps_modify fun l => ?_
  exact View.spares_of_eq (by simp [Ledger.view])

end Access

theorem State.spares_setParams {hash : Word → Prop} (hA : Layout.Apart hash) (p : Params) :
    Keeps (Desk.Over (Ledger.Seen (View.Spares hash))) (setParams p) :=
  (Access.spares_store fun _ hh _ => hA.shared hh (by simp [Layout.shared])).bind fun _ =>
    Access.spares_store fun _ hh _ => hA.shared hh (by simp [Layout.shared])

/-- What happens to a world between two calls, and calls themselves. -/
inductive Turn where
  /-- Made as it is, or in a frame, which may move the value first. -/
  | call (frame : Option Bool) (callee : Callee) (c : Call)
  | deploy (runner : Runner) (r : DeployRequest)
  | setParams (p : Params)
  | store (slot w : Word)
  | set (config : Config) (block : Block) (transaction : Transaction)
  | cache (k : Cache)

namespace Turn

def step (w : World) : Turn → World
  | call frame callee c => (w.invoke frame callee c).2
  | deploy runner r => (outcome (Inkwell.deploy runner r) w).2
  | setParams p => (outcome (World.onState false (State.setParams p)) w).2
  | store slot v => (outcome (World.onState false (Access.store slot v)) w).2
  | set config block transaction => { w with config, block, transaction }
  | cache k => { w with cache := k }

/-- A call or a deployment returns; there is nothing else that could fail. -/
def Returns (w : World) : Turn → Prop
  | call frame callee c => ∃ r, (w.invoke frame callee c).1 = some r ∧ r.succeeded = true
  | deploy runner r => ∃ a w', Gives (Inkwell.deploy runner r) w a w'
  | _ => True

/-- The code hashes that a turn is about are among these, and what it writes lies beside what is
kept of them. -/
def Allowed (hash : Word → Prop) : Turn → Prop
  | call _ callee c => callee.Allowed hash c
  | deploy _ r => ∀ code, r.build.code = .ok code → Hashes hash code
  | store slot _ => ∀ h, hash h → ∀ p : Layout.Part, p.slot h ≠ slot
  | _ => True

def Effect (hash : Word → Prop) (w : World) (v : View) : Turn → Prop
  | call frame callee c => ∃ l, World.Paid (frame.getD false) c w.ledger.view l.view ∧
      callee.Effect c { w with ledger := l } v
  | deploy _ r => Deploy.Effect r w v
  | _ => w.ledger.view.Spares hash v

variable {hash : Word → Prop} {w : World} {t : Turn}

theorem effect_step (hA : Layout.Apart hash) (ht : t.Allowed hash) (h : t.Returns w) :
    t.Effect hash w (t.step w).ledger.view := by
  cases t with
  | call frame callee c =>
    obtain ⟨r, hr, hreturned⟩ := h
    rcases w.invoke_ends frame callee c with ⟨-, l, -, -, hpaid, heffect⟩ | ⟨hfails, -⟩
    · exact ⟨l, hpaid, heffect⟩
    · rw [hfails r hr] at hreturned
      cases hreturned
  | deploy runner r =>
    obtain ⟨a, w', hgives⟩ := h
    have hstep : (deploy runner r).step w = w' := congrArg Prod.snd hgives
    rw [hstep]
    exact Deploy.gives_deploy hgives
  | setParams p =>
    have hspares := State.spares_setParams hA p { ledger := w.ledger }
    change View.Spares hash _ (outcome (World.onState false (State.setParams p)) w).2.ledger.view
    rw [World.outcome_onState]
    exact hspares
  | store slot v =>
    have hspares := Access.spares_store (w := v) ht { ledger := w.ledger }
    change View.Spares hash _ (outcome (World.onState false (Access.store slot v)) w).2.ledger.view
    rw [World.outcome_onState]
    exact hspares
  | set config block transaction => exact View.spares_of_eq rfl
  | cache k => exact View.spares_of_eq rfl

theorem undone_step (h : ¬ t.Returns w) : w.ledger.Undone (t.step w).ledger := by
  cases t with
  | call frame callee c =>
    rcases w.invoke_ends frame callee c with ⟨r, -, hr, hreturned, -⟩ | ⟨-, hundone⟩
    · exact absurd ⟨r, hr, hreturned⟩ h
    · exact hundone
  | deploy runner r =>
    rcases hdeploy : outcome (Inkwell.deploy runner r) w with ⟨x, w'⟩
    have hstep : (deploy runner r).step w = w' := congrArg Prod.snd hdeploy
    rw [hstep]
    cases x with
    | ok a => exact absurd ⟨a, w', hdeploy⟩ h
    | error e => exact (Deploy.leavesNothing_deploy runner r w e w' hdeploy).undone
  | _ => exact absurd trivial h

/-- Turns keep rules under which all slots are open, if what is deployed and what caches are put in
place of others is allowed. -/
theorem follows_of_open {R : Rules} (hopen : ∀ f k w, R.writes.slot f k w)
    (hcode : ∀ runner r, t = .deploy runner r → ∀ code, r.build.code = .ok code → R.writes.code code)
    (hcache : ∀ k, t = .cache k → R.cache k) : R.Follows w (t.step w) := by
  have hstore : ∀ slot v, Keeps (Desk.Over (Ledger.Reaches R.writes)) (Access.store slot v) :=
    fun _ _ => State.keeps_store fun _ => hopen _ _ _
  cases t with
  | call frame callee c => exact World.follows_invoke hopen
  | deploy runner r => exact keeps_deploy (hcode runner r rfl) w
  | setParams p => exact World.keeps_onState ((hstore _ _).bind fun _ => hstore _ _) w
  | store slot v => exact World.keeps_onState (hstore slot v) w
  | set config block transaction => exact ⟨fun hw => hw.cache, fun _ => .refl⟩
  | cache k => exact ⟨fun _ => hcache k rfl, fun _ => .refl⟩

theorem follows_step (ht : t.Allowed hash) : (Rules.hashed hash).Follows w (t.step w) := by
  refine follows_of_open (fun _ _ _ => trivial) (fun runner r h => ?_) fun _ _ => trivial
  subst h
  exact ht

def Compiled (t : Turn) : Prop := ∀ k, t = .cache k → k.Genuine fun _ => True

theorem store_step {w : World} {t : Turn} (ht : t.Allowed fun _ => True) :
    (t.step w).ledger.store = w.ledger.store := by
  have hreaches := (follows_step (w := w) ht).ledger ⟨trivial, fun _ _ _ _ => trivial⟩
  exact hreaches.store

theorem step_deploy (w : World) (runner : Runner) (r : DeployRequest) :
    (Turn.deploy runner r).step w = (outcome (Inkwell.deploy runner r) w).2 := rfl

end Turn

namespace World

variable {hash : Word → Prop} {w : World} {ts : List Turn}

def after (w : World) (ts : List Turn) : World := ts.foldl Turn.step w

@[simp] theorem after_snoc (w : World) (ts : List Turn) (t : Turn) :
    w.after (ts ++ [t]) = t.step (w.after ts) := List.foldl_concat _ _ _ _

theorem after_one (w : World) (t : Turn) : w.after [t] = t.step w := rfl

theorem after_append (w : World) (ts ts' : List Turn) : w.after (ts ++ ts') = (w.after ts).after ts' :=
  List.foldl_append

def Goes (w : World) : List Turn → Prop
  | [] => True
  | t :: ts => t.Returns w ∧ (t.step w).Goes ts

theorem goes_append {ts' : List Turn} : w.Goes (ts ++ ts') ↔ w.Goes ts ∧ (w.after ts).Goes ts' := by
  induction ts generalizing w with
  | nil => exact (iff_of_eq (true_and _)).symm
  | cons t ts ih =>
    change t.Returns w ∧ (t.step w).Goes (ts ++ ts') ↔ (t.Returns w ∧ (t.step w).Goes ts) ∧ _
    rw [ih, and_assoc]
    exact Iff.rfl

def Hashed (hash : Word → Prop) (w : World) : Prop := ∀ a, Hashes hash (w.ledger.account a).code

theorem Hashed.of_paid {l : Ledger} {c : Call} {pay : Bool} (hw : w.Hashed hash)
    (h : Paid pay c w.ledger.view l.view) : Hashed hash { w with ledger := l } := by
  intro a
  have hcode : (l.account a).code = (w.ledger.account a).code := h.same.2.2 a
  change Hashes hash (l.account a).code
  rw [hcode]
  exact hw a

theorem follows_after (hts : ∀ t ∈ ts, t.Allowed hash) :
    (Rules.hashed hash).Follows w (w.after ts) := by
  induction ts using List.reverseRecOn with
  | nil => exact Std.Refl.refl w
  | append_singleton ts t ih =>
    rw [after_snoc]
    have ht : t.Allowed hash := hts t (by simp)
    exact (ih fun t ht => hts t (List.mem_append_left _ ht)).trans (Turn.follows_step ht)

theorem hashed_after (hts : ∀ t ∈ ts, t.Allowed hash) (hw : w.Hashed hash) :
    (w.after ts).Hashed hash := ((follows_after hts).sound ⟨trivial, hw⟩).coded

/-- All that is in the caches goes on being compiled. -/
theorem genuine_after (hts : ∀ t ∈ ts, t.Compiled) (hw : w.cache.Genuine fun _ => True) :
    (w.after ts).cache.Genuine fun _ => True := by
  induction ts using List.reverseRecOn with
  | nil => exact hw
  | append_singleton ts t ih =>
    rw [after_snoc]
    have hbefore := ih fun t ht => hts t (List.mem_append_left _ ht)
    have ht : t.Compiled := hts t (by simp)
    exact (Turn.follows_of_open (R := .compiled) (fun _ _ _ => trivial)
      (fun _ _ _ _ _ => trivial) ht).cache ⟨hbefore, fun _ => trivial⟩

end World
end Inkwell
