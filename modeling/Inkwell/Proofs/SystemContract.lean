import Inkwell.Proofs.Calls
import Inkwell.SystemContract.Call
set_option autoImplicit false

/-! How far a method of a system contract can get, whether it returns or not. -/

namespace Inkwell

namespace SystemContract

variable {R : Rules} {α : Type} {c : Call} {f g : Frame} {args : Octets}

abbrev Frame.Over (T : World → World → Prop) : Frame → Frame → Prop := InvImage T Frame.world

/-- Nothing that lasts has changed but for logs. -/
structure Frame.Same (f g : Frame) : Prop where
  account : g.world.ledger.account = f.world.ledger.account
  slot : g.world.ledger.slot = f.world.ledger.slot

theorem Frame.Same.trans {f g h : Frame} (hf : f.Same g) (hg : g.Same h) : f.Same h :=
  ⟨hg.account.trans hf.account, hg.slot.trans hf.slot⟩

instance : IsPreorder Frame Frame.Same where
  refl _ := ⟨rfl, rfl⟩
  trans _ _ _ := .trans

theorem outcome_onHeldState (c : Call) (m : Access α) (f : Frame) : outcome (onHeldState c m) f =
    ((outcome m ⟨f.world.ledger, some f.gas, c.frozen⟩).1.mapError Stop.ofError,
      { world := { f.world with
          ledger := (outcome m ⟨f.world.ledger, some f.gas, c.frozen⟩).2.ledger }
        gas := (outcome m ⟨f.world.ledger, some f.gas, c.frozen⟩).2.gas.getD 0 }) :=
  outcome_part _ _ f

theorem outcome_onWorld (m : WorldM α) (f : Frame) : outcome (onWorld m) f =
    ((outcome m f.world).1.mapError Stop.ofError, { f with world := (outcome m f.world).2 }) :=
  outcome_part _ _ f

theorem outcome_onLedger (m : LedgerM α) (f : Frame) : outcome (onLedger m) f =
    ((outcome m f.world.ledger).1.mapError fun e => Stop.ofText e.message,
      { f with world := { f.world with ledger := (outcome m f.world.ledger).2 } }) :=
  outcome_part _ _ f

theorem gives_onWorld {m : WorldM α} {a : α} (h : Gives (onWorld m) f a g) :
    Gives m f.world a g.world := by
  unfold Gives at h
  rw [outcome_onWorld, Prod.mk.injEq, mapError_eq_ok] at h
  exact Prod.ext h.1 (congrArg Frame.world h.2)

theorem gives_onLedger {m : LedgerM α} {a : α} (h : Gives (onLedger m) f a g) :
    Gives m f.world.ledger a g.world.ledger := by
  unfold Gives at h
  rw [outcome_onLedger, Prod.mk.injEq, mapError_eq_ok] at h
  exact Prod.ext h.1 (congrArg (·.world.ledger) h.2)

/-! ### The ways into the world -/

theorem keeps_onWorld {T : World → World → Prop} {m : WorldM α} (h : Keeps T m) :
    Keeps (Frame.Over T) (onWorld m) := by
  intro f
  unfold KeepsFrom
  rw [outcome_onWorld]
  exact h _

theorem reading_onLedger {m : LedgerM α} (h : Keeps Ledger.Reads m) :
    Keeps (Frame.Over World.Reading) (onLedger m) := by
  intro f
  unfold KeepsFrom
  rw [outcome_onLedger]
  exact ⟨h _, rfl, rfl, rfl⟩

theorem keeps_onLedger {m : LedgerM α} (h : Keeps (Ledger.Reaches R.writes) m) :
    Keeps (Frame.Over R.Follows) (onLedger m) := by
  intro f
  unfold KeepsFrom
  rw [outcome_onLedger]
  exact Rules.follows_ledger fun _ => h _

theorem reading_holdState : Keeps (Frame.Over World.Reading) holdState :=
  have hspent : Keeps (Frame.Over World.Reading) (modify fun f => { f with gas := 0 } : MethodM Unit) :=
    keeps_modify fun f => Std.Refl.refl f.world
  ((reading_onLedger Ledger.keeps_hold).bind fun _ => keeps_pure _).tryCatch fun _ =>
    hspent.bind fun _ => keeps_throw _

theorem gives_holdState {u : Unit} (h : Gives holdState f u g) :
    ∃ l, f.world.ledger.Reads l ∧ g = { f with world := { f.world with ledger := l } } := by
  unfold Gives holdState at h
  rw [outcome_tryCatch, outcome_bind, outcome_onLedger] at h
  have hreads := Ledger.keeps_hold (a := stateAccount) f.world.ledger
  unfold KeepsFrom at hreads
  rcases hhold : outcome (Ledger.hold stateAccount) f.world.ledger with ⟨r, l⟩
  rw [hhold] at h hreads
  cases r with
  | ok x => exact ⟨l, hreads, (congrArg Prod.snd h).symm⟩
  | error e => cases h

theorem keepsFrom_onState {m : Access α} (h : ∀ l, f.world.ledger.Reads l →
      KeepsFrom (Desk.Over (Ledger.Reaches R.writes)) m ⟨l, some f.gas, c.frozen⟩) :
    KeepsFrom (Frame.Over R.Follows) (onState c m) f := by
  have hheld : Keeps (Frame.Over R.Follows) holdState :=
    reading_holdState.mono fun _ _ => Rules.follows_of_reading
  refine (hheld f).bind fun u g hgives => ?_
  obtain ⟨l, hl, rfl⟩ := gives_holdState hgives
  unfold KeepsFrom
  rw [outcome_onHeldState]
  exact Rules.follows_ledger fun _ => h l hl

theorem reading_onState {m : Access α} (h : Keeps (Desk.Over Ledger.Reads) m) :
    Keeps (Frame.Over World.Reading) (onState c m) := by
  refine reading_holdState.bind fun _ f => ?_
  unfold KeepsFrom
  rw [outcome_onHeldState]
  exact ⟨h ⟨f.world.ledger, some f.gas, c.frozen⟩, rfl, rfl, rfl⟩

theorem gives_onState {m : Access α} {a : α} (h : Gives (onState c m) f a g) :
    ∃ l d, l.view = f.world.ledger.view ∧ Gives m ⟨l, some f.gas, c.frozen⟩ a d ∧
      g.world.ledger = d.ledger := by
  obtain ⟨u, t, hheld, h⟩ := gives_bind.mp h
  obtain ⟨l, hl, rfl⟩ := gives_holdState hheld
  unfold Gives at h
  rw [outcome_onHeldState, Prod.mk.injEq, mapError_eq_ok] at h
  exact ⟨l, _, hl.view, Prod.ext h.1 rfl, congrArg (·.world.ledger) h.2.symm⟩

theorem onState_of_gives {m : Access α} {a : α} {x : Held} {l : Ledger} {d : Desk}
    (hheld : Gives (Ledger.hold stateAccount) f.world.ledger x l)
    (hm : Gives m ⟨l, some f.gas, c.frozen⟩ a d) : Gives (onState c m) f a
      { world := { f.world with ledger := d.ledger }, gas := d.gas.getD 0 } := by
  have hstate : Gives holdState f ⟨⟩ { f with world := { f.world with ledger := l } } := by
    unfold Gives holdState
    rw [outcome_tryCatch, outcome_bind, outcome_onLedger, hheld]
    rfl
  refine hstate.bind ?_
  unfold Gives at hm ⊢
  rw [outcome_onHeldState, hm]
  rfl

theorem Keeps.follows {m : MethodM α} (h : Keeps (Frame.Over World.Reading) m) :
    Keeps (Frame.Over R.Follows) m := h.mono fun _ _ => Rules.follows_of_reading

theorem Keeps.same {m : MethodM α} (h : Keeps (Frame.Over World.Reading) m) :
    Keeps Frame.Same m := h.mono fun _ _ hr =>
  ⟨hr.account, hr.slot⟩

/-! ### Steps of methods -/

theorem reading_pay (cost : Nat) : Keeps (Frame.Over World.Reading) (pay cost) := by
  intro f
  refine (keeps_get f).bind fun f' g hget => ?_
  obtain ⟨rfl, rfl⟩ := gives_get.mp hget
  exact keepsFrom_guard fun _ => ⟨.refl, rfl, rfl, rfl⟩

theorem reading_argument (args : Octets) : Keeps (Frame.Over World.Reading) (argument args) := by
  unfold argument
  cases Abi.firstWord? args with
  | none => exact keeps_throw _
  | some w => exact keeps_pure _

theorem gives_argument {w : Word} (h : Gives (argument args) f w g) :
    Abi.firstWord? args = some w := by
  unfold argument at h
  cases harg : Abi.firstWord? args with
  | none =>
    rw [harg] at h
    exact absurd h not_gives_throw
  | some w' =>
    rw [harg] at h
    rw [(gives_pure.mp h).1]

theorem addressArgument_of_word {arg : Word} (h : Abi.firstWord? args = some arg) (f : Frame) :
    Gives (addressArgument args) f (Address.ofWord arg) f := by
  unfold addressArgument argument
  rw [h]
  rfl

theorem reading_addressArgument (args : Octets) :
    Keeps (Frame.Over World.Reading) (addressArgument args) :=
  (reading_argument args).bind fun _ => keeps_pure _

theorem reading_moduleAt (program : Address) (p : Params) :
    Keeps (Frame.Over World.Reading) (moduleAt program p) := by
  refine (reading_onLedger Ledger.keeps_holdCode).bind fun code => ?_
  cases Package.module? p.maxWasmSize.toNat code with
  | error e => exact keeps_throw _
  | ok wasm? =>
    cases wasm? with
    | none => exact keeps_throw _
    | some wasm => exact keeps_pure _

theorem gives_moduleAt {program : Address} {p : Params} {wasm : Octets}
    (h : Gives (moduleAt program p) f wasm g) :
    Package.module? p.maxWasmSize.toNat (f.world.ledger.account program).code = .ok (some wasm) := by
  obtain ⟨code, t, hcode, h⟩ := gives_bind.mp h
  rw [← Ledger.gives_holdCode (gives_onLedger hcode)]
  cases hmodule : Package.module? p.maxWasmSize.toNat code with
  | error e =>
    rw [hmodule] at h
    exact absurd h not_gives_throw
  | ok wasm? =>
    rw [hmodule] at h
    cases wasm? with
    | none => exact absurd h not_gives_throw
    | some wasm' => rw [(gives_pure.mp h).1]

theorem keeps_payOut {dest : Address} {value : Word} :
    Keeps (Frame.Over R.Follows) (payOut c dest value) := by
  refine (keeps_onLedger Ledger.keeps_transfer).bind fun r => ?_
  cases r with
  | some e => exact keeps_throw _
  | none => exact keeps_pure _

theorem keeps_emit (g : Log) : Keeps (Frame.Over R.Follows) (emit g) :=
  (Keeps.follows (reading_pay _)).bind fun _ => keeps_modify fun _ =>
    Rules.follows_ledger fun _ => .single .log

theorem same_emit (g : Log) : Keeps Frame.Same (emit g) :=
  (Keeps.same (reading_pay _)).bind fun _ => keeps_modify fun _ => ⟨rfl, rfl⟩

theorem keeps_settleFee (fee : Word) : Keeps (Frame.Over R.Follows) (settleFee c fee) := by
  refine keeps_guard ?_
  refine (Keeps.follows (reading_onState State.keeps_feeAccount)).bind fun receiver => ?_
  exact keeps_payOut.bind fun _ => keeps_payOut

theorem view_of_reading {m : MethodM α} {a : α} (hm : Keeps (Frame.Over World.Reading) m)
    (h : Gives m f a g) : g.world.ledger.view = f.world.ledger.view := (hm.of_gives h).ledger.view

/-! ### Calls -/

def Method.Mutates (m : Method) : Prop := m.mutability = .nonpayable ∨ m.mutability = .payable

def Method.answer (m : Method) (c : Call) : MethodM Octets := do
  if c.frozen ∧ (m.mutability = .nonpayable ∨ m.mutability = .payable) then throw .readOnly
  if m.mutability ≠ .payable ∧ c.value ≠ 0 then throw (.reverted [])
  m.run c (c.input.drop 4)

theorem dispatch_eq (methods : List Method) (c : Call) : dispatch methods c = (do
    pay (Gas.words (c.input.drop 4).length)
    match methods.find? (·.selector = c.input.take 4) with
    | none => Pure.pure []
    | some m => if m.mutability ≠ .pure then do pay Gas.read; m.answer c else m.answer c) := rfl

theorem keeps_answer {T : Frame → Frame → Prop} [IsPreorder Frame T] {m : Method}
    (h : Keeps T (m.run c (c.input.drop 4)) ∨ c.frozen = true ∧ m.Mutates) :
    Keeps T (m.answer c) := by
  intro f
  refine keepsFrom_guard fun hthawed => ?_
  rcases h with h | h
  · exact keeps_guard h f
  · exact absurd h hthawed

/-- Before a method answers, gas is paid and nothing else happens. -/
theorem keepsFrom_dispatch {T : Frame → Frame → Prop} [IsPreorder Frame T] {methods : List Method}
    (hreads : ∀ {f g : Frame}, f.world.Reading g.world → T f g)
    (h : ∀ m ∈ methods, m.selector = c.input.take 4 → ∀ g : Frame, f.world.Reading g.world →
      KeepsFrom T (m.answer c) g) :
    KeepsFrom T (dispatch methods c) f := by
  have hpay : ∀ cost, Keeps T (pay cost) := fun cost => (reading_pay cost).mono fun _ _ => hreads
  rw [dispatch_eq]
  refine (hpay _ f).bind fun u f₁ h₁ => ?_
  have hr₁ : f.world.Reading f₁.world := (reading_pay _).of_gives h₁
  cases hm : methods.find? (·.selector = c.input.take 4) with
  | none => exact keepsFrom_pure _ _
  | some m =>
    have hselector : m.selector = c.input.take 4 := by simpa using List.find?_some hm
    have hanswer := h m (List.mem_of_find?_eq_some hm) hselector
    refine keepsFrom_ite (fun _ => ?_) fun _ => hanswer f₁ hr₁
    exact (hpay _ f₁).bind fun u' f₂ h₂ => hanswer f₂ (hr₁.trans ((reading_pay _).of_gives h₂))

theorem keeps_dispatch {methods : List Method}
    (h : ∀ m ∈ methods, m.selector = c.input.take 4 →
      Keeps (Frame.Over R.Follows) (m.run c (c.input.drop 4))) :
    Keeps (Frame.Over R.Follows) (dispatch methods c) := fun _ =>
  keepsFrom_dispatch Rules.follows_of_reading fun m hm hselector g _ =>
    keeps_answer (.inl (h m hm hselector)) g

/-- A method that does more than read is not run in a call that may not change state. -/
theorem reading_dispatch {methods : List Method}
    (h : ∀ m ∈ methods, m.selector = c.input.take 4 →
      Keeps (Frame.Over World.Reading) (m.run c (c.input.drop 4)) ∨ c.frozen = true ∧ m.Mutates) :
    Keeps (Frame.Over World.Reading) (dispatch methods c) := fun _ =>
  keepsFrom_dispatch id fun m hm hselector g _ => keeps_answer (h m hm hselector) g

theorem run_invoke (methods : List Method) (c : Call) (w : World) :
    (invoke methods c).run w = if c.input.length < 4
      then (.halt .returned c.gas (Octets.ofText "Input too short"), w)
      else (chargeOutput (result c.gas (outcome (dispatch methods c) ⟨w, c.gas⟩).2.gas
        (outcome (dispatch methods c) ⟨w, c.gas⟩).1),
          (outcome (dispatch methods c) ⟨w, c.gas⟩).2.world) := by
  unfold invoke
  by_cases h : c.input.length < 4
  · rw [if_pos h, if_pos h]
    rfl
  · rw [if_neg h, if_neg h]
    rfl

end SystemContract
end Inkwell
