import Inkwell.Proofs.Progress
set_option autoImplicit false

/-! The gas limit of a call of a system contract bounds what the call may spend, and nothing else
depends on it: a call that does not run out of gas ends the same under a higher limit. -/

namespace Inkwell

section Steady

variable {σ ε α β : Type} {R : σ → σ → Prop} {short : ε}

/-- From two states that stand in a relation the work ends the same, and leaves states that stand in
it too, unless it fails for want of something in the first. -/
def Steady (R : σ → σ → Prop) (short : ε) (m : Work σ ε α) : Prop := ∀ s t, R s t →
  (outcome m s).1 ≠ .error short →
    (outcome m t).1 = (outcome m s).1 ∧ R (outcome m s).2 (outcome m t).2

theorem steady_pure (a : α) : Steady R short (pure a : Work σ ε α) := fun _ _ h _ => ⟨rfl, h⟩

theorem steady_throw (e : ε) : Steady R short (throw e : Work σ ε α) := fun _ _ h _ => ⟨rfl, h⟩

theorem steady_modify {f : σ → σ} (hf : ∀ s t, R s t → R (f s) (f t)) :
    Steady R short (modify f : Work σ ε PUnit) := fun s t h _ => ⟨rfl, hf s t h⟩

theorem Steady.bind {m : Work σ ε α} {f : α → Work σ ε β} (hm : Steady R short m)
    (hf : ∀ a, Steady R short (f a)) : Steady R short (m >>= f) := by
  intro s t h hs
  have hmst := hm s t h
  rw [outcome_bind] at hs
  rw [outcome_bind, outcome_bind]
  rcases hms : outcome m s with ⟨r, s'⟩
  rcases hmt : outcome m t with ⟨r', t'⟩
  rw [hms] at hs hmst
  rw [hmt] at hmst
  cases r with
  | error e =>
    obtain ⟨rfl, h'⟩ := hmst fun he => hs (by rw [Except.error.inj he])
    exact ⟨rfl, h'⟩
  | ok a =>
    obtain ⟨rfl, h'⟩ := hmst nofun
    exact hf a s' t' h' hs

/-- What is done with the state is steady if it is the same from both states. -/
theorem steady_get {f : σ → Work σ ε α} (hf : ∀ s, Steady R short (f s))
    (hsame : ∀ s t, R s t → f t = f s) : Steady R short (get >>= f) := by
  intro s t h hs
  rw [outcome_bind, outcome_get] at hs
  rw [outcome_bind, outcome_bind, outcome_get, outcome_get]
  dsimp only at hs ⊢
  rw [hsame s t h]
  exact hf s s t h hs

theorem steady_ite {c : Prop} [Decidable c] {m n : Work σ ε α} (hm : Steady R short m)
    (hn : Steady R short n) : Steady R short (if c then m else n) := by
  by_cases h : c
  · rw [if_pos h]
    exact hm
  · rw [if_neg h]
    exact hn

theorem steady_guard {c : Prop} [Decidable c] {e : ε} {f : PUnit → Work σ ε α}
    (hf : Steady R short (f ⟨⟩)) : Steady R short (if c then throw e >>= f else f ⟨⟩) :=
  steady_ite ((steady_throw e).bind fun _ => hf) hf

end Steady

/-! ### At a desk -/

structure Desk.Richer (k : Nat) (d e : Desk) : Prop where
  ledger : e.ledger = d.ledger
  frozen : e.frozen = d.frozen
  gas : ∃ left, d.gas = some left ∧ e.gas = some (left + k)

namespace Access

variable {α β : Type} {k : Nat} {slot w : Word} {a : Address}

/-- Unless it runs out of gas, the work ends the same with more gas, and leaves as much more. -/
abbrev Steady (k : Nat) (m : Access α) : Prop := Inkwell.Steady (Desk.Richer k) .outOfGas m

theorem steady_pay (cost : Nat) : Steady k (pay cost) := by
  rintro ⟨l, gas, frozen⟩ ⟨_, gas', _⟩ ⟨rfl, rfl, left, rfl, rfl⟩ hd
  rw [outcome_pay] at hd
  rw [outcome_pay, outcome_pay]
  dsimp only at hd ⊢
  have henough : ¬ left < cost := fun hshort => hd (by rw [if_pos hshort])
  have henough' : ¬ left + k < cost := by omega
  rw [if_neg henough, if_neg henough']
  exact ⟨rfl, rfl, rfl, left - cost, rfl, by rw [Nat.sub_add_comm (Nat.not_lt.mp henough)]⟩

theorem steady_onLedger (m : LedgerM α) : Steady k (onLedger m) := by
  intro d e h _
  rw [outcome_onLedger, outcome_onLedger, h.ledger]
  exact ⟨rfl, rfl, h.frozen, h.gas⟩

theorem steady_free (m : Access α) : Steady k (free m) := by
  intro d e h _
  rw [outcome_free, outcome_free, h.ledger, h.frozen]
  exact ⟨rfl, rfl, rfl, h.gas⟩

theorem steady_load : Steady k (load slot) := (steady_pay _).bind fun _ => steady_onLedger _

theorem steady_store : Steady k (store slot w) :=
  steady_get (fun _ => steady_guard ((steady_pay _).bind fun _ => steady_onLedger _))
    fun d e h => by rw [h.frozen]

theorem steady_loadNat {bits : Nat} : Steady k (loadNat bits slot) :=
  steady_load.bind fun _ => steady_pure _

theorem steady_loadAddress : Steady k (loadAddress slot) := steady_load.bind fun _ => steady_pure _

theorem steady_codeHash : Steady k (codeHash a) := (steady_pay _).bind fun _ => steady_onLedger _

end Access

namespace AddressSet

open Access

variable {k : Nat} {s : AddressSet} {a : Address}

theorem steady_contains : Access.Steady k (s.contains a) := steady_loadNat.bind fun _ => steady_pure _

theorem steady_elements (i count : Nat) : Access.Steady k (s.elements i count) := by
  induction count generalizing i with
  | zero => exact steady_pure _
  | succ count ih => exact steady_loadAddress.bind fun _ => (ih (i + 1)).bind fun _ => steady_pure _

theorem steady_all : Access.Steady k s.all := steady_loadNat.bind fun _ => steady_elements _ _

end AddressSet

namespace State

open Access

variable {k now : Nat} {p : Params} {h : Word} {r : Record}

theorem steady_params : Access.Steady k params := (steady_pay _).bind fun _ => steady_free _

theorem steady_record? : Access.Steady k (record? h) :=
  steady_load.bind fun _ => steady_ite (steady_pure _)
    (steady_load.bind fun _ => steady_load.bind fun _ => steady_pure _)

theorem steady_activeRecord : Access.Steady k (activeRecord p now h) := by
  refine steady_record?.bind fun found => ?_
  cases found with
  | none => exact steady_throw _
  | some r => exact steady_guard (steady_guard (steady_guard (steady_pure _)))

theorem steady_setRecord : Access.Steady k (setRecord h r) :=
  steady_store.bind fun _ => steady_store.bind fun _ => steady_store

end State

/-! ### In a method -/

namespace SystemContract

def Frame.Richer (k : Nat) (f g : Frame) : Prop := g = { f with gas := f.gas + k }

namespace MethodM

abbrev Steady {α : Type} (k : Nat) (m : MethodM α) : Prop :=
  Inkwell.Steady (Frame.Richer k) .outOfGas m

end MethodM

variable {α : Type} {k : Nat} {c : Call} {args : Octets}

theorem outcome_pay (cost : Nat) (f : Frame) : outcome (pay cost) f =
    if f.gas < cost then (.error .outOfGas, f) else (.ok ⟨⟩, { f with gas := f.gas - cost }) := by
  unfold pay
  rw [outcome_bind, outcome_get]
  dsimp only
  by_cases hshort : f.gas < cost
  · rw [if_pos hshort, if_pos hshort]
    rfl
  · rw [if_neg hshort, if_neg hshort]
    rfl

theorem steady_pay (cost : Nat) : MethodM.Steady k (pay cost) := by
  rintro f _ rfl hf
  rw [outcome_pay] at hf
  have henough : ¬ f.gas < cost := fun hshort => hf (by rw [if_pos hshort])
  have henough' : ¬ f.gas + k < cost := by omega
  have hleft : f.gas + k - cost = f.gas - cost + k := Nat.sub_add_comm (Nat.not_lt.mp henough)
  rw [outcome_pay, outcome_pay, if_neg henough, if_neg henough', hleft]
  exact ⟨rfl, rfl⟩

/-- Running out of gas over the state is running out of gas. -/
theorem steady_onHeldState {m : Access α} (hm : Access.Steady k m) :
    MethodM.Steady k (onHeldState c m) := by
  rintro f _ rfl hf
  rw [outcome_onHeldState] at hf
  rw [outcome_onHeldState, outcome_onHeldState]
  have hricher : Desk.Richer k ⟨f.world.ledger, some f.gas, c.frozen⟩
      ⟨f.world.ledger, some (f.gas + k), c.frozen⟩ := ⟨rfl, rfl, f.gas, rfl, rfl⟩
  obtain ⟨hsame, hledger, -, left, hleft, hleft'⟩ := hm _ _ hricher fun hshort => hf (by
    dsimp only
    rw [hshort]
    rfl)
  dsimp only
  rw [hsame, hledger, hleft, hleft']
  exact ⟨rfl, rfl⟩

theorem steady_onWorld (m : WorldM α) : MethodM.Steady k (onWorld m) := by
  rintro f _ rfl _
  rw [outcome_onWorld, outcome_onWorld]
  exact ⟨rfl, rfl⟩

theorem steady_onLedger (m : LedgerM α) : MethodM.Steady k (onLedger m) := by
  rintro f _ rfl _
  rw [outcome_onLedger, outcome_onLedger]
  exact ⟨rfl, rfl⟩

/-- Where the account of the state cannot be had the method runs out of gas, however much there is. -/
theorem steady_holdState : MethodM.Steady k holdState := by
  rintro f _ rfl hf
  unfold holdState at hf ⊢
  rw [outcome_tryCatch, outcome_bind, outcome_onLedger] at hf
  rw [outcome_tryCatch, outcome_tryCatch, outcome_bind, outcome_bind, outcome_onLedger,
    outcome_onLedger]
  rcases hhold : outcome (Ledger.hold stateAccount) f.world.ledger with ⟨r, l⟩
  rw [hhold] at hf
  cases r with
  | ok x => exact ⟨rfl, rfl⟩
  | error e => exact absurd rfl hf

theorem steady_onState {m : Access α} (hm : Access.Steady k m) : MethodM.Steady k (onState c m) :=
  steady_holdState.bind fun _ => steady_onHeldState hm

theorem steady_payOut {dest : Address} {value : Word} : MethodM.Steady k (payOut c dest value) := by
  refine (steady_onLedger _).bind fun r => ?_
  cases r with
  | some e => exact steady_throw _
  | none => exact steady_pure _

theorem steady_emit (g : Log) : MethodM.Steady k (emit g) := by
  refine (steady_pay _).bind fun _ => steady_modify ?_
  rintro f _ rfl
  rfl

theorem steady_argument : MethodM.Steady k (argument args) := by
  unfold argument
  cases Abi.firstWord? args with
  | none => exact steady_throw _
  | some w => exact steady_pure _

theorem steady_addressArgument : MethodM.Steady k (addressArgument args) :=
  steady_argument.bind fun _ => steady_pure _

theorem steady_settleFee (fee : Word) : MethodM.Steady k (settleFee c fee) :=
  steady_guard ((steady_onState Access.steady_loadAddress).bind fun _ =>
    steady_payOut.bind fun _ => steady_payOut)

theorem steady_moduleAt {program : Address} {p : Params} :
    MethodM.Steady k (moduleAt program p) := by
  refine (steady_onLedger _).bind fun code => ?_
  cases Package.module? p.maxWasmSize.toNat code with
  | error e => exact steady_throw _
  | ok wasm? =>
    cases wasm? with
    | none => exact steady_throw _
    | some wasm => exact steady_pure _

namespace Programs

theorem steady_activateProgram : MethodM.Steady k (activateProgram c args) := by
  refine steady_addressArgument.bind fun program => ?_
  refine (steady_onState State.steady_params).bind fun p => ?_
  refine (steady_pay _).bind fun _ => ?_
  refine (steady_onWorld _).bind fun codeHash => ?_
  refine (steady_onState State.steady_record?).bind fun existing => ?_
  refine steady_get (fun f => ?_) (by rintro f _ rfl; rfl)
  dsimp only
  cases existing.filter fun r => r.version = p.version && !r.isExpired f.world.now with
  | some r => exact steady_payOut.bind fun _ => steady_pure _
  | none =>
    refine steady_moduleAt.bind fun wasm => (steady_onWorld _).bind fun a => ?_
    exact (steady_settleFee _).bind fun _ => (steady_emit _).bind fun _ => steady_pure _

theorem steady_codehashKeepalive : MethodM.Steady k (codehashKeepalive c args) := by
  refine steady_argument.bind fun codeHash => (steady_onWorld _).bind fun kept => ?_
  exact (steady_settleFee _).bind fun _ => (steady_emit _).bind fun _ => steady_pure _

theorem steady_ofCodeHash (answer : Record → List Nat) :
    MethodM.Steady k (ofCodeHash answer c args) := by
  refine steady_argument.bind fun codeHash => steady_get (fun f => ?_) (by rintro f _ rfl; rfl)
  refine (steady_onState ?_).bind fun _ => steady_pure _
  exact State.steady_params.bind fun _ => State.steady_activeRecord

theorem steady_ofProgram (answer : Nat → Params → Record → List Nat) :
    MethodM.Steady k (ofProgram answer c args) := by
  refine steady_addressArgument.bind fun program => steady_get (fun f => ?_) (by rintro f _ rfl; rfl)
  refine (steady_onState ?_).bind fun _ => steady_pure _
  exact State.steady_params.bind fun _ => Access.steady_codeHash.bind fun _ =>
    State.steady_activeRecord.bind fun _ => steady_pure _

theorem steady_ofParams (answer : Params → List Nat) :
    MethodM.Steady k (ofParams answer c args) :=
  (steady_onState State.steady_params).bind fun _ => steady_pure _

theorem steady_minInitGas : MethodM.Steady k (minInitGas c args) :=
  (steady_onState State.steady_params).bind fun _ =>
    steady_get (fun _ => steady_guard (steady_pure _)) (by rintro f _ rfl; rfl)

end Programs

namespace Pinning

theorem steady_requireManager : MethodM.Steady k (requireManager c) :=
  (steady_onState AddressSet.steady_contains).bind fun _ =>
    steady_ite (steady_throw _) (steady_pure _)

theorem steady_isCacheManager : MethodM.Steady k (isCacheManager c args) :=
  steady_addressArgument.bind fun _ => (steady_onState AddressSet.steady_contains).bind fun _ =>
    steady_pure _

theorem steady_allCacheManagers : MethodM.Steady k (allCacheManagers c args) :=
  (steady_onState AddressSet.steady_all).bind fun _ => steady_pure _

theorem steady_cacheProgram : MethodM.Steady k (cacheProgram c args) := by
  refine steady_addressArgument.bind fun program => steady_requireManager.bind fun _ => ?_
  refine (steady_onState State.steady_params).bind fun p => ?_
  refine (steady_onState Access.steady_codeHash).bind fun codeHash => ?_
  refine steady_get (fun f => ?_) (by rintro f _ rfl; rfl)
  refine (steady_onState State.steady_activeRecord).bind fun r => ?_
  refine steady_ite (steady_pure _) ?_
  refine (steady_emit _).bind fun _ => (steady_pay _).bind fun _ => ?_
  refine steady_moduleAt.bind fun wasm => (steady_onWorld _).bind fun _ => ?_
  exact (steady_onState State.steady_setRecord).bind fun _ => steady_pure _

theorem steady_evictCodehash : MethodM.Steady k (evictCodehash c args) := by
  refine steady_argument.bind fun codeHash => steady_requireManager.bind fun _ => ?_
  refine (steady_onState State.steady_record?).bind fun existing => ?_
  cases existing.filter (·.pinned) with
  | none => exact steady_pure _
  | some r =>
    refine (steady_emit _).bind fun _ => (steady_pay _).bind fun _ => ?_
    refine (steady_onState Access.steady_load).bind fun module => ?_
    refine (steady_onState State.steady_setRecord).bind fun _ => ?_
    refine (steady_modify ?_).bind fun _ => steady_pure _
    rintro f _ rfl
    rfl

theorem steady_codehashIsCached : MethodM.Steady k (codehashIsCached c args) :=
  steady_argument.bind fun _ => (steady_onState State.steady_record?).bind fun _ => steady_pure _

end Pinning

/-! ### Calls -/

/-- A method that does the same whatever the gas limit of the call is, and ends the same with more gas
unless it runs out of it. -/
structure Method.Steady (m : Method) : Prop where
  limit : ∀ (c : Call) (limit : Nat) (args : Octets), m.run { c with gas := limit } args = m.run c args
  steady : ∀ (k : Nat) (c : Call) (args : Octets), MethodM.Steady k (m.run c args)

theorem Method.steady_of {signature : String} {mutability : Mutability}
    {run : Call → Octets → MethodM Octets} (h : ∀ k c args, MethodM.Steady k (run c args))
    (hlimit : ∀ c limit args, run { c with gas := limit } args = run c args) :
    Method.Steady ⟨signature, mutability, run⟩ := ⟨hlimit, h⟩

variable {m : Method} {methods : List Method}

theorem Programs.steady_methods (hm : m ∈ Programs.methods) : m.Steady := by
  simp only [Programs.methods, List.mem_cons, List.not_mem_nil, or_false] at hm
  rcases hm with rfl | rfl | rfl | rfl | rfl | rfl | rfl | rfl | rfl | rfl | rfl | rfl | rfl | rfl |
    rfl | rfl | rfl | rfl | rfl | rfl
  · exact Method.steady_of (fun _ _ _ => steady_activateProgram) fun _ _ _ => rfl
  · exact Method.steady_of (fun _ _ _ => steady_ofParams _) fun _ _ _ => rfl
  · exact Method.steady_of (fun _ _ _ => steady_ofCodeHash _) fun _ _ _ => rfl
  · exact Method.steady_of (fun _ _ _ => steady_codehashKeepalive) fun _ _ _ => rfl
  · exact Method.steady_of (fun _ _ _ => steady_ofCodeHash _) fun _ _ _ => rfl
  · exact Method.steady_of (fun _ _ _ => steady_ofProgram _) fun _ _ _ => rfl
  · exact Method.steady_of (fun _ _ _ => steady_ofProgram _) fun _ _ _ => rfl
  · exact Method.steady_of (fun _ _ _ => steady_ofProgram _) fun _ _ _ => rfl
  · exact Method.steady_of (fun _ _ _ => steady_ofProgram _) fun _ _ _ => rfl
  · exact Method.steady_of (fun _ _ _ => steady_ofParams _) fun _ _ _ => rfl
  · exact Method.steady_of (fun _ _ _ => steady_ofParams _) fun _ _ _ => rfl
  · exact Method.steady_of (fun _ _ _ => steady_ofParams _) fun _ _ _ => rfl
  · exact Method.steady_of (fun _ _ _ => steady_ofParams _) fun _ _ _ => rfl
  · exact Method.steady_of (fun _ _ _ => steady_ofParams _) fun _ _ _ => rfl
  · exact Method.steady_of (fun _ _ _ => steady_ofParams _) fun _ _ _ => rfl
  · exact Method.steady_of (fun _ _ _ => steady_minInitGas) fun _ _ _ => rfl
  · exact Method.steady_of (fun _ _ _ => steady_ofParams _) fun _ _ _ => rfl
  · exact Method.steady_of (fun _ _ _ => steady_ofParams _) fun _ _ _ => rfl
  · exact Method.steady_of (fun _ _ _ => steady_ofParams _) fun _ _ _ => rfl
  · exact Method.steady_of (fun _ _ _ => steady_ofParams _) fun _ _ _ => rfl

theorem Pinning.steady_methods (hm : m ∈ Pinning.methods) : m.Steady := by
  simp only [Pinning.methods, List.mem_cons, List.not_mem_nil, or_false] at hm
  rcases hm with rfl | rfl | rfl | rfl | rfl
  · exact Method.steady_of (fun _ _ _ => steady_isCacheManager) fun _ _ _ => rfl
  · exact Method.steady_of (fun _ _ _ => steady_allCacheManagers) fun _ _ _ => rfl
  · exact Method.steady_of (fun _ _ _ => steady_cacheProgram) fun _ _ _ => rfl
  · exact Method.steady_of (fun _ _ _ => steady_evictCodehash) fun _ _ _ => rfl
  · exact Method.steady_of (fun _ _ _ => steady_codehashIsCached) fun _ _ _ => rfl

theorem steady_answer (hm : m.Steady) : MethodM.Steady k (m.answer c) :=
  steady_guard (steady_guard (hm.steady k c _))

theorem answer_limit (hm : m.Steady) (c : Call) (limit : Nat) :
    m.answer { c with gas := limit } = m.answer c := by
  unfold Method.answer
  rw [hm.limit]

theorem steady_dispatch (hmethods : ∀ m ∈ methods, m.Steady) :
    MethodM.Steady k (dispatch methods c) := by
  rw [dispatch_eq]
  refine (steady_pay _).bind fun _ => ?_
  cases hfind : methods.find? (·.selector = c.input.take 4) with
  | none => exact steady_pure _
  | some m =>
    have hanswer := steady_answer (k := k) (c := c) (hmethods m (List.mem_of_find?_eq_some hfind))
    exact steady_ite ((steady_pay _).bind fun _ => hanswer) hanswer

theorem dispatch_limit (hmethods : ∀ m ∈ methods, m.Steady) (c : Call) (limit : Nat) :
    dispatch methods { c with gas := limit } = dispatch methods c := by
  rw [dispatch_eq, dispatch_eq]
  dsimp only
  cases hfind : methods.find? (·.selector = c.input.take 4) with
  | none => rfl
  | some m =>
    dsimp only
    rw [answer_limit (hmethods m (List.mem_of_find?_eq_some hfind))]

theorem methodsAt?_steady {a : Address} (h : methodsAt? a = some methods) :
    ∀ m ∈ methods, m.Steady := by
  unfold methodsAt? at h
  split_ifs at h
  · obtain rfl := Option.some.inj h
    exact fun m => Programs.steady_methods
  · obtain rfl := Option.some.inj h
    exact fun m => Pinning.steady_methods

/-! ### Ends of calls -/

/-- The end that a call comes to under a higher limit. A call that may not change state, but tries to,
spends all of it. -/
def raised (k : Nat) (r : CallResult) : CallResult :=
  { r with
    gasLimit := r.gasLimit + k
    gasLeft := if r.verdict = .readOnly then 0 else r.gasLeft + k }

theorem chargeOutput_of_le {r : CallResult} (h : Gas.words r.output.length ≤ r.gasLeft) :
    chargeOutput r = { r with gasLeft := r.gasLeft - Gas.words r.output.length } :=
  if_neg (Nat.not_lt.mpr h)

theorem le_of_chargeOutput {r : CallResult} (h : (chargeOutput r).verdict ≠ .outOfGas) :
    Gas.words r.output.length ≤ r.gasLeft := by
  by_contra hshort
  refine h ?_
  unfold chargeOutput
  rw [if_pos (Nat.not_le.mp hshort)]
  rfl

theorem limit_chargeOutput (r : CallResult) : (chargeOutput r).gasLimit = r.gasLimit := by
  unfold chargeOutput
  dsimp only
  split_ifs <;> rfl

theorem limit_result (limit gas : Nat) (r : Except Stop Octets) :
    (result limit gas r).gasLimit = limit := by
  rcases r with (_ | _ | _ | _) | _ <;> rfl

theorem chargeOutput_raised {k : Nat} {r : CallResult} (h : (chargeOutput r).verdict ≠ .outOfGas)
    (hreadOnly : r.verdict = .readOnly → r.output = []) :
    chargeOutput (raised k r) = raised k (chargeOutput r) := by
  have hle := le_of_chargeOutput h
  rw [chargeOutput_of_le hle]
  by_cases hverdict : r.verdict = .readOnly
  · rw [chargeOutput_of_le (by simp [raised, hreadOnly hverdict, Gas.words, ceilDiv])]
    simp [raised, hverdict]
  · have hle' : Gas.words (raised k r).output.length ≤ (raised k r).gasLeft := by
      simp only [raised, if_neg hverdict]
      omega
    have hleft : r.gasLeft + k - Gas.words r.output.length =
        r.gasLeft - Gas.words r.output.length + k := Nat.sub_add_comm hle
    rw [chargeOutput_of_le hle']
    simp [raised, hverdict, hleft]

theorem result_raised {limit gas k : Nat} {r : Except Stop Octets} (h : r ≠ .error .outOfGas) :
    result (limit + k) (gas + k) r = raised k (result limit gas r) := by
  rcases r with (_ | _ | _ | e) | _
  · exact absurd rfl h
  · rfl
  · rfl
  · cases e <;> rfl
  · rfl

theorem output_of_readOnly {limit gas : Nat} {r : Except Stop Octets}
    (h : (result limit gas r).verdict = .readOnly) : (result limit gas r).output = [] := by
  rcases r with (_ | _ | _ | e) | _
  · cases h
  · rfl
  · cases h
  · rfl
  · cases h

theorem result_outOfGas {limit gas : Nat} :
    (chargeOutput (result limit gas (.error .outOfGas))).verdict = .outOfGas := by
  unfold chargeOutput
  dsimp only
  split_ifs <;> rfl

theorem invoke_raised {k : Nat} {w : World} (hmethods : ∀ m ∈ methods, m.Steady)
    (hselector : 4 ≤ c.input.length)
    (h : ((invoke methods c).run w).1.verdict ≠ .outOfGas) :
    (invoke methods { c with gas := c.gas + k }).run w =
      (raised k ((invoke methods c).run w).1, ((invoke methods c).run w).2) := by
  rw [run_invoke, if_neg (Nat.not_lt.mpr hselector)] at h
  rw [run_invoke, run_invoke, dispatch_limit hmethods]
  dsimp only at h ⊢
  rw [if_neg (Nat.not_lt.mpr hselector), if_neg (Nat.not_lt.mpr hselector)]
  have hstop : (outcome (dispatch methods c) ⟨w, c.gas⟩).1 ≠ .error .outOfGas := by
    intro hstop
    rw [hstop] at h
    exact h result_outOfGas
  have hricher : Frame.Richer k ⟨w, c.gas⟩ ⟨w, c.gas + k⟩ := rfl
  obtain ⟨hsame, hleft⟩ := steady_dispatch hmethods _ _ hricher hstop
  rw [hsame, hleft]
  dsimp only
  rw [result_raised hstop, chargeOutput_raised h output_of_readOnly]

theorem run_call (c : Call) (w : World) : (call c).run w = match methodsAt? c.codeAt with
    | none => (none, w)
    | some methods =>
      if !c.frozen ∧ c.target ≠ c.codeAt then (some ⟨.reverted, [], c.gas, c.gas⟩, w)
      else ((Call.keepIfReturned (invoke methods c)).run w).map some id := by
  unfold call
  cases methodsAt? c.codeAt with
  | none => rfl
  | some methods =>
    dsimp only
    by_cases hforeign : !c.frozen ∧ c.target ≠ c.codeAt
    · rw [if_pos hforeign, if_pos hforeign]
      rfl
    · rw [if_neg hforeign, if_neg hforeign]
      rfl

theorem isSome_call (c : Call) (w : World) :
    ((call c).run w).1.isSome = (methodsAt? c.codeAt).isSome := by
  rw [run_call]
  cases methodsAt? c.codeAt with
  | none => rfl
  | some methods =>
    dsimp only
    split_ifs <;> rfl

/-- A call that does not run out of gas comes to the same end under a higher limit. -/
theorem call_raised {k : Nat} {r : CallResult} {w w' : World} (hselector : 4 ≤ c.input.length)
    (hrun : (call c).run w = (some r, w')) (hr : r.verdict ≠ .outOfGas) :
    (call { c with gas := c.gas + k }).run w = (some (raised k r), w') := by
  rw [run_call] at hrun ⊢
  dsimp only
  cases hmethods : methodsAt? c.codeAt with
  | none =>
    rw [hmethods] at hrun
    cases hrun
  | some methods =>
    rw [hmethods] at hrun
    dsimp only at hrun ⊢
    by_cases hforeign : !c.frozen ∧ c.target ≠ c.codeAt
    · rw [if_pos hforeign] at hrun ⊢
      cases hrun
      rfl
    · rw [if_neg hforeign] at hrun ⊢
      rw [Call.run_keepIfReturned] at hrun
      obtain ⟨hr', rfl⟩ := Prod.mk.inj hrun
      obtain rfl := Option.some.inj hr'
      rw [Call.run_keepIfReturned, invoke_raised (methodsAt?_steady hmethods) hselector hr]
      rfl

theorem limit_invoke (methods : List Method) (c : Call) (w : World) :
    ((invoke methods c).run w).1.gasLimit = c.gas := by
  rw [run_invoke]
  split_ifs
  · rfl
  · exact (limit_chargeOutput _).trans (limit_result _ _ _)

theorem limit_call {r : CallResult} {w w' : World} (hrun : (call c).run w = (some r, w')) :
    r.gasLimit = c.gas := by
  rw [run_call] at hrun
  cases hmethods : methodsAt? c.codeAt with
  | none =>
    rw [hmethods] at hrun
    cases hrun
  | some methods =>
    rw [hmethods] at hrun
    dsimp only at hrun
    split_ifs at hrun with hforeign
    · cases hrun
      rfl
    · rw [Call.run_keepIfReturned] at hrun
      obtain rfl := Option.some.inj (Prod.mk.inj hrun).1
      exact limit_invoke methods c w

/-- The gas limit is only a bound. A call that returns or reverts comes to the same end under a higher
limit, answers the same, leaves the same world, and has as much more left as the limit is higher. A call
that runs out of gas under the higher limit runs out of it under the lower one. -/
theorem limit_only_bounds {limit : Nat} (w : World) (hle : c.gas ≤ limit)
    (hselector : 4 ≤ c.input.length) :
    (∀ r w', (call c).run w = (some r, w') → r.verdict = .returned ∨ r.verdict = .reverted →
      r.gasLimit = c.gas ∧ ∃ r', (call { c with gas := limit }).run w = (some r', w') ∧
        r'.verdict = r.verdict ∧ r'.output = r.output ∧ r'.gasLimit = limit ∧
        r'.gasLeft = r.gasLeft + (limit - c.gas)) ∧
    (∀ r', ((call { c with gas := limit }).run w).1 = some r' → r'.verdict = .outOfGas →
      ∃ r, ((call c).run w).1 = some r ∧ r.verdict = .outOfGas) := by
  obtain ⟨k, rfl⟩ := Nat.exists_eq_add_of_le hle
  rw [Nat.add_sub_cancel_left]
  refine ⟨fun r w' hrun hends => ?_, fun r' hrun' hshort => ?_⟩
  · have hverdict : r.verdict ≠ .outOfGas ∧ r.verdict ≠ .readOnly := by
      rcases hends with h | h <;> simp [h]
    have hlimit := limit_call hrun
    refine ⟨hlimit, raised k r, call_raised hselector hrun hverdict.1, rfl, rfl, ?_, ?_⟩
    · exact congrArg (· + k) hlimit
    · exact if_neg hverdict.2
  · have hsome : ((call c).run w).1.isSome = true := by
      rw [isSome_call]
      exact (isSome_call { c with gas := c.gas + k } w).symm.trans (congrArg Option.isSome hrun')
    obtain ⟨r, hr⟩ := Option.isSome_iff_exists.mp hsome
    refine ⟨r, hr, ?_⟩
    by_contra hlong
    rw [call_raised hselector (Prod.ext hr rfl) hlong] at hrun'
    obtain rfl := Option.some.inj hrun'
    exact hlong hshort

/-- Account two asks for an activation, and could spend half as much again. -/
theorem limit_only_bounds_furnished : World.furnishedAsk.gas ≤ 3000000 ∧
    4 ≤ World.furnishedAsk.input.length ∧ ∃ r w' r',
      (call World.furnishedAsk).run (World.furnished 0x71) = (some r, w') ∧
        r.verdict = .returned ∧
        (call { World.furnishedAsk with gas := 3000000 }).run (World.furnished 0x71) = (some r', w') ∧
        r'.verdict = .returned ∧ r'.gasLeft = r.gasLeft + 1000000 := by
  obtain ⟨y, fee, hw⟩ := World.awaits_furnished 0x71
  have hbalance : ((World.furnished 0x71).ledger.account World.furnishedAsk.target).balance =
      0x20000000000000000 := World.balance_furnished (by decide)
  obtain ⟨r, w', hrun, hr⟩ := call_of_awaits World.asks_furnishedAsk World.argument_furnishedAsk hw
    (Nat.le_trans hw.fee_le (by decide)) (by rw [hbalance]; decide) (by decide)
  have hreturned : r.verdict = .returned := by simpa [CallResult.succeeded] using hr
  have hle : World.furnishedAsk.gas ≤ 3000000 := by decide
  have hselector : 4 ≤ World.furnishedAsk.input.length := by decide
  obtain ⟨-, r', hrun', hsame, -, -, hleft⟩ :=
    (limit_only_bounds _ hle hselector).1 r w' hrun (.inl hreturned)
  exact ⟨hle, hselector, r, w', r', hrun, hreturned, hrun', hsame.trans hreturned, hleft⟩

end SystemContract
end Inkwell
