import Inkwell.Proofs.Inspection
set_option autoImplicit false

/-! Which methods of the system contracts do more than read, and which rules calls of them keep. -/

namespace Inkwell.SystemContract

variable {R : Rules} {c : Call} {w : World} {f g : Frame} {args : Octets} {m : Method}

/-! ### Methods -/

theorem runs_of_module {l : Ledger} {program : Address} {limit : Nat} {wasm : Octets}
    {codeHash : Word} (hcoded : l.Coded R.writes) (hhash : codeHash = l.view.codeHash program)
    (hmodule : Package.module? limit (l.account program).code = .ok (some wasm)) :
    R.writes.Runs codeHash wasm :=
  ⟨_, limit, hcoded program, hhash.trans (codeHash_of_module (v := l.view) hmodule), hmodule⟩

namespace Programs

/-- A program is entered under the hash of its code. -/
theorem keepsFrom_enterProgram {x : Inspected}
    (hhash : x.codeHash = f.world.ledger.view.codeHash x.program) :
    KeepsFrom (Frame.Over R.Follows) (enterProgram c x) f := by
  refine Rules.follows_of_sound fun hsound => ?_
  refine (Keeps.follows (reading_moduleAt x.program x.params) f).bind fun wasm f₁ h₁ => ?_
  have hrun : R.writes.Runs x.codeHash wasm := runs_of_module hsound.coded hhash (gives_moduleAt h₁)
  refine (keeps_onWorld (World.keeps_activate hrun _) f₁).bind fun a f₂ _ => ?_
  exact ((keeps_settleFee _).bind fun _ => (keeps_emit _).bind fun _ => keeps_pure _) f₂

theorem keeps_activateProgram : Keeps (Frame.Over R.Follows) (activateProgram c args) := by
  rw [activateProgram_eq]
  intro f
  refine (Keeps.follows reading_inspect f).bind fun x f₁ h₁ => ?_
  cases x.current with
  | some r => exact (keeps_payOut.bind fun _ => keeps_pure _) f₁
  | none =>
    obtain ⟨-, -, hhash, -⟩ := gives_inspect h₁
    rw [← view_of_reading reading_inspect h₁] at hhash
    exact keepsFrom_enterProgram hhash

theorem keeps_codehashKeepalive
    (harg : ∀ h, Abi.firstWord? args = some h → R.writes.Renews h) :
    Keeps (Frame.Over R.Follows) (codehashKeepalive c args) := by
  intro f
  refine (Keeps.follows (reading_argument args) f).bind fun codeHash f₁ h₁ => ?_
  have hrenews := harg codeHash (gives_argument h₁)
  refine (keeps_onWorld (World.keeps_keepalive hrenews) f₁).bind fun k f₂ _ => ?_
  exact ((keeps_settleFee _).bind fun _ => (keeps_emit _).bind fun _ => keeps_pure _) f₂

theorem reading_ofCodeHash (answer : Record → List Nat) :
    Keeps (Frame.Over World.Reading) (ofCodeHash answer c args) := by
  refine (reading_argument args).bind fun codeHash => keeps_get.bind fun f => ?_
  exact (reading_onState (State.keeps_params.bind fun _ => State.keeps_activeRecord)).bind fun _ =>
    keeps_pure _

theorem reading_ofProgram (answer : Nat → Params → Record → List Nat) :
    Keeps (Frame.Over World.Reading) (ofProgram answer c args) := by
  refine (reading_addressArgument args).bind fun program => keeps_get.bind fun f => ?_
  refine (reading_onState ?_).bind fun _ => keeps_pure _
  exact State.keeps_params.bind fun _ => Access.keeps_codeHash.bind fun _ =>
    State.keeps_activeRecord.bind fun _ => keeps_pure _

theorem reading_ofParams (answer : Params → List Nat) (args : Octets) :
    Keeps (Frame.Over World.Reading) (ofParams answer c args) :=
  (reading_onState State.keeps_params).bind fun _ => keeps_pure _

theorem reading_minInitGas : Keeps (Frame.Over World.Reading) (minInitGas c args) :=
  (reading_onState State.keeps_params).bind fun _ => keeps_get.bind fun _ =>
    keeps_guard (keeps_pure _)

end Programs

namespace Pinning

theorem reading_isCacheManager : Keeps (Frame.Over World.Reading) (isCacheManager c args) :=
  (reading_addressArgument args).bind fun _ => (reading_onState State.keeps_contains).bind fun _ =>
    keeps_pure _

theorem reading_allCacheManagers (args : Octets) :
    Keeps (Frame.Over World.Reading) (allCacheManagers c args) :=
  (reading_onState State.keeps_all).bind fun _ => keeps_pure _

theorem reading_codehashIsCached : Keeps (Frame.Over World.Reading) (codehashIsCached c args) :=
  (reading_argument args).bind fun _ => (reading_onState State.keeps_record?).bind fun _ =>
    keeps_pure _

theorem continues_pinned (r : Record) (pinned : Bool) : r.Continues { r with pinned } :=
  ⟨rfl, rfl, rfl, rfl, rfl⟩

/-- A record that was read is the one that is renewed, if no slot changed in between. -/
theorem keepsFrom_renew {codeHash : Word} {r r' : Record} (hrenews : R.writes.Renews codeHash)
    (hrecord : f.world.ledger.view.record? codeHash = some r) (hr : r.Continues r')
    (hsame : f.Same g) :
    KeepsFrom (Frame.Over R.Follows) (onState c (State.setRecord codeHash r')) g := by
  refine keepsFrom_onState fun l hl => State.keepsFrom_setRecord ?_ hrenews.lifetime hrenews.fee
  refine hrenews.data l.view r r' ?_ hr
  rw [← hrecord]
  exact View.record?_of_slot (hl.slot.trans hsame.slot) codeHash

theorem keeps_announce {codeHash : Word} {r : Record} {pinned : Bool} :
    Keeps (Frame.Over R.Follows) (announce c codeHash r pinned) :=
  (keeps_emit _).bind fun _ => Keeps.follows (reading_pay _)

theorem same_announce {codeHash : Word} {r : Record} {pinned : Bool} :
    Keeps Frame.Same (announce c codeHash r pinned) :=
  (same_emit _).bind fun _ => Keeps.same (reading_pay _)

theorem ledger_load {wasm : Octets} {p : Params} {l : Loaded}
    (h : Gives (onWorld (do World.load wasm ((← get).settings p) true)) f l g) :
    g.world.ledger = f.world.ledger := by
  have hledger : Keeps (InvImage Eq World.ledger) (do World.load wasm ((← get).settings p) true) :=
    keeps_get.bind fun _ => World.sameLedger_load
  exact Eq.symm ((keeps_onWorld hledger).of_gives h)

/-- A program is pinned under the hash of its code, if its record is still the one that was read. -/
theorem keepsFrom_pin {x : Inspected} (hhash : x.codeHash = f.world.ledger.view.codeHash x.program)
    (hrecord : f.world.ledger.view.record? x.codeHash = some x.record) :
    KeepsFrom (Frame.Over R.Follows) (pin c x) f := by
  refine (keeps_announce f).bind fun u f₁ h₁ => ?_
  refine Rules.follows_of_sound fun hsound => ?_
  refine (Keeps.follows (reading_moduleAt x.program x.params) f₁).bind fun wasm f₂ h₂ => ?_
  have hsame₁ : f.Same f₁ := same_announce.of_gives h₁
  have hsame₂ : f₁.Same f₂ := (Keeps.same (reading_moduleAt _ _)).of_gives h₂
  have hrun : R.writes.Runs x.codeHash wasm := by
    refine runs_of_module hsound.coded ?_ (gives_moduleAt h₂)
    exact hhash.trans (View.codeHash_of_account hsame₁.account x.program).symm
  have hload : Keeps R.Follows (do World.load wasm ((← get).settings x.params) true) :=
    keeps_get.bind fun _ => World.keeps_load hrun
  refine (keeps_onWorld hload f₂).bind fun l f₃ h₃ => ?_
  have hledger : f₃.world.ledger = f₂.world.ledger := ledger_load h₃
  have hsame₃ : f₂.Same f₃ := ⟨by rw [hledger], by rw [hledger]⟩
  exact (keepsFrom_renew (R.renews hrun) hrecord (continues_pinned x.record true)
    (hsame₁.trans (hsame₂.trans hsame₃))).bind fun _ _ _ => keepsFrom_pure _ _

theorem keeps_cacheProgram : Keeps (Frame.Over R.Follows) (cacheProgram c args) := by
  rw [cacheProgram_eq]
  intro f
  refine (Keeps.follows reading_inspect f).bind fun x f₁ h₁ => ?_
  obtain ⟨-, -, -, hhash, hcurrent, -⟩ := gives_inspect h₁
  rw [← view_of_reading reading_inspect h₁] at hhash hcurrent
  exact keepsFrom_ite (fun _ => keepsFrom_pure _ _) fun _ => keepsFrom_pin hhash hcurrent.record

theorem keepsFrom_unpin {codeHash : Word} {r : Record} (hrenews : R.writes.Renews codeHash)
    (hrecord : f.world.ledger.view.record? codeHash = some r) :
    KeepsFrom (Frame.Over R.Follows) (unpin c codeHash r) f := by
  refine (keeps_announce f).bind fun u f₁ h₁ => ?_
  refine (Keeps.follows (reading_onState State.keeps_moduleHash) f₁).bind fun module f₂ h₂ => ?_
  have hsame₁ : f.Same f₁ := same_announce.of_gives h₁
  have hsame₂ : f₁.Same f₂ := (Keeps.same (reading_onState State.keeps_moduleHash)).of_gives h₂
  refine (keepsFrom_renew hrenews hrecord (continues_pinned r false)
    (hsame₁.trans hsame₂)).bind fun u₃ f₃ _ => ?_
  refine KeepsFrom.bind ?_ fun _ _ _ => keepsFrom_pure _ _
  exact Rules.follows_cache fun hw => R.evict module hw.cache

theorem keeps_evictCodehash (harg : ∀ h, Abi.firstWord? args = some h → R.writes.Renews h) :
    Keeps (Frame.Over R.Follows) (evictCodehash c args) := by
  rw [evictCodehash_eq]
  intro f
  refine (Keeps.follows reading_findPinned f).bind fun x f₁ h₁ => ?_
  obtain ⟨hword, -, hpinned⟩ := gives_findPinned h₁
  cases hfound : x.2 with
  | none => exact keepsFrom_pure _ _
  | some r =>
    have hrecord := ((hpinned r).mp hfound).1
    rw [← view_of_reading reading_findPinned h₁] at hrecord
    exact keepsFrom_unpin (harg _ hword) hrecord

end Pinning

/-! ### Which methods do more than read -/

/-- Methods whose argument is a code hash and which write its record. -/
def renewing : List String := ["codehashKeepalive(bytes32)", "evictCodehash(bytes32)"]

/-- A method only reads, or it is one of a few that keep the rules. -/
def Method.Fits (signatures : List String) (m : Method) : Prop :=
  (∀ c args, Keeps (Frame.Over World.Reading) (m.run c args)) ∨
    m.Mutates ∧ m.signature ∈ signatures ∧ ∀ (R : Rules) c args,
      (m.signature ∈ renewing → ∀ h, Abi.firstWord? args = some h → R.writes.Renews h) →
        Keeps (Frame.Over R.Follows) (m.run c args)

section

variable {signatures : List String} {signature : String} {mutability : Mutability}
  {run : Call → Octets → MethodM Octets}

theorem Method.fits_of_reads (h : ∀ c args, Keeps (Frame.Over World.Reading) (run c args)) :
    Method.Fits signatures ⟨signature, mutability, run⟩ := .inl h

theorem Method.fits_of_keeps (hmutates : mutability = .nonpayable ∨ mutability = .payable)
    (hmem : signature ∈ signatures)
    (h : ∀ (R : Rules) c args,
      (signature ∈ renewing → ∀ h, Abi.firstWord? args = some h → R.writes.Renews h) →
        Keeps (Frame.Over R.Follows) (run c args)) :
    Method.Fits signatures ⟨signature, mutability, run⟩ := .inr ⟨hmutates, hmem, h⟩

end

def Programs.mutating : List String := ["activateProgram(address)", "codehashKeepalive(bytes32)"]

def Pinning.mutating : List String := ["cacheProgram(address)", "evictCodehash(bytes32)"]

theorem Programs.methods_fit (hm : m ∈ methods) : m.Fits mutating := by
  simp only [methods, List.mem_cons, List.not_mem_nil, or_false] at hm
  rcases hm with rfl | rfl | rfl | rfl | rfl | rfl | rfl | rfl | rfl | rfl | rfl | rfl | rfl | rfl |
    rfl | rfl | rfl | rfl | rfl | rfl
  · exact Method.fits_of_keeps (.inr rfl) (.head _) fun R c args _ => keeps_activateProgram
  · exact Method.fits_of_reads fun c args => reading_ofParams _ args
  · exact Method.fits_of_reads fun c args => reading_ofCodeHash _
  · exact Method.fits_of_keeps (.inr rfl) (.tail _ (.head _)) fun R c args h =>
      keeps_codehashKeepalive (h (.head _))
  · exact Method.fits_of_reads fun c args => reading_ofCodeHash _
  · exact Method.fits_of_reads fun c args => reading_ofProgram _
  · exact Method.fits_of_reads fun c args => reading_ofProgram _
  · exact Method.fits_of_reads fun c args => reading_ofProgram _
  · exact Method.fits_of_reads fun c args => reading_ofProgram _
  · exact Method.fits_of_reads fun c args => reading_ofParams _ args
  · exact Method.fits_of_reads fun c args => reading_ofParams _ args
  · exact Method.fits_of_reads fun c args => reading_ofParams _ args
  · exact Method.fits_of_reads fun c args => reading_ofParams _ args
  · exact Method.fits_of_reads fun c args => reading_ofParams _ args
  · exact Method.fits_of_reads fun c args => reading_ofParams _ args
  · exact Method.fits_of_reads fun c args => reading_minInitGas
  · exact Method.fits_of_reads fun c args => reading_ofParams _ args
  · exact Method.fits_of_reads fun c args => reading_ofParams _ args
  · exact Method.fits_of_reads fun c args => reading_ofParams _ args
  · exact Method.fits_of_reads fun c args => reading_ofParams _ args

theorem Pinning.methods_fit (hm : m ∈ methods) : m.Fits mutating := by
  simp only [methods, List.mem_cons, List.not_mem_nil, or_false] at hm
  rcases hm with rfl | rfl | rfl | rfl | rfl
  · exact Method.fits_of_reads fun c args => reading_isCacheManager
  · exact Method.fits_of_reads fun c args => reading_allCacheManagers args
  · exact Method.fits_of_keeps (.inl rfl) (.head _) fun R c args _ => keeps_cacheProgram
  · exact Method.fits_of_keeps (.inl rfl) (.tail _ (.head _)) fun R c args h =>
      keeps_evictCodehash (h (.tail _ (.head _)))
  · exact Method.fits_of_reads fun c args => reading_codehashIsCached

theorem Programs.nodup_signatures : (Programs.methods.map Method.signature).Nodup := by decide

theorem Pinning.nodup_signatures : (Pinning.methods.map Method.signature).Nodup := by decide

theorem Programs.eq_of_mutating (hm : m ∈ methods) (hs : m.signature ∈ mutating) :
    m = ⟨"activateProgram(address)", .payable, activateProgram⟩ ∨
      m = ⟨"codehashKeepalive(bytes32)", .payable, codehashKeepalive⟩ := by
  have hknown := fun m' hm' => List.inj_on_of_nodup_map nodup_signatures hm (y := m') hm'
  rcases List.mem_pair.mp hs with hs | hs
  · exact .inl (hknown ⟨_, .payable, activateProgram⟩ (by simp [methods]) hs)
  · exact .inr (hknown ⟨_, .payable, codehashKeepalive⟩ (by simp [methods]) hs)

theorem Pinning.eq_of_mutating (hm : m ∈ methods) (hs : m.signature ∈ mutating) :
    m = ⟨"cacheProgram(address)", .nonpayable, cacheProgram⟩ ∨
      m = ⟨"evictCodehash(bytes32)", .nonpayable, evictCodehash⟩ := by
  have hknown := fun m' hm' => List.inj_on_of_nodup_map nodup_signatures hm (y := m') hm'
  rcases List.mem_pair.mp hs with hs | hs
  · exact .inl (hknown ⟨_, .nonpayable, cacheProgram⟩ (by simp [methods]) hs)
  · exact .inr (hknown ⟨_, .nonpayable, evictCodehash⟩ (by simp [methods]) hs)

theorem keeps_dispatch_of_fits {signatures : List String} {methods : List Method}
    (hfits : ∀ m ∈ methods, m.Fits signatures)
    (harg : ∀ s ∈ renewing, c.input.take 4 = Abi.selectorOf s → ∀ h,
      Abi.firstWord? (c.input.drop 4) = some h → R.writes.Renews h) :
    Keeps (Frame.Over R.Follows) (dispatch methods c) := by
  refine keeps_dispatch fun m hm hselector => ?_
  rcases hfits m hm with hreads | ⟨-, -, hkeeps⟩
  · exact Keeps.follows (hreads _ _)
  · exact hkeeps R _ _ fun hs => harg _ hs hselector.symm

theorem reading_dispatch_of_fits {signatures : List String} {methods : List Method}
    (hfits : ∀ m ∈ methods, m.Fits signatures)
    (h : c.frozen = true ∨ ∀ s ∈ signatures, c.input.take 4 ≠ Abi.selectorOf s) :
    Keeps (Frame.Over World.Reading) (dispatch methods c) := by
  refine reading_dispatch fun m hm hselector => ?_
  rcases hfits m hm with hreads | ⟨hmutates, hsignature, -⟩
  · exact .inl (hreads _ _)
  · refine .inr ⟨?_, hmutates⟩
    rcases h with h | h
    · exact h
    · exact absurd hselector.symm (h _ hsignature)

theorem methodsAt?_fit {methods : List Method} (h : methodsAt? c.codeAt = some methods) :
    ∃ signatures, (∀ m ∈ methods, m.Fits signatures) ∧
      (c.codeAt = programsAddress ∧ signatures = Programs.mutating ∨
        c.codeAt = pinningAddress ∧ signatures = Pinning.mutating) := by
  unfold methodsAt? at h
  by_cases hprograms : c.codeAt = programsAddress
  · rw [if_pos hprograms] at h
    obtain rfl := Option.some.inj h
    exact ⟨_, fun m => Programs.methods_fit, .inl ⟨hprograms, rfl⟩⟩
  rw [if_neg hprograms] at h
  by_cases hpinning : c.codeAt = pinningAddress
  · rw [if_pos hpinning] at h
    obtain rfl := Option.some.inj h
    exact ⟨_, fun m => Pinning.methods_fit, .inr ⟨hpinning, rfl⟩⟩
  · rw [if_neg hpinning] at h
    cases h

theorem follows_invoke {signatures : List String} {methods : List Method}
    (hfits : ∀ m ∈ methods, m.Fits signatures)
    (harg : ∀ s ∈ renewing, c.input.take 4 = Abi.selectorOf s → ∀ h,
      Abi.firstWord? (c.input.drop 4) = some h → R.writes.Renews h) :
    R.Follows w ((invoke methods c).run w).2 := by
  rw [run_invoke]
  split
  · exact Std.Refl.refl w
  · exact keeps_dispatch_of_fits hfits harg ⟨w, c.gas⟩

/-- A call of a system contract is refused, and nothing is done, or the contract is invoked and what it
does is kept if it returns. -/
theorem call_cases (c : Call) (w : World) :
    ((call c).run w).2 = w ∧ (∀ r, ((call c).run w).1 = some r → r.succeeded = false) ∨
      ∃ methods, methodsAt? c.codeAt = some methods ∧ (c.frozen = false → c.target = c.codeAt) ∧
        (call c).run w = ((Call.keepIfReturned (invoke methods c)).run w).map some id := by
  unfold call
  cases hmethods : methodsAt? c.codeAt with
  | none => exact .inl ⟨rfl, fun r h => (nomatch h)⟩
  | some methods =>
    dsimp only
    by_cases hforeign : !c.frozen ∧ c.target ≠ c.codeAt
    · rw [if_pos hforeign]
      refine .inl ⟨rfl, fun r h => ?_⟩
      rw [← Option.some.inj h]
      rfl
    · rw [if_neg hforeign]
      refine .inr ⟨methods, rfl, fun hthawed => ?_, rfl⟩
      by_contra hne
      exact hforeign ⟨by simp [hthawed], hne⟩

theorem follows_call (R : Rules) (c : Call) (w : World)
    (harg : ∀ s ∈ renewing, c.input.take 4 = Abi.selectorOf s → ∀ h,
      Abi.firstWord? (c.input.drop 4) = some h → R.writes.Renews h) :
    R.Follows w ((call c).run w).2 := by
  rcases call_cases c w with ⟨hstays, -⟩ | ⟨methods, hmethods, -, hcall⟩
  · rw [hstays]
    exact Std.Refl.refl w
  · rw [hcall]
    obtain ⟨signatures, hfits, -⟩ := methodsAt?_fit hmethods
    exact Call.follows_keepIfReturned (follows_invoke hfits harg)

end Inkwell.SystemContract
