import Inkwell.Proofs.Deploy
import Inkwell.Proofs.Keccak
import Inkwell.Proofs.Methods
import Inkwell.Session
set_option autoImplicit false

/-! How calls, frames and deployments end: they return and have done what they are there for, or
nothing lasts of them. -/

namespace Inkwell

namespace Abi

theorem length_selectorOf (signature : String) : (selectorOf signature).length = 4 := by
  rw [selectorOf, List.length_take, Keccak.length_digest]
  rfl

theorem selectorOf_activateProgram :
    selectorOf "activateProgram(address)" = [0x58, 0xc7, 0x80, 0xc2] := by
  rw [selectorOf, Keccak.digest_eq]
  decide +kernel

theorem selectorOf_stylusVersion : selectorOf "stylusVersion()" = [0xa9, 0x96, 0xe0, 0xc2] := by
  rw [selectorOf, Keccak.digest_eq]
  decide +kernel

theorem selectorOf_codehashVersion :
    selectorOf "codehashVersion(bytes32)" = [0xd7, 0x0c, 0x0c, 0xa7] := by
  rw [selectorOf, Keccak.digest_eq]
  decide +kernel

theorem selectorOf_codehashKeepalive :
    selectorOf "codehashKeepalive(bytes32)" = [0xc6, 0x89, 0xba, 0xd5] := by
  rw [selectorOf, Keccak.digest_eq]
  decide +kernel

theorem selectorOf_isCacheManager :
    selectorOf "isCacheManager(address)" = [0x85, 0xe2, 0xde, 0x85] := by
  rw [selectorOf, Keccak.digest_eq]
  decide +kernel

theorem selectorOf_allCacheManagers : selectorOf "allCacheManagers()" = [0x0e, 0xc1, 0xd7, 0x73] := by
  rw [selectorOf, Keccak.digest_eq]
  decide +kernel

theorem selectorOf_cacheProgram : selectorOf "cacheProgram(address)" = [0xe7, 0x3a, 0xc9, 0xf2] := by
  rw [selectorOf, Keccak.digest_eq]
  decide +kernel

theorem selectorOf_evictCodehash :
    selectorOf "evictCodehash(bytes32)" = [0xce, 0x97, 0x20, 0x13] := by
  rw [selectorOf, Keccak.digest_eq]
  decide +kernel

end Abi

/-- Nothing that lasts has changed, but that a receiver without room may have cost a sender money. -/
structure Ledger.Undone (l m : Ledger) : Prop where
  slot : m.slot = l.slot
  logs : m.logs = l.logs
  account : l.Bounded → m.account = l.account

theorem Ledger.Reaches.undone_revert {W : Writes} {l m : Ledger} (h : l.Reaches W m) :
    l.Undone (m.revert l.checkpoint) := ⟨h.revert_slot, h.revert_logs, h.revert_account⟩

theorem Ledger.Undone.of_reads {l m n : Ledger} (h : m.Undone n) (hreads : l.Reads m) : l.Undone n where
  slot := h.slot.trans hreads.slot
  logs := h.logs.trans (congrArg View.logs hreads.view)
  account hl := (h.account (Reaches.bounded (W := .any) hreads.reaches hl)).trans
    hreads.account

theorem Ledger.Reads.undone {l m : Ledger} (h : l.Reads m) : l.Undone m :=
  ⟨h.slot, congrArg View.logs h.view, fun _ => h.account⟩

/-- All that was done is to fetch, but for what was undone after that. -/
inductive Ledger.Back (l : Ledger) : Ledger → Prop
  | reads {m : Ledger} : l.Reads m → Back l m
  | reverted {m n : Ledger} : l.Reads m → m.Reaches .any n → Back l (n.revert m.checkpoint)

namespace Ledger.Back

variable {l m n : Ledger}

theorem of_reads (h : m.Back n) (hreads : l.Reads m) : l.Back n := by
  cases h with
  | reads hreads' => exact .reads (hreads.trans hreads')
  | reverted hreads' hreaches => exact .reverted (hreads.trans hreads') hreaches

theorem undone (h : l.Back m) : l.Undone m := by
  cases h with
  | reads hreads => exact hreads.undone
  | reverted hreads hreaches => exact hreaches.undone_revert.of_reads hreads

theorem view (h : l.Back m) (hexact : l.Exact) : m.view = l.view := by
  cases h with
  | reads hreads => exact hreads.view
  | reverted hreads hreaches => exact ((hreads.exact hexact) _ hreaches).trans hreads.view

end Ledger.Back

/-- A call returns with the view as `E` says, or nothing lasts of it. -/
def Call.Ends (E : View → Prop) (w : World) (o : Option CallResult × World) : Prop :=
  (∃ r, o.1 = some r ∧ r.succeeded = true ∧ E o.2.ledger.view) ∨
    (∀ r, o.1 = some r → r.succeeded = false) ∧ w.ledger.Undone o.2.ledger

namespace Call

variable {E : View → Prop} {w w₀ : World} {c : Call} {runner : Runner}

theorem Ends.of_returned {r : CallResult} {w' : World} (h : Ends E w₀ (some r, w'))
    (hr : r.succeeded = true) : E w'.ledger.view := by
  rcases h with ⟨-, -, -, hE⟩ | ⟨hfails, -⟩
  · exact hE
  · rw [hfails r rfl] at hr
    cases hr

theorem ends_keepIfReturned {m : StateM World CallResult} (hreads : w₀.ledger.Reads w.ledger)
    (hkeeps : (Rules.any).Follows w (m.run w).2)
    (hE : ∀ r w', m.run w = (r, w') → r.succeeded = true → E w'.ledger.view) :
    Ends E w₀ (((keepIfReturned m).run w).map some id) := by
  rw [run_keepIfReturned]
  by_cases hr : (m.run w).1.succeeded = true
  · refine .inl ⟨_, rfl, hr, ?_⟩
    simp only [Prod.map, if_pos hr, id]
    exact hE _ _ rfl hr
  · refine .inr ⟨fun r h => ?_, ?_⟩
    · rw [← Option.some.inj h]
      simpa using hr
    · simp only [Prod.map, if_neg hr, id]
      change w₀.ledger.Undone ((m.run w).2.ledger.revert w.ledger.checkpoint)
      rw [hreads.checkpoint]
      exact (hreads.reaches.trans (hkeeps.ledger (Rules.sound_any w))).undone_revert

theorem run_ends (runner : Runner) (c : Call) (w : World) :
    Ends (Effect c w) w ((run runner c).run w) := by
  obtain ⟨l, hreads, ⟨hstays, hfails⟩ | ⟨p, wasm, hp, hmodule, hrun⟩⟩ := run_cases runner c w
  · refine .inr ⟨hfails, ?_⟩
    rw [hstays]
    exact hreads.undone
  rw [hrun]
  have hruns : (Rules.any).writes.Runs (keccak (w.ledger.account c.codeAt).code) wasm :=
    ⟨_, _, trivial, rfl, hmodule⟩
  have hkeeps : Keeps (Rules.any).Follows (execute runner c p _ wasm) := keeps_execute hruns
  refine ends_keepIfReturned hreads ?_ fun r w' hfinish hr => ?_
  · rw [run_finish]
    exact hkeeps _
  · obtain ⟨x, w₁, hprepare, hledger⟩ := prepared_of_returned hfinish hr
    rw [hledger]
    exact prepare_effect hreads (w.cache.artifacts_startBlock _) hp hmodule hprepare

end Call

namespace SystemContract

variable {w : World} {c : Call} {f g : Frame} {out : Octets} {m : Method}
  {methods before after : List Method}

theorem world_of_pay {cost : Nat} {u : Unit} (h : Gives (pay cost) f u g) : g.world = f.world := by
  obtain ⟨f', t, hget, h⟩ := gives_bind.mp h
  obtain ⟨rfl, rfl⟩ := gives_get.mp hget
  obtain ⟨-, h⟩ := gives_guard.mp h
  rw [← gives_set.mp h]

theorem gives_answer (h : Gives (m.answer c) f out g) :
    (m.Mutates → c.frozen = false) ∧ (m.mutability ≠ .payable → c.value = 0) ∧
      Gives (m.run c (c.input.drop 4)) f out g := by
  unfold Method.answer at h
  obtain ⟨hthawed, h⟩ := gives_guard.mp h
  obtain ⟨hfree, h⟩ := gives_guard.mp h
  refine ⟨fun hm => ?_, fun hm => ?_, h⟩
  · simpa using fun hfrozen => hthawed ⟨hfrozen, hm⟩
  · by_contra hvalue
    exact hfree ⟨hm, hvalue⟩

theorem gives_dispatch (h : Gives (dispatch methods c) f out g) :
    methods.find? (·.selector = c.input.take 4) = none ∧ g.world = f.world ∨ ∃ m f',
      methods.find? (·.selector = c.input.take 4) = some m ∧ f'.world = f.world ∧
        Gives (m.answer c) f' out g := by
  rw [dispatch_eq] at h
  obtain ⟨u, f₁, hpay, h⟩ := gives_bind.mp h
  have hw₁ := world_of_pay hpay
  cases hm : methods.find? (·.selector = c.input.take 4) with
  | none =>
    rw [hm] at h
    obtain ⟨-, rfl⟩ := gives_pure.mp h
    exact .inl ⟨rfl, hw₁⟩
  | some m =>
    rw [hm] at h
    dsimp only at h
    by_cases hpure : m.mutability ≠ .pure
    · rw [if_pos hpure] at h
      obtain ⟨u, f₂, hread, h⟩ := gives_bind.mp h
      exact .inr ⟨m, f₂, rfl, (world_of_pay hread).trans hw₁, h⟩
    · rw [if_neg hpure] at h
      exact .inr ⟨m, f₁, rfl, hw₁, h⟩

/-- Of the methods that fit, those that do more than read. -/
theorem effect_of_methods {signatures : List String} (hfits : ∀ m ∈ methods, m.Fits signatures)
    (hidle : Idle c)
    (heffect : ∀ m ∈ methods, m.signature ∈ signatures → m.selector = c.input.take 4 →
      c.frozen = false → ∀ f, Gives (m.run c (c.input.drop 4)) f out g →
        Effect c f.world g.world.ledger.view)
    (h : Gives (dispatch methods c) f out g) : Effect c f.world g.world.ledger.view := by
  rcases gives_dispatch h with ⟨-, hworld⟩ | ⟨m, f', hm, hworld, hanswer⟩
  · rw [hworld]
    exact .nothing hidle
  obtain ⟨hthawed, -, hrun⟩ := gives_answer hanswer
  have hselector : m.selector = c.input.take 4 := by simpa using List.find?_some hm
  have hm := List.mem_of_find?_eq_some hm
  rw [← hworld]
  rcases hfits m hm with hreads | ⟨hmutates, hsignature, -⟩
  · rw [view_of_reading (hreads _ _) hrun]
    exact .nothing hidle
  · exact heffect m hm hsignature hselector (hthawed hmutates) f' hrun

theorem run_of_find {m : Method} (hm : methods.find? (·.selector = c.input.take 4) = some m)
    (hmutates : m.Mutates) (h : Gives (dispatch methods c) f out g) :
    c.frozen = false ∧ ∃ f', f'.world = f.world ∧ Gives (m.run c (c.input.drop 4)) f' out g := by
  rcases gives_dispatch h with ⟨hnone, -⟩ | ⟨m', f', hm', hworld, hanswer⟩
  · rw [hm] at hnone
    cases hnone
  · obtain rfl := Option.some.inj (hm.symm.trans hm')
    obtain ⟨hthawed, -, hrun⟩ := gives_answer hanswer
    exact ⟨hthawed hmutates, f', hworld, hrun⟩

theorem Asks.not_keepalive {a b : Address} (h : Asks c a "activateProgram(address)") :
    ¬ Asks c b "codehashKeepalive(bytes32)" := fun h' => by
  have hselectors := h.selector.symm.trans h'.selector
  rw [Abi.selectorOf_activateProgram, Abi.selectorOf_codehashKeepalive] at hselectors
  exact absurd hselectors (by decide)

theorem Programs.find_activateProgram
    (hselector : c.input.take 4 = Abi.selectorOf "activateProgram(address)") :
    Programs.methods.find? (·.selector = c.input.take 4) =
      some ⟨"activateProgram(address)", .payable, Programs.activateProgram⟩ :=
  List.find?_cons_of_pos (decide_eq_true hselector.symm)

theorem find_of_first (hm : m.selector = c.input.take 4)
    (hbefore : ∀ m' ∈ before, m'.selector ≠ m.selector) :
    (before ++ m :: after).find? (·.selector = c.input.take 4) = some m := by
  have hnone : before.find? (·.selector = c.input.take 4) = none := by
    rw [List.find?_eq_none]
    intro m' hm' hselector
    exact hbefore m' hm' ((of_decide_eq_true hselector).trans hm.symm)
  rw [List.find?_append, hnone, Option.none_or]
  exact List.find?_cons_of_pos (decide_eq_true hm)

theorem Programs.find_codehashKeepalive
    (hselector : c.input.take 4 = Abi.selectorOf "codehashKeepalive(bytes32)") :
    Programs.methods.find? (·.selector = c.input.take 4) =
      some ⟨"codehashKeepalive(bytes32)", .payable, Programs.codehashKeepalive⟩ := by
  have hsplit : Programs.methods = Programs.methods.take 3 ++
      ⟨"codehashKeepalive(bytes32)", .payable, Programs.codehashKeepalive⟩ ::
        Programs.methods.drop 4 := rfl
  rw [hsplit]
  refine find_of_first hselector.symm fun m hm => ?_
  simp only [Programs.methods, List.take_succ_cons, List.take_zero, List.mem_cons,
    List.not_mem_nil, or_false] at hm
  unfold Method.selector
  rcases hm with rfl | rfl | rfl <;>
    simp only [Abi.selectorOf_activateProgram, Abi.selectorOf_stylusVersion,
      Abi.selectorOf_codehashVersion, Abi.selectorOf_codehashKeepalive] <;> decide

theorem Pinning.find_cacheProgram
    (hselector : c.input.take 4 = Abi.selectorOf "cacheProgram(address)") :
    Pinning.methods.find? (·.selector = c.input.take 4) =
      some ⟨"cacheProgram(address)", .nonpayable, Pinning.cacheProgram⟩ := by
  have hsplit : Pinning.methods = Pinning.methods.take 2 ++
      ⟨"cacheProgram(address)", .nonpayable, Pinning.cacheProgram⟩ :: Pinning.methods.drop 3 := rfl
  rw [hsplit]
  refine find_of_first hselector.symm fun m hm => ?_
  simp only [Pinning.methods, List.take_succ_cons, List.take_zero, List.mem_cons,
    List.not_mem_nil, or_false] at hm
  unfold Method.selector
  rcases hm with rfl | rfl <;>
    simp only [Abi.selectorOf_isCacheManager, Abi.selectorOf_allCacheManagers,
      Abi.selectorOf_cacheProgram] <;> decide

theorem Pinning.find_evictCodehash
    (hselector : c.input.take 4 = Abi.selectorOf "evictCodehash(bytes32)") :
    Pinning.methods.find? (·.selector = c.input.take 4) =
      some ⟨"evictCodehash(bytes32)", .nonpayable, Pinning.evictCodehash⟩ := by
  have hsplit : Pinning.methods = Pinning.methods.take 3 ++
      ⟨"evictCodehash(bytes32)", .nonpayable, Pinning.evictCodehash⟩ :: Pinning.methods.drop 4 := rfl
  rw [hsplit]
  refine find_of_first hselector.symm fun m hm => ?_
  simp only [Pinning.methods, List.take_succ_cons, List.take_zero, List.mem_cons,
    List.not_mem_nil, or_false] at hm
  unfold Method.selector
  rcases hm with rfl | rfl | rfl <;>
    simp only [Abi.selectorOf_isCacheManager, Abi.selectorOf_allCacheManagers,
      Abi.selectorOf_cacheProgram, Abi.selectorOf_evictCodehash] <;> decide

section
variable (htarget : c.frozen = false → c.target = c.codeAt) (h : Gives (dispatch methods c) f out g)
include htarget h

theorem Programs.effect_dispatch (hat : c.codeAt = programsAddress)
    (hmethods : methods = Programs.methods) : Effect c f.world g.world.ledger.view := by
  subst hmethods
  have hasks : ∀ s, c.frozen = false → c.input.take 4 = Abi.selectorOf s →
      Asks c programsAddress s := fun s hthawed hselector =>
    ⟨hat, (htarget hthawed).trans hat, hthawed, hselector⟩
  by_cases hactivate : c.input.take 4 = Abi.selectorOf "activateProgram(address)"
  · obtain ⟨hthawed, f', hworld, hrun⟩ := run_of_find (find_activateProgram hactivate) (.inr rfl) h
    rw [← hworld]
    exact effect_activateProgram (hasks _ hthawed hactivate) hrun
  by_cases hkeepalive : c.input.take 4 = Abi.selectorOf "codehashKeepalive(bytes32)"
  · obtain ⟨hthawed, f', hworld, hrun⟩ := run_of_find (find_codehashKeepalive hkeepalive) (.inr rfl) h
    rw [← hworld]
    exact effect_codehashKeepalive (hasks _ hthawed hkeepalive) hrun
  have hidle : Idle c := fun _ s hs => by
    rcases List.mem_pair.mp hs with rfl | rfl
    · exact hactivate
    · exact hkeepalive
  refine effect_of_methods (fun _ => methods_fit) hidle (fun m hm hs hselector hthawed f' hrun => ?_) h
  exact absurd hselector.symm (hidle hat _ hs)

theorem Pinning.effect_dispatch (hat : c.codeAt = pinningAddress)
    (hmethods : methods = Pinning.methods) : Effect c f.world g.world.ledger.view := by
  subst hmethods
  refine effect_of_methods (fun _ => methods_fit) (idle_of_pinning hat)
    (fun m hm hs hselector hthawed f' hrun => ?_) h
  have hasks : Asks c pinningAddress m.signature :=
    ⟨hat, (htarget hthawed).trans hat, hthawed, hselector.symm⟩
  rcases eq_of_mutating hm hs with rfl | rfl
  · exact effect_cacheProgram hasks hrun
  · exact effect_evictCodehash hasks hrun

end

theorem long_of_selector {signature : String} (h : c.input.take 4 = Abi.selectorOf signature) :
    4 ≤ c.input.length := by
  have hlength := Abi.length_selectorOf signature
  rw [← h, List.length_take] at hlength
  omega

theorem idle_of_short (h : c.input.length < 4) : Idle c :=
  fun _ _ _ hselector => absurd (long_of_selector hselector) (Nat.not_le.mpr h)

theorem methodsAt?_cases (h : methodsAt? c.codeAt = some methods) :
    c.codeAt = programsAddress ∧ methods = Programs.methods ∨
      c.codeAt = pinningAddress ∧ methods = Pinning.methods := by
  unfold methodsAt? at h
  by_cases hprograms : c.codeAt = programsAddress
  · rw [if_pos hprograms] at h
    exact .inl ⟨hprograms, (Option.some.inj h).symm⟩
  rw [if_neg hprograms] at h
  by_cases hpinning : c.codeAt = pinningAddress
  · rw [if_pos hpinning] at h
    exact .inr ⟨hpinning, (Option.some.inj h).symm⟩
  · rw [if_neg hpinning] at h
    cases h

theorem answered_of_succeeded {limit gas : Nat} {r : Except Stop Octets}
    (h : (chargeOutput (result limit gas r)).succeeded = true) : ∃ out, r = .ok out := by
  have hverdict : (result limit gas r).verdict = .returned := by
    unfold chargeOutput at h
    dsimp only at h
    split at h
    · cases h
    · simpa [CallResult.succeeded] using h
  cases r with
  | ok out => exact ⟨out, rfl⟩
  | error s =>
    cases s with
    | unpaid e => cases e <;> cases hverdict
    | _ => cases hverdict

theorem invoke_returned {w' : World} {r : CallResult} (h : (invoke methods c).run w = (r, w'))
    (hr : r.succeeded = true) : c.input.length < 4 ∧ w' = w ∨
      ∃ out g, Gives (dispatch methods c) ⟨w, c.gas⟩ out g ∧ w' = g.world := by
  rw [run_invoke] at h
  by_cases hshort : c.input.length < 4
  · rw [if_pos hshort] at h
    exact .inl ⟨hshort, (Prod.mk.inj h).2.symm⟩
  rw [if_neg hshort] at h
  rcases hdispatch : outcome (dispatch methods c) ⟨w, c.gas⟩ with ⟨x, g⟩
  rw [hdispatch] at h
  obtain ⟨rfl, rfl⟩ := Prod.mk.inj h
  obtain ⟨out, rfl⟩ := answered_of_succeeded hr
  exact .inr ⟨out, g, hdispatch, rfl⟩

theorem invoked_of_returned {w' : World} {r : CallResult} (hcall : (call c).run w = (some r, w'))
    (hr : r.succeeded = true) :
    ∃ methods, methodsAt? c.codeAt = some methods ∧ (invoke methods c).run w = (r, w') := by
  rcases call_cases c w with ⟨-, hfails⟩ | ⟨methods, hmethods, -, hkept⟩
  · rw [hfails r (congrArg Prod.fst hcall)] at hr
    cases hr
  · rw [hcall, Call.run_keepIfReturned] at hkept
    rcases hinvoke : (invoke methods c).run w with ⟨x, t⟩
    rw [hinvoke] at hkept
    obtain ⟨hx, ht⟩ := Prod.mk.inj hkept
    obtain rfl := Option.some.inj hx
    simp only [if_pos hr, id] at ht
    subst ht
    exact ⟨methods, hmethods, hinvoke⟩

theorem call_ends (c : Call) (w : World) : Call.Ends (Effect c w) w ((call c).run w) := by
  rcases call_cases c w with ⟨hstays, hfails⟩ | ⟨methods, hmethods, htarget, hcall⟩
  · refine .inr ⟨hfails, ?_⟩
    rw [hstays]
    exact Ledger.Reads.refl.undone
  rw [hcall]
  obtain ⟨signatures, hfits, -⟩ := methodsAt?_fit hmethods
  refine Call.ends_keepIfReturned (m := invoke methods c) .refl ?_ fun r w' hinvoke hr => ?_
  · exact follows_invoke hfits fun _ _ _ h _ => Writes.renews_any h
  rcases invoke_returned hinvoke hr with ⟨hshort, rfl⟩ | ⟨out, g, hdispatch, rfl⟩
  · exact .nothing (idle_of_short hshort)
  rcases methodsAt?_cases hmethods with ⟨hat, hmethods⟩ | ⟨hat, hmethods⟩
  · exact Programs.effect_dispatch htarget hdispatch hat hmethods
  · exact Pinning.effect_dispatch htarget hdispatch hat hmethods

theorem effect_of_called {w' : World} {r : CallResult} (hcall : (call c).run w = (some r, w'))
    (hr : r.succeeded = true) : Effect c w w'.ledger.view := by
  have hends := call_ends c w
  rw [hcall] at hends
  rcases hends with ⟨-, -, -, heffect⟩ | ⟨hfails, -⟩
  · exact heffect
  · rw [hfails r rfl] at hr
    cases hr

end SystemContract

/-! ### Frames -/

namespace World

variable {w : World} {c : Call} {run : Call → StateM World (Option CallResult)}
  {E : Call → World → View → Prop}

/-- The value of a call has been moved to its target, if it has to be. -/
def Paid (pay : Bool) (c : Call) (v u : View) : Prop :=
  if pay then View.Pays c.caller c.target c.value v u else u = v

theorem undone_revert {w' : World} (h : (Rules.any).Follows w w') :
    w.ledger.Undone (w'.revert w.ledger.checkpoint).ledger :=
  (h.ledger (Rules.sound_any w)).undone_revert

/-- A frame goes back to where it started, or its call returns and all that it did stays. -/
theorem frame_cases (pay : Bool) (c : Call) (run : Call → StateM World (Option CallResult))
    (w : World) :
    (∃ w', (w.frame pay c run).2 = w'.revert w.ledger.checkpoint ∧
      (∀ r, (w.frame pay c run).1 = .ok (some r) → r.succeeded = false) ∧
      ∀ R : Rules, (∀ w, R.Follows w ((run c).run w).2) → R.Follows w w') ∨
    ∃ l r w', w.frame pay c run = (.ok (some r), w') ∧ r.succeeded = true ∧
      (run c).run { w with ledger := l } = (some r, w') ∧ Paid pay c w.ledger.view l.view ∧
      ∀ R : Rules, R.Follows w { w with ledger := l } := by
  obtain ⟨x, l, hmoved, hstart, hpaid⟩ : ∃ x l,
      (if pay then w.bare (Ledger.transfer c.caller c.target c.value) else (.ok none, w)) =
          (x, { w with ledger := l }) ∧
        (∀ R : Rules, R.Follows w { w with ledger := l }) ∧
        (x = .ok none → Paid pay c w.ledger.view l.view) := by
    cases pay with
    | true =>
      exact ⟨_, _, rfl, fun R => Rules.follows_ledger fun _ => Ledger.keeps_transfer w.ledger,
        fun hx => Ledger.gives_transfer (Prod.ext hx rfl)⟩
    | false => exact ⟨_, w.ledger, rfl, fun R => Std.Refl.refl w, fun _ => rfl⟩
  unfold frame
  rw [hmoved]
  rcases x with f | (_ | e)
  · exact .inl ⟨_, rfl, fun r h => (nomatch h), fun R _ => hstart R⟩
  · have hcalled := fun (R : Rules) (h : ∀ w, R.Follows w ((run c).run w).2) =>
      (hstart R).trans (h { w with ledger := l })
    rcases hrun : (run c).run { w with ledger := l } with ⟨r, w'⟩
    rw [hrun] at hcalled
    dsimp only
    rw [hrun]
    cases r with
    | none => exact .inl ⟨w', rfl, fun r h => (nomatch h), hcalled⟩
    | some r =>
      by_cases hr : r.succeeded = true
      · simp only [if_pos hr]
        exact .inr ⟨l, r, w', rfl, hr, hrun, hpaid rfl, hstart⟩
      · simp only [if_neg hr]
        refine .inl ⟨w', rfl, fun r' h => ?_, hcalled⟩
        cases h
        simpa using hr
  · exact .inl ⟨_, rfl, fun r h => (nomatch h), fun R _ => hstart R⟩

/-- A frame whose call returns has moved the value, and the call has done what it is there for. -/
theorem frame_ends (hends : ∀ w, Call.Ends (E c w) w ((run c).run w))
    (hfollows : ∀ w, (Rules.any).Follows w ((run c).run w).2) (pay : Bool) :
    (∃ r l, (w.frame pay c run).1 = .ok (some r) ∧ r.succeeded = true ∧
        Paid pay c w.ledger.view l.view ∧
        E c { w with ledger := l } (w.frame pay c run).2.ledger.view) ∨
      (∀ r, (w.frame pay c run).1 = .ok (some r) → r.succeeded = false) ∧
        w.ledger.Undone (w.frame pay c run).2.ledger := by
  rcases frame_cases pay c run w with
    ⟨w', hworld, hfails, hcalled⟩ | ⟨l, r, w', hframe, hr, hrun, hpaid, -⟩
  · rw [hworld]
    exact .inr ⟨hfails, undone_revert (hcalled _ hfollows)⟩
  · have hcall := hends { w with ledger := l }
    rw [hrun] at hcall
    rw [hframe]
    rcases hcall with ⟨_, -, -, heffect⟩ | ⟨hfails, -⟩
    · exact .inl ⟨r, l, rfl, hr, hpaid, heffect⟩
    · rw [hfails r rfl] at hr
      cases hr

theorem follows_frame {R : Rules} (h : ∀ w, R.Follows w ((run c).run w).2) (pay : Bool) :
    R.Follows w (w.frame pay c run).2 := by
  rcases frame_cases pay c run w with ⟨w', hworld, -, hcalled⟩ | ⟨l, r, w', hframe, -, hrun, -, hstart⟩
  · rw [hworld]
    exact (hcalled R h).revert
  · have hcall := h { w with ledger := l }
    rw [hrun] at hcall
    rw [hframe]
    exact (hstart R).trans hcall

end World

/-! ### Deployments -/

namespace Deploy

variable {w w' : World} {α β : Type} {r : DeployRequest} {creator address : Address} {code : Octets}
  {runner : Runner}

/-- Nothing lasts of the work if it fails. -/
def LeavesNothing (m : DeployM α) (w : World) : Prop :=
  ∀ e w', Fails m w e w' → w.ledger.Back w'.ledger

theorem leavesNothing_bind {m : DeployM α} {f : α → DeployM β} (hm : KeepsFrom World.Reading m w)
    (hf : ∀ a t, Gives m w a t → LeavesNothing (f a) t) : LeavesNothing (m >>= f) w := by
  intro e w' h
  rcases fails_bind.mp h with h | ⟨a, t, hgives, h⟩
  · unfold KeepsFrom at hm
    unfold Fails at h
    rw [h] at hm
    exact .reads hm.ledger
  · exact (hf a t hgives e w' h).of_reads (hm.of_gives hgives).ledger

theorem leavesNothing_guard {c : Prop} [Decidable c] {e : DeployError} {f : PUnit → DeployM α}
    (hf : ¬ c → LeavesNothing (f ⟨⟩) w) :
    LeavesNothing (if c then throw e >>= f else f ⟨⟩) w := by
  by_cases hc : c
  · rw [if_pos hc]
    exact leavesNothing_bind (keepsFrom_throw _ _) fun _ _ h => absurd h not_gives_throw
  · rw [if_neg hc]
    exact hf hc

theorem leavesNothing_atomically {m : DeployM α} {f : α → β} (h : KeepsFrom (Rules.any).Follows m w) :
    LeavesNothing (World.atomically m >>= fun a => pure (f a)) w := by
  intro e w' hfails
  rcases fails_bind.mp hfails with hfails | ⟨a, t, -, hfails⟩
  · rcases fails_bind.mp hfails with hfails | ⟨w₀, t, hget, hfails⟩
    · cases hfails
    obtain ⟨rfl, rfl⟩ := gives_get.mp hget
    unfold Fails at hfails
    rw [outcome_tryCatch] at hfails
    unfold KeepsFrom at h
    rcases hm : outcome m w with ⟨x, t⟩
    rw [hm] at h hfails
    cases x with
    | ok a => cases hfails
    | error e' =>
      cases hfails
      exact .reverted .refl (h.ledger (Rules.sound_any w))
  · cases hfails

theorem leavesNothing_deploy (runner : Runner) (r : DeployRequest) (w : World) :
    LeavesNothing (deploy runner r) w := by
  refine leavesNothing_bind (reading_orFail _ w) fun code w₁ _ => ?_
  refine leavesNothing_bind (reading_orFail _ w₁) fun init w₂ _ => ?_
  refine leavesNothing_bind (keeps_get w₂) fun w₃ t _ => leavesNothing_guard fun _ => ?_
  refine leavesNothing_bind (reading_newAddress t) fun address w₄ _ => ?_
  refine leavesNothing_bind (reading_hold w₄) fun target w₅ htarget => leavesNothing_guard fun hfree => ?_
  obtain ⟨l₅, hl₅, rfl⟩ := gives_onLedger htarget
  exact leavesNothing_atomically (keepsFrom_install (code_of_hold hl₅ hfree) trivial)

def constructorCall (r : DeployRequest) (address : Address) : Call where
  target := address
  codeAt := address
  caller := r.caller
  value := r.value
  input := constructorSelector ++ r.constructorArgs.getD []
  frozen := false
  gas := r.gas

/-- What a deployment that succeeds has done: an account was created, and if there is a constructor
to run it has been paid and called. -/
inductive Effect (r : DeployRequest) (w : World) : View → Prop
  | placed {l : Ledger} : w.ledger.Funded l → Effect r w l.view
  | constructed {l m : Ledger} {address : Address} {v : View} : w.ledger.Funded l →
      View.Pays r.caller address r.value l.view m.view →
      r.build.code = .ok (m.account address).code →
      Call.Effect (constructorCall r address) { w with ledger := m } v → Effect r w v

theorem gives_construct {u : Unit} (h : Gives (construct runner r address) w u w') : ∃ l result,
    View.Pays r.caller address r.value w.ledger.view l.view ∧
      (Call.run runner (constructorCall r address)).run { w with ledger := l } = (some result, w') ∧
      result.succeeded = true ∧
      Call.Effect (constructorCall r address) { w with ledger := l } w'.ledger.view := by
  obtain ⟨e, w₁, htransfer, h⟩ := gives_bind.mp h
  obtain ⟨l, hl, rfl⟩ := gives_onLedger htransfer
  cases e with
  | some e => exact absurd h not_gives_throw
  | none =>
    obtain ⟨x, w₂, hcall, h⟩ := gives_bind.mp h
    have hends := Call.run_ends runner (constructorCall r address) { w with ledger := l }
    unfold Gives at hcall
    rw [outcome_lift] at hcall
    change (Except.ok _, _) = (Except.ok x, w₂) at hcall
    obtain ⟨hx, hw₂⟩ := Prod.mk.inj hcall
    have hrun : (Call.run runner (constructorCall r address)).run { w with ledger := l } = (x, w₂) :=
      Prod.ext (Except.ok.inj hx) hw₂
    rw [hrun] at hends
    cases x with
    | none => exact absurd h not_gives_throw
    | some result =>
      dsimp only at h
      rcases hends with ⟨_, ⟨⟩, hreturned, heffect⟩ | ⟨hfails, -⟩
      · rw [hreturned] at h
        obtain ⟨-, rfl⟩ := gives_pure.mp h
        exact ⟨l, result, Ledger.gives_transfer hl, hrun, hreturned, heffect⟩
      · rw [hfails result rfl] at h
        exact absurd h not_gives_throw

theorem gives_install {u : Unit} (hbuild : r.build.code = .ok code)
    (h : Gives (install runner r creator address code) w u w') : Effect r w w'.ledger.view := by
  obtain ⟨u₁, w₁, hcount, h⟩ := gives_bind.mp h
  obtain ⟨u₂, w₂, hcode, h⟩ := gives_bind.mp h
  obtain ⟨u₃, w₃, hcount', h⟩ := gives_bind.mp h
  obtain ⟨l₁, h₁, rfl⟩ := gives_onLedger hcount
  obtain ⟨l₂, h₂, rfl⟩ := gives_onLedger hcode
  obtain ⟨l₃, h₃, rfl⟩ := gives_onLedger hcount'
  have hfunded₁ : w.ledger.Funded l₁ := Ledger.funded_bumpNonce.of_gives h₁
  have hfunded₂ : l₁.Funded l₂ := Ledger.funded_setCode.of_gives h₂
  have hfunded₃ : l₂.Funded l₃ := Ledger.funded_bumpNonce.of_gives h₃
  have hfunded := IsTrans.trans _ _ _ (IsTrans.trans _ _ _ hfunded₁ hfunded₂) hfunded₃
  by_cases hconstructs : r.constructorArgs.isSome ∨ r.value ≠ 0
  · rw [if_pos hconstructs] at h
    obtain ⟨l, -, hpays, -, -, heffect⟩ := gives_construct h
    have hcodes : l₂.codes = l₃.codes := Ledger.codes_bumpNonce.of_gives h₃
    have hcode : (l.account address).code = code :=
      (hpays.code address).trans ((congrFun hcodes address).symm.trans (Ledger.gives_setCode h₂))
    exact .constructed hfunded hpays (hcode ▸ hbuild) heffect
  · rw [if_neg hconstructs] at h
    obtain ⟨-, rfl⟩ := gives_pure.mp h
    exact .placed hfunded

theorem gives_deploy (h : Gives (deploy runner r) w address w') : Effect r w w'.ledger.view := by
  obtain ⟨code, init, hsteps⟩ := steps_of_gives h
  obtain ⟨l, hreads, hinstall⟩ := hsteps.installed
  have hfunded : w.ledger.Funded l := hreads.funded
  have heffect := gives_install hsteps.built hinstall
  generalize w'.ledger.view = v at heffect ⊢
  cases heffect with
  | placed hplaced => exact .placed (IsTrans.trans _ _ _ hfunded hplaced)
  | constructed hplaced hpays hcode heffect =>
    exact .constructed (IsTrans.trans _ _ _ hfunded hplaced) hpays hcode heffect

end Deploy
end Inkwell
