import Inkwell.Proofs.Agreement
set_option autoImplicit false

/-! What of all that lasts a call may change, and when: a call of a program, what an activation does, and
a call of a system contract, what one of four methods does. -/

namespace Inkwell

namespace Call

variable {w w' : World} {c : Call} {p : Params} {wasm : Octets}

theorem prepare_changes {x : Prepared} {l : Ledger} {k : Cache} (hreads : w.ledger.Reads l)
    (hkept : k.artifacts = w.cache.artifacts)
    (hp : (outcome State.params ⟨w.ledger, none, true⟩).1 = .ok p)
    (hmodule : Package.module? p.maxWasmSize.toNat (w.ledger.account c.codeAt).code = .ok (some wasm))
    (h : Gives (prepare c p (keccak (w.ledger.account c.codeAt).code) wasm)
      { w with ledger := l, cache := k } x w') :
    w.Active (keccak (w.ledger.account c.codeAt).code) ∧ w'.ledger.view = w.ledger.view ∨
      ¬ w.Active (keccak (w.ledger.account c.codeAt).code) ∧ c.frozen = false ∧
        w.config.autoActivate = true ∧ c.Activates w w'.ledger.view := by
  have heffect := prepare_effect hreads hkept hp hmodule h
  generalize w'.ledger.view = v at heffect ⊢
  cases heffect with
  | ran hactive => exact .inl ⟨hactive, rfl⟩
  | @activated codeHash wasm a entered _ hhash hinactive hthawed hauto hmodule hactivates hpays =>
    subst hhash
    have hactivated := hactivates.view
    obtain ⟨w₁, w₂, hview, hblock, hconfig, hgives, rfl⟩ := hactivates
    have hbalance : w₂.ledger.account = w.ledger.account := congrArg View.account hactivated
    have hfee : a.fee ≤ (w.ledger.account c.caller).balance := by
      rw [← hbalance]
      exact hpays.funds
    exact .inr ⟨hinactive, hthawed, hauto, _, w₁, _, w₂, hmodule, hview, hblock, hconfig, hgives,
      hactivated, hfee, hpays.paid⟩

/-- A call leaves all that lasts as it was unless it returns, may change state and finds no program
that may run; then it leaves just what an activation of the program does. -/
theorem run_changes (runner : Runner) (c : Call) (w : World) (hexact : w.ledger.Exact) :
    let codeHash := keccak (w.ledger.account c.codeAt).code
    let returns := ∃ r, ((run runner c).run w).1 = some r ∧ r.verdict = .returned
    let v := ((run runner c).run w).2.ledger.view
    (¬ returns ∨ c.frozen = true ∨ w.Active codeHash → v = w.ledger.view) ∧
      (returns ∧ c.frozen = false ∧ ¬ w.Active codeHash →
        w.config.autoActivate = true ∧ c.Activates w v) := by
  dsimp only
  obtain ⟨l, hreads, ⟨hstays, hfails⟩ | ⟨p, wasm, hp, hmodule, hrun⟩⟩ := run_cases runner c w
  · have hview : ((run runner c).run w).2.ledger.view = w.ledger.view := by
      rw [hstays]
      exact hreads.view
    refine ⟨fun _ => hview, ?_⟩
    rintro ⟨⟨r, hr, hreturned⟩, -⟩
    have hr' := hfails r hr
    simp [CallResult.succeeded, hreturned] at hr'
  rw [hrun, run_keepIfReturned]
  rcases hfinish : (finish (execute runner c p (keccak (w.ledger.account c.codeAt).code) wasm)).run
    { w with ledger := l, cache := w.cache.startBlock w.block.height } with ⟨r, w'⟩
  by_cases hr : r.succeeded = true
  · obtain ⟨x, w₁, hprepare, hledger⟩ := prepared_of_returned hfinish hr
    simp only [Prod.map, if_pos hr, hledger, id]
    rcases prepare_changes hreads (w.cache.artifacts_startBlock _) hp hmodule hprepare with
      ⟨hactive, hview⟩ | ⟨hinactive, hthawed, hauto, hactivates⟩
    · exact ⟨fun _ => hview, fun h => absurd hactive h.2.2⟩
    · refine ⟨fun h => ?_, fun _ => ⟨hauto, hactivates⟩⟩
      rcases h with h | h | h
      · exact absurd ⟨r, rfl, by simpa [CallResult.succeeded] using hr⟩ h
      · rw [hthawed] at h
        cases h
      · exact absurd h hinactive
  · have hruns : (Rules.any).writes.Runs (keccak (w.ledger.account c.codeAt).code) wasm :=
      ⟨_, _, trivial, rfl, hmodule⟩
    have hkeeps : Keeps (Rules.any).Follows (execute runner c p _ wasm) := keeps_execute hruns
    have hw' := congrArg Prod.snd hfinish
    rw [run_finish] at hw'
    have hreaches := (hkeeps { w with
      ledger := l, cache := w.cache.startBlock w.block.height }).ledger (Rules.sound_any _)
    rw [hw'] at hreaches
    have hview := ((hreads.exact hexact) _ hreaches).trans hreads.view
    simp only [Prod.map, if_neg hr, id]
    refine ⟨fun _ => hview, ?_⟩
    rintro ⟨⟨r', hr', hreturned⟩, -⟩
    cases hr'
    exact absurd (by simp [CallResult.succeeded, hreturned]) hr

/-- The small package is activated by the first call of it, and the next one in the same block finds it
active and changes nothing. -/
theorem run_changes_furnished :
    let first := (run World.quiet World.furnishedCall).run (World.furnished 2)
    let w : World := { first.2 with block := (World.furnished 2).block }
    (∃ r, first.1 = some r ∧ r.verdict = .returned) ∧
      World.furnishedCall.Activates (World.furnished 2) first.2.ledger.view ∧ w.Active smallHash ∧
      ((run World.quiet World.furnishedCall).run w).2.ledger.view = first.2.ledger.view := by
  have hcode : keccak ((World.furnished 2).ledger.account World.furnishedCall.codeAt).code =
      smallHash := World.keccak_furnished 2
  have hhealthy := World.healthy_furnished 2
  obtain ⟨r, w', hcall, hr⟩ := World.called_furnished
  have hreturned : r.verdict = .returned := by simpa [CallResult.succeeded] using hr
  have hfollows := (follows_run .any World.quiet World.furnishedCall (World.furnished 2)).ledger
    (Rules.sound_any _)
  have hentered := active_run Layout.apart_smallHash (World.hashed_furnished 2 _)
    (World.version_furnished 2) (hcode.symm ▸ World.inactive_furnished 2) hcall hr
  rw [hcode] at hentered
  -- the first call finds the program inactive
  obtain ⟨-, hfirst⟩ := run_changes World.quiet World.furnishedCall (World.furnished 2)
    hhealthy.bounded.exact
  have hends := run_ends World.quiet World.furnishedCall (World.furnished 2)
  rw [hcall] at hfirst hfollows hends ⊢
  obtain ⟨-, hactivates⟩ := hfirst ⟨⟨r, rfl, hreturned⟩, rfl, hcode.symm ▸ World.inactive_furnished 2⟩
  -- and the second one finds it active
  let w : World := { w' with block := (World.furnished 2).block }
  have hhash : keccak (w.ledger.account World.furnishedCall.codeAt).code = smallHash :=
    (congrArg keccak ((hends.of_returned hr).code World.furnishedCall.codeAt)).trans hcode
  obtain ⟨hsecond, -⟩ := run_changes World.quiet World.furnishedCall w
    (hhealthy.reaches hfollows).bounded.exact
  exact ⟨⟨r, rfl, hreturned⟩, hactivates, hentered, hsecond (.inr (.inr (hhash.symm ▸ hentered)))⟩

end Call

namespace SystemContract

variable {c : Call} {w : World}

/-- A call that does not return leaves no change, nor does one that only reads. -/
theorem invoke_changes {signatures : List String} {methods : List Method}
    (hfits : ∀ m ∈ methods, m.Fits signatures) (hexact : w.ledger.Exact)
    (hchanged : ((Call.keepIfReturned (invoke methods c)).run w).2.ledger.view ≠ w.ledger.view) :
    ((Call.keepIfReturned (invoke methods c)).run w).1.verdict = .returned ∧ c.frozen = false ∧
      ∃ s ∈ signatures, c.input.take 4 = Abi.selectorOf s := by
  rw [Call.run_keepIfReturned, run_invoke] at hchanged ⊢
  by_cases hshort : c.input.length < 4
  · simp only [if_pos hshort] at hchanged
    exact absurd rfl hchanged
  simp only [if_neg hshort] at hchanged ⊢
  have hkeeps : (Rules.any).Follows w (outcome (dispatch methods c) ⟨w, c.gas⟩).2.world :=
    keeps_dispatch_of_fits hfits (fun _ _ _ h _ => Writes.renews_any h) ⟨w, c.gas⟩
  have hreading := reading_dispatch_of_fits (c := c) hfits
  rcases ho : outcome (dispatch methods c) ⟨w, c.gas⟩ with ⟨r, f⟩
  rw [ho] at hchanged hkeeps
  dsimp only at hchanged ⊢
  by_cases hreturned : (chargeOutput (result c.gas f.gas r)).succeeded = true
  · rw [if_pos hreturned] at hchanged
    refine ⟨by simpa [CallResult.succeeded] using hreturned, ?_⟩
    by_contra hnot
    have hreads := hreading (by
      by_cases hfrozen : c.frozen = true
      · exact .inl hfrozen
      · refine .inr fun s hs hselector => hnot ⟨by simpa using hfrozen, s, hs, hselector⟩) ⟨w, c.gas⟩
    unfold KeepsFrom at hreads
    rw [ho] at hreads
    exact hchanged hreads.ledger.view
  · rw [if_neg hreturned] at hchanged
    exact absurd (hexact _ (hkeeps.ledger (Rules.sound_any w))) hchanged

/-- A call of a system contract leaves all that lasts as it was, unless it returns, may change state,
acts as the contract itself and is of one of four methods. -/
theorem call_changes (c : Call) (w : World) (hexact : w.ledger.Exact) :
    ((call c).run w).2.ledger.view = w.ledger.view ∨
      ∃ r, ((call c).run w).1 = some r ∧ r.verdict = .returned ∧ c.frozen = false ∧
        c.target = c.codeAt ∧
        (c.codeAt = programsAddress ∧ (c.input.take 4 = Abi.selectorOf "activateProgram(address)" ∨
            c.input.take 4 = Abi.selectorOf "codehashKeepalive(bytes32)") ∨
          c.codeAt = pinningAddress ∧ (c.input.take 4 = Abi.selectorOf "cacheProgram(address)" ∨
            c.input.take 4 = Abi.selectorOf "evictCodehash(bytes32)")) := by
  rcases call_cases c w with ⟨hstays, -⟩ | ⟨methods, hmethods, htarget, hcall⟩
  · rw [hstays]
    exact .inl rfl
  · rw [hcall]
    by_cases hview : ((Call.keepIfReturned (invoke methods c)).run w).2.ledger.view = w.ledger.view
    · exact .inl hview
    obtain ⟨signatures, hfits, hat⟩ := methodsAt?_fit hmethods
    obtain ⟨hreturned, hthawed, s, hs, hselector⟩ := invoke_changes hfits hexact hview
    refine .inr ⟨_, rfl, hreturned, hthawed, htarget hthawed, ?_⟩
    rcases hat with ⟨hat, rfl⟩ | ⟨hat, rfl⟩
    · refine .inl ⟨hat, ?_⟩
      rcases List.mem_pair.mp hs with rfl | rfl
      · exact .inl hselector
      · exact .inr hselector
    · refine .inr ⟨hat, ?_⟩
      rcases List.mem_pair.mp hs with rfl | rfl
      · exact .inl hselector
      · exact .inr hselector

theorem view_of_asked {r : CallResult}
    (hcall : (call World.furnishedAsk).run (World.furnished 0x71) = (some r, w))
    (hr : r.succeeded = true) : w.ledger.view ≠ (World.furnished 0x71).ledger.view := by
  have hat : Address.ofWord 1 = 1 := by decide
  have hactive := active_call Layout.apart_smallHash (World.hashed_furnished 0x71 _)
    (World.version_furnished _) rfl World.asks_furnishedAsk.selector World.argument_furnishedAsk hcall
    hr
  rw [hat, World.codeHash_furnished] at hactive
  obtain ⟨r', hcurrent⟩ := World.current_of_active hactive
  have hrecord : w.ledger.view.record? smallHash = some r' := hcurrent.record
  intro hsame
  rw [hsame, World.record_furnished] at hrecord
  cases hrecord

/-- An activation that is asked for returns and changes what lasts; made in a frame that may not change
state, the same call leaves it. -/
theorem call_changes_furnished :
    (∃ r w, (call World.furnishedAsk).run (World.furnished 0x71) = (some r, w) ∧
        r.verdict = .returned ∧ w.ledger.view ≠ (World.furnished 0x71).ledger.view ∧
        World.furnishedAsk.input.take 4 = Abi.selectorOf "activateProgram(address)") ∧
      ((call { World.furnishedAsk with frozen := true }).run (World.furnished 0x71)).2.ledger.view =
        (World.furnished 0x71).ledger.view := by
  have hexact := (World.healthy_furnished 0x71).bounded.exact
  refine ⟨?_, ?_⟩
  · obtain ⟨r, w, hcall, hr⟩ := World.asked_furnished
    have hchanged := view_of_asked hcall hr
    have hchanges := call_changes World.furnishedAsk _ hexact
    rw [hcall] at hchanges
    rcases hchanges with hsame | ⟨r', hr', hreturned, -⟩
    · exact absurd hsame hchanged
    · obtain rfl := Option.some.inj hr'
      exact ⟨r, w, hcall, hreturned, hchanged, World.asks_furnishedAsk.selector⟩
  · rcases call_changes { World.furnishedAsk with frozen := true } _ hexact with
      hsame | ⟨-, -, -, hthawed, -⟩
    · exact hsame
    · cases hthawed

end SystemContract
end Inkwell
