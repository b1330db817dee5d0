import Inkwell.Proofs.Entries
set_option autoImplicit false

/-! What starting a program is said to cost, and what it costs. -/

namespace Inkwell

theorem ceilDiv_le (n : Nat) {d : Nat} (hd : 0 < d) : ceilDiv n d ≤ n := by
  unfold ceilDiv
  rw [Nat.div_le_iff_le_mul hd]
  cases d with
  | zero => exact absurd hd (Nat.lt_irrefl 0)
  | succ d =>
    have hmul : n ≤ n * (d + 1) := Nat.le_mul_of_pos_right n hd
    omega

/-- No record and no parameters make the price of a tier exceed this. -/
def mostStartGas : Nat := 255 * 128 + 65535 * (255 * 2)

theorem scaledGas_le (unit : Nat) (hunit : unit ≤ 128) (minimum scalar : UInt8) (cost : UInt16) :
    scaledGas unit minimum.toNat cost.toNat scalar.toNat ≤ mostStartGas := by
  have hminimum : minimum.toNat < 256 := minimum.toNat_lt
  have hscalar : scalar.toNat < 256 := scalar.toNat_lt
  have hcost : cost.toNat < 65536 := cost.toNat_lt
  have hbase : minimum.toNat * unit ≤ 255 * 128 := Nat.mul_le_mul (by omega) hunit
  have hscaled : cost.toNat * (scalar.toNat * 2) ≤ 65535 * (255 * 2) :=
    Nat.mul_le_mul (by omega) (by omega)
  have hsteps := ceilDiv_le (cost.toNat * (scalar.toNat * 2)) (d := 100) (by omega)
  unfold scaledGas clamp64 mostStartGas
  omega

namespace Params

variable (p : Params) (initCost cachedCost : UInt16)

theorem initGas_le : p.initGas initCost ≤ mostStartGas := scaledGas_le 128 (Nat.le_refl _) _ _ _

theorem cachedInitGas_le : p.cachedInitGas cachedCost ≤ mostStartGas :=
  scaledGas_le 32 (by omega) _ _ _

theorem startGas_cached : p.startGas initCost cachedCost true = p.cachedInitGas cachedCost := by
  have hcached := p.cachedInitGas_le cachedCost
  unfold startGas
  rw [if_pos (.inl rfl), if_pos rfl]
  refine clamp64_eq (hcached.trans ?_)
  decide

/-- From version two on, what is not cached costs what caching saves and the cached price besides. -/
theorem startGas_uncached : p.startGas initCost cachedCost false =
    if 1 < p.version then p.initGas initCost + p.cachedInitGas cachedCost
    else p.initGas initCost := by
  have hcached := p.cachedInitGas_le cachedCost
  have hinit := p.initGas_le initCost
  have hfits : mostStartGas + mostStartGas ≤ max64 := by decide
  unfold startGas
  by_cases hversion : 1 < p.version
  · rw [if_pos (.inr hversion), if_pos hversion, if_neg Bool.false_ne_true, clamp64_eq (by omega)]
    omega
  · rw [if_neg (by simp [hversion]), if_neg hversion, if_neg Bool.false_ne_true,
      clamp64_eq (by omega), Nat.zero_add]

end Params

theorem toNat_number {n : Nat} (h : n ≤ mostStartGas) : (Abi.number n).toNat = n := by
  have hfits : mostStartGas < 2 ^ 256 := by decide
  unfold Abi.number
  rw [BitVec.toNat_ofNat]
  exact Nat.mod_eq_of_lt (by omega)

namespace Abi

theorem selectorOf_codehashAsmSize :
    selectorOf "codehashAsmSize(bytes32)" = [0x40, 0x89, 0x26, 0x7f] := by
  rw [selectorOf, Keccak.digest_eq]
  decide +kernel

theorem selectorOf_programVersion :
    selectorOf "programVersion(address)" = [0xcc, 0x8f, 0x4e, 0x88] := by
  rw [selectorOf, Keccak.digest_eq]
  decide +kernel

theorem selectorOf_programInitGas :
    selectorOf "programInitGas(address)" = [0x62, 0xb6, 0x88, 0xaa] := by
  rw [selectorOf, Keccak.digest_eq]
  decide +kernel

end Abi

namespace SystemContract

variable {w : World} {f g : Frame} {c : Call} {m : Method} {ms before after : List Method}
  {args out : Octets} {arg : Word} {r : Record}

namespace Programs

def programInitGas : Method where
  signature := "programInitGas(address)"
  mutability := .view
  run := ofProgram fun _ p r => [p.initGas r.initCost, p.cachedInitGas r.cachedCost]

theorem find_programInitGas
    (hselector : c.input.take 4 = Abi.selectorOf "programInitGas(address)") :
    methods.find? (·.selector = c.input.take 4) = some programInitGas := by
  have hm : programInitGas.selector = c.input.take 4 := hselector.symm
  have hsplit : methods = methods.take 6 ++ programInitGas :: methods.drop 7 := rfl
  rw [hsplit]
  refine find_of_first hm fun m hm => ?_
  simp only [methods, List.take_succ_cons, List.take_zero, List.mem_cons, List.not_mem_nil,
    or_false] at hm
  unfold Method.selector programInitGas
  rcases hm with rfl | rfl | rfl | rfl | rfl | rfl <;>
    simp only [Abi.selectorOf_activateProgram, Abi.selectorOf_stylusVersion,
      Abi.selectorOf_codehashVersion, Abi.selectorOf_codehashKeepalive,
      Abi.selectorOf_codehashAsmSize, Abi.selectorOf_programVersion,
      Abi.selectorOf_programInitGas] <;> decide

def lookupGas : Nat := Gas.readParams + (Gas.readCodeHash + State.recordGas)

def lookUp (program : Address) (now : Nat) : Access (Params × Record) := do
  let p ← State.params
  let codeHash ← Access.codeHash program
  let r ← State.activeRecord p now codeHash
  pure (p, r)

theorem lookUp_of_active {a : Address} (hload : w.ledger.Loadable a)
    (hactive : w.Active (w.ledger.view.codeHash a))
    (hrecord : w.ledger.view.record? (w.ledger.view.codeHash a) = some r) {d : Desk} {gas : Nat}
    (hreads : w.ledger.Reads d.ledger) (hgas : d.gas = some gas) (henough : lookupGas ≤ gas) : ∃ e,
      Gives (lookUp a w.now) d (w.ledger.view.params, r) e ∧ w.ledger.Reads e.ledger ∧
        e.gas = some (gas - lookupGas) := by
  obtain ⟨hparams, hknown, -⟩ := World.known_of_active hactive
  obtain ⟨r', hlookup⟩ := Call.lookup_of_active hactive
  obtain ⟨hrecord', hactivated, hversion, hlive⟩ := Call.current_of_lookup hlookup
  obtain rfl := Option.some.inj (hrecord.symm.trans hrecord')
  unfold lookupGas at henough ⊢
  obtain ⟨d₁, h₁, hleft₁⟩ := State.answers_params hparams d hreads.tells
    (by simp only [hgas, Option.mem_some_iff, forall_eq']; omega)
  rw [hgas, Option.map_some] at hleft₁
  have hreads₁ : w.ledger.Reads d₁.ledger := hreads.trans (State.keeps_params.of_gives h₁)
  obtain ⟨l₂, h₂, hreads₂⟩ := codeHash_of_loadable (hload.of_reads hreads₁) hleft₁ (by omega)
  rw [hreads₁.view] at h₂
  obtain ⟨e, h₃, hleft₃⟩ := State.answers_activeRecord hknown hrecord hactivated hversion hlive
    { d₁ with ledger := l₂, gas := some (gas - Gas.readParams - Gas.readCodeHash) }
    (hreads₁.trans hreads₂).tells
    (by simp only [Option.mem_some_iff, forall_eq']; omega)
  refine ⟨e, h₁.bind (h₂.bind (h₃.bind (gives_pure.mpr ⟨rfl, rfl⟩))),
    (hreads₁.trans hreads₂).trans (State.keeps_activeRecord.of_gives h₃), ?_⟩
  rw [hleft₃, Option.map_some]
  exact congrArg some (by omega)

theorem ofProgram_of_active (answer : Nat → Params → Record → List Nat)
    (harg : Abi.firstWord? args = some arg)
    (hload : f.world.ledger.Loadable (Address.ofWord arg))
    (hactive : f.world.Active (f.world.ledger.view.codeHash (Address.ofWord arg)))
    (hrecord : f.world.ledger.view.record?
      (f.world.ledger.view.codeHash (Address.ofWord arg)) = some r)
    (hgas : lookupGas ≤ f.gas) : ∃ g,
      Gives (ofProgram answer c args) f
          (Abi.words ((answer f.world.now f.world.ledger.view.params r).map Abi.number)) g ∧
        f.world.Reading g.world ∧ g.gas = f.gas - lookupGas := by
  have hprogram := addressArgument_of_word harg f
  obtain ⟨x, l, hl⟩ := Ledger.hold_of_account (World.known_of_active hactive).1.word.account
  obtain ⟨e, he, hreads, hleft⟩ := lookUp_of_active hload hactive hrecord
    (d := ⟨l, some f.gas, c.frozen⟩) (Ledger.keeps_hold.of_gives hl) rfl hgas
  have hasked : Gives (onState c (lookUp (Address.ofWord arg) f.world.now)) f
      (f.world.ledger.view.params, r)
      { world := { f.world with ledger := e.ledger }, gas := f.gas - lookupGas } := by
    have hgives := onState_of_gives hl he
    rwa [hleft, Option.getD_some] at hgives
  exact ⟨_, hprogram.bind ((gives_get.mpr ⟨rfl, rfl⟩).bind (hasked.bind
    (gives_pure.mpr ⟨rfl, rfl⟩))), ⟨hreads, rfl, rfl, rfl⟩, rfl⟩

end Programs

def quoteGas (q : Call) : Nat :=
  Gas.words (q.input.drop 4).length + (Gas.read + (Programs.lookupGas + Gas.words 64))

/-- A call asks what it costs to start a program, and has the gas to be told. -/
structure AsksPrice (q : Call) (arg : Word) : Prop where
  codeAt : q.codeAt = programsAddress
  own : q.frozen = false → q.target = q.codeAt
  free : q.value = 0
  selector : q.input.take 4 = Abi.selectorOf "programInitGas(address)"
  argument : argument? q = some arg
  gas : quoteGas q ≤ q.gas

theorem call_of_asksPrice {q : Call} (hq : AsksPrice q arg)
    (hload : w.ledger.Loadable (Address.ofWord arg))
    (hactive : w.Active (w.ledger.view.codeHash (Address.ofWord arg)))
    (hrecord : w.ledger.view.record? (w.ledger.view.codeHash (Address.ofWord arg)) = some r) :
    ∃ left w', (call q).run w = (some ⟨.returned,
        Abi.words [Abi.number (w.ledger.view.params.initGas r.initCost),
          Abi.number (w.ledger.view.params.cachedInitGas r.cachedCost)], q.gas, left⟩, w') ∧
      w.Reading w' := by
  have hgas := hq.gas
  unfold quoteGas at hgas
  have hbefore : callGas q = Gas.words (q.input.drop 4).length + Gas.read := rfl
  obtain ⟨g, hrun, hreading, hleft⟩ := Programs.ofProgram_of_active (c := q)
    (f := ⟨w, q.gas - callGas q⟩)
    (fun _ p r => [p.initGas r.initCost, p.cachedInitGas r.cachedCost]) hq.argument hload hactive
    hrecord (by dsimp only; omega)
  dsimp only at hrun hreading hleft
  have hmethods : methodsAt? q.codeAt = some Programs.methods := by rw [hq.codeAt]; rfl
  have hlength : (Abi.words [Abi.number (w.ledger.view.params.initGas r.initCost),
      Abi.number (w.ledger.view.params.cachedInitGas r.cachedCost)]).length = 64 := by
    simp [Abi.words, Word.length_octets]
  have hcalled := call_of_method (m := Programs.programInitGas) hmethods hq.own
    (Programs.find_programInitGas hq.selector) (by decide) (by simp [Programs.programInitGas])
    (by simp [hq.free]) (by omega) hrun (by
      simp only [List.map_cons, List.map_nil, hlength]
      omega)
  exact ⟨_, g.world, hcalled, hreading⟩

end SystemContract

namespace World

open SystemContract

variable {w u : World} {q c : Call} {arg codeHash : Word} {r : Record}

theorem Active.of_reads (h : w.Active codeHash) (hreads : w.ledger.Reads u.ledger)
    (hnow : u.now = w.now) : u.Active codeHash := by
  obtain ⟨hparams, hknown, -⟩ := known_of_active h
  obtain ⟨r, hlookup⟩ := Call.lookup_of_active h
  obtain ⟨hrecord, hactivated, hversion, hlive⟩ := Call.current_of_lookup hlookup
  refine active_of_current (r := r) (hparams.of_tells hreads.tells) (hknown.of_tells hreads.tells)
    ⟨?_, ?_, ?_⟩ hactivated
  · rw [hreads.view, hrecord]
  · rw [hreads.view, hversion]
  · rw [hnow, hlive]

theorem tierGas_cached (w : World) (r : Record) : w.tierGas r true =
    clamp64 (w.ledger.view.params.pagePrice.cost r.footprint.toNat w.transaction.pagesOpen
      w.transaction.pagesEver + w.ledger.view.params.cachedInitGas r.cachedCost) := by
  unfold tierGas Entry.gas
  rw [Params.startGas_cached]

theorem tierGas_uncached (w : World) (r : Record) : w.tierGas r false =
    clamp64 (w.ledger.view.params.pagePrice.cost r.footprint.toNat w.transaction.pagesOpen
      w.transaction.pagesEver + if 1 < w.ledger.view.params.version
        then w.ledger.view.params.initGas r.initCost + w.ledger.view.params.cachedInitGas r.cachedCost
        else w.ledger.view.params.initGas r.initCost) := by
  unfold tierGas Entry.gas
  rw [Params.startGas_uncached]

/-- The two words told of an active program price the start of it for every call as long as things
stand so, whatever the caches and the pages. At the cached tier the second is charged beyond the
pages. At the other the first is, and from version two on the second besides. -/
theorem quote_charged (hq : AsksPrice q arg) (hload : w.ledger.Loadable (Address.ofWord arg))
    (hactive : w.Active (w.ledger.view.codeHash (Address.ofWord arg))) :
    let a := Address.ofWord arg
    let v := w.ledger.view
    ∃ r gas whenCached left w', v.record? (v.codeHash a) = some r ∧
      (SystemContract.call q).run w =
        (some ⟨.returned, Abi.words [gas, whenCached], q.gas, left⟩, w') ∧ w.Reading w' ∧
      ∀ (u : World) (c : Call) (wasm : Octets) (y : Loaded), w.ledger.Reads u.ledger →
        u.block = w.block → u.config = w.config → c.codeAt = a →
        Package.module? v.params.maxWasmSize.toNat (v.account a).code = .ok (some wasm) →
        (u.cache.load compile wasm (u.settings v.params) u.config.autoCache).1 = .ok y →
        let pages := v.params.pagePrice.cost r.footprint.toNat u.transaction.pagesOpen
          u.transaction.pagesEver
        c.EntryCosts u (clamp64 (pages +
          if r.pinned || u.warm (keccak wasm) then whenCached.toNat
          else if 1 < v.params.version then gas.toNat + whenCached.toNat else gas.toNat)) := by
  intro a v
  obtain ⟨-, -, r, hrecord⟩ := known_of_active hactive
  obtain ⟨left, w', hquoted, hreading⟩ := call_of_asksPrice hq hload hactive hrecord
  refine ⟨r, _, _, left, w', hrecord, hquoted, hreading, ?_⟩
  intro u c wasm y hreads hblock hconfig hat hmodule hloaded pages
  have hview : u.ledger.view = v := hreads.view
  have haccount : u.ledger.account c.codeAt = v.account a := by
    rw [hat]
    exact congrFun (congrArg View.account hview) a
  have hhash : keccak (u.ledger.account c.codeAt).code = v.codeHash a := by
    rw [haccount, codeHash_of_module hmodule]
  have hnow : u.now = w.now := congrArg Block.time hblock
  obtain ⟨r', w₁, hrecord', hpriced, -⟩ := Call.priced_of_active (c := c) (w := u) (y := y)
    (hat ▸ hload.of_reads hreads) (hhash ▸ hactive.of_reads hreads hnow)
    (by rw [hview, haccount]; exact hmodule) (by rw [hview]; exact hloaded)
  rw [hhash, hview, hrecord] at hrecord'
  obtain rfl := Option.some.inj hrecord'
  have hcosts := hpriced.entryCosts
  rw [hpriced.gas_eq] at hcosts
  dsimp only at hcosts
  rw [toNat_number (v.params.initGas_le _), toNat_number (v.params.cachedInitGas_le _)]
  cases htier : r.pinned || u.warm (keccak wasm) with
  | true =>
    rw [htier, tierGas_cached, hview] at hcosts
    exact hcosts
  | false =>
    rw [htier, tierGas_uncached, hview] at hcosts
    exact hcosts

def priceCall : Call :=
  ⟨0x71, 0x71, 2, 0, [0x62, 0xb6, 0x88, 0xaa] ++ (1 : Word).octets, false, 100000⟩

theorem asksPrice_priceCall : AsksPrice priceCall 1 where
  codeAt := by decide
  own := by decide
  free := by decide
  selector := by rw [Abi.selectorOf_programInitGas]; decide
  argument := by decide
  gas := by decide

theorem active_codeHash_recorded : recorded.Active (recorded.ledger.view.codeHash 1) := by
  rw [codeHash_recorded]
  exact active_recorded Ledger.recorded_self (by decide)

theorem record_codeHash_recorded : recorded.ledger.view.record? (recorded.ledger.view.codeHash 1) =
    some Ledger.smallRecord := by
  rw [codeHash_recorded]
  exact Ledger.record_recorded

theorem quote_charged_small : AsksPrice priceCall 1 ∧
    recorded.ledger.Loadable (Address.ofWord 1) ∧
    recorded.Active (recorded.ledger.view.codeHash (Address.ofWord 1)) ∧
    ∃ gas whenCached left w', (SystemContract.call priceCall).run recorded =
        (some ⟨.returned, Abi.words [gas, whenCached], priceCall.gas, left⟩, w') ∧
      ∀ c : Call, c.codeAt = 1 →
        c.EntryCosts recorded (clamp64 (gas.toNat + whenCached.toNat)) := by
  have hactive : recorded.Active (recorded.ledger.view.codeHash (Address.ofWord 1)) :=
    active_codeHash_recorded
  obtain ⟨r, gas, whenCached, left, w', hrecord, hquoted, -, hcosts⟩ :=
    quote_charged (w := recorded) asksPrice_priceCall ⟨rfl, rfl⟩ hactive
  refine ⟨asksPrice_priceCall, ⟨rfl, rfl⟩, hactive, gas, whenCached, left, w', hquoted, ?_⟩
  intro c hat
  obtain ⟨a, -, hload⟩ := load_recorded true
  obtain rfl := Option.some.inj (hrecord.symm.trans record_codeHash_recorded)
  have hentry := hcosts recorded c smallModule ⟨a, false⟩ .refl rfl rfl hat
    (module?_recorded Ledger.recorded_self)
    (by rw [params_of_recorded Ledger.recorded_self]; exact hload)
  have hpages : recorded.ledger.view.params.pagePrice.cost Ledger.smallRecord.footprint.toNat
      recorded.transaction.pagesOpen recorded.transaction.pagesEver = 0 := by
    rw [params_of_recorded Ledger.recorded_self]
    decide
  have htier : (Ledger.smallRecord.pinned || recorded.warm (keccak smallModule)) = false := rfl
  have hversion : 1 < recorded.ledger.view.params.version := by
    rw [params_of_recorded Ledger.recorded_self]
    decide
  dsimp only at hentry
  rw [hpages, htier, if_neg Bool.false_ne_true, if_pos hversion, Nat.zero_add] at hentry
  exact hentry

/-- The first word is not what a start costs that is not cached, even where no page is paid for. -/
theorem quote_misses : let c : Call := ⟨1, 1, 2, 0, [], false, 20000⟩
    (∃ left w', (SystemContract.call priceCall).run recorded =
      (some ⟨.returned, Abi.words [9233, 352], priceCall.gas, left⟩, w')) ∧
    recorded.ledger.view.record? (recorded.ledger.view.codeHash 1) = some Ledger.smallRecord ∧
    Ledger.smallRecord.pinned = false ∧ recorded.warm (keccak smallModule) = false ∧
    recorded.ledger.view.params.pagePrice.cost Ledger.smallRecord.footprint.toNat 0 0 = 0 ∧
    c.EntryCosts recorded 9585 ∧ ¬ c.EntryCosts recorded 9233 := by
  intro c
  have hcosts : c.EntryCosts recorded 9585 := by
    obtain ⟨a, -, hload⟩ := load_recorded true
    obtain ⟨w', hpriced, -⟩ := priced_recorded (w := recorded) (c := c)
      Ledger.recorded_self (by decide) rfl hload
    have hentry := hpriced.entryCosts
    rw [hpriced.gas_eq, tierGas_recorded Ledger.recorded_self rfl] at hentry
    exact hentry
  obtain ⟨left, w', hquoted, -⟩ := call_of_asksPrice (w := recorded) asksPrice_priceCall
    ⟨rfl, rfl⟩ active_codeHash_recorded record_codeHash_recorded
  rw [params_of_recorded Ledger.recorded_self] at hquoted ⊢
  refine ⟨⟨left, w', hquoted⟩, record_codeHash_recorded, rfl, rfl, by decide, hcosts, fun hquote => ?_⟩
  exact absurd (hcosts.unique hquote) (by decide)

end World
end Inkwell
