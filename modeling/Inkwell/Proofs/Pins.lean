import Inkwell.Proofs.Services
set_option autoImplicit false

/-! Which programs are pinned. Only cache managers change that, and the log tells of each change:
the flag of a code hash is what the last log of it says. -/

namespace Inkwell

open SystemContract

structure Update where
  manager : Address
  codeHash : Word
  pinned : Bool
  deriving DecidableEq, Repr

def Log.update? (g : Log) : Option Update :=
  if g.address = pinningAddress then
    match g.topics with
    | [event, manager, codeHash] =>
      if event = Abi.topicOf "UpdateProgramCache(address,bytes32,bool)" then
        some ⟨Address.ofWord manager, codeHash, g.data ≠ Abi.words [Abi.flag false]⟩
      else none
    | _ => none
  else none

theorem Log.update?_of_programs {g : Log} (h : g.address = programsAddress) : g.update? = none := by
  unfold update?
  rw [h, if_neg (by decide)]

theorem Log.update?_cacheUpdated {c : Call} (hc : c.target = pinningAddress) (h : Word) (b : Bool) :
    (Pinning.cacheUpdated c h b).update? = some ⟨c.caller, h, b⟩ := by
  have hflag : decide (Abi.words [Abi.flag b] ≠ Abi.words [Abi.flag false]) = b := by
    cases b <;> decide
  simp only [update?, Pinning.cacheUpdated, hc, if_true, Address.ofWord_toWord, hflag]

namespace View

variable {hash : Word → Prop} {v u v' u' : View} {h h' w : Word} {b : Bool} {r : Record} {p : Pricer}

def updates (v : View) (codeHash : Word) : List Update :=
  (v.logs.filterMap Log.update?).filter (·.codeHash = codeHash)

def flags (v : View) (codeHash : Word) : List Bool := (v.updates codeHash).map Update.pinned

theorem manages_of_slot (hslot : u.slot = v.slot) {a : Address} : u.Manages a ↔ v.Manages a := by
  unfold Manages stateNat state
  rw [hslot]

theorem pinned_of_record (hr : v.record? h = some r) : v.pinned h = r.pinned := by
  rw [pinned, hr]
  rfl

/-! ### Flags -/

section
variable (hA : Layout.Apart hash) (hh : hash h) (hh' : hash h')
include hA hh hh'

theorem pinned_setRecord : (v.setRecord h r).pinned h' = if h' = h then r.pinned else v.pinned h' := by
  by_cases heq : h' = h
  · subst heq
    rw [if_pos rfl, pinned, record?_setRecord_self hA hh]
    by_cases hzero : r.dataWord = 0
    · rw [if_pos hzero, (Record.blank_of_dataWord hzero).2]
      rfl
    · rw [if_neg hzero]
      rfl
  · rw [if_neg heq, pinned, record?_setRecord_of_ne hA hh' hh heq, pinned]

omit hh in
theorem pinned_setPricer : (v.setPricer p).pinned h' = v.pinned h' := by
  rw [pinned, record?_setPricer hA hh', pinned]

theorem pinned_setModuleHash : (v.setModuleHash h w).pinned h' = v.pinned h' := by
  rw [pinned, record?_setModuleHash hA hh' hh, pinned]

theorem pinned_activated {block : Block} {a : Activation} (ha : a.record.pinned = v.pinned h) :
    (v.activated h block a).pinned h' = v.pinned h' := by
  unfold activated
  rw [pinned_setRecord hA hh hh', pinned_setPricer hA hh', pinned_setModuleHash hA hh hh']
  by_cases heq : h' = h
  · rw [if_pos heq, ha, heq]
  · rw [if_neg heq]

end

/-- The flags are as they were, and these logs are new. -/
structure Adds (hash : Word → Prop) (gs : List Log) (v u : View) : Prop where
  pinned : ∀ h, hash h → u.pinned h = v.pinned h
  logs : u.logs = v.logs ++ gs

theorem Spares.adds (hspares : v.Spares hash u) : v.Adds hash [] u where
  pinned h hh := by rw [pinned, record?_congr fun p _ => hspares.state h hh p, pinned]
  logs := by rw [hspares.logs, List.append_nil]

structure Flips (hash : Word → Prop) (h : Word) (b : Bool) (g : Log) (v u : View) : Prop where
  involved : hash h
  before : v.pinned h = !b
  after : u.pinned h = b
  others : ∀ h', hash h' → h' ≠ h → u.pinned h' = v.pinned h'
  logs : u.logs = v.logs ++ [g]

theorem adds_nothing (hslot : u.slot = v.slot) (hlogs : u.logs = v.logs) : v.Adds hash [] u :=
  ⟨fun h _ => pinned_of_slot hslot h, by rw [hlogs, List.append_nil]⟩

theorem Adds.then {gs gs' : List Log} (hadds : v.Adds hash gs u) (hslot : u'.slot = u.slot)
    (hlogs : u'.logs = u.logs ++ gs') : v.Adds hash (gs ++ gs') u' :=
  ⟨fun h hh => (pinned_of_slot hslot h).trans (hadds.pinned h hh),
    by rw [hlogs, hadds.logs, List.append_assoc]⟩

theorem Adds.paid {source dest source' dest' : Address} {fee rest : Word} {u₁ u₂ : View}
    (hadds : v.Adds hash [] u) (hfee : Pays source dest fee u u₁)
    (hback : Pays source' dest' rest u₁ u₂) (g : Log) : v.Adds hash [g] (u₂.log g) := by
  refine hadds.then (hback.slot.trans hfee.slot) ?_
  rw [← hback.logs.trans hfee.logs]
  rfl

theorem Adds.of_same {gs : List Log} (hv : v.slot = v'.slot) (hlogs : v.logs = v'.logs)
    (hadds : v.Adds hash gs u) : v'.Adds hash gs u :=
  ⟨fun h hh => (hadds.pinned h hh).trans (pinned_of_slot hv h), by rw [hadds.logs, hlogs]⟩

theorem Flips.of_same {g : Log} (hv : v.slot = v'.slot) (hlogs : v.logs = v'.logs)
    (hflips : v.Flips hash h b g u) : v'.Flips hash h b g u where
  involved := hflips.involved
  before := by rw [← pinned_of_slot hv, hflips.before]
  after := hflips.after
  others k hk hne := by rw [← pinned_of_slot hv, hflips.others k hk hne]
  logs := by rw [← hlogs, hflips.logs]

theorem adds_renewed {r' : Record} (hA : Layout.Apart hash) (hh : hash h) (hr : v.record? h = some r)
    (hr' : r'.pinned = r.pinned) : v.Adds hash [] ((v.setPricer p).setRecord h r') := by
  refine ⟨fun k hk => ?_, (List.append_nil _).symm⟩
  rw [pinned_setRecord hA hh hk, pinned_setPricer hA hk]
  by_cases heq : k = h
  · rw [if_pos heq, heq, hr', pinned_of_record hr]
  · rw [if_neg heq]

theorem flips_setRecord {g : Log} (hA : Layout.Apart hash) (hh : hash h) (hr : v.record? h = some r)
    (hb : r.pinned = !b) : v.Flips hash h b g ((v.log g).setRecord h { r with pinned := b }) where
  involved := hh
  before := (pinned_of_record hr).trans hb
  after := by rw [pinned_setRecord hA hh hh, if_pos rfl]
  others k hk hne := by
    rw [pinned_setRecord hA hh hk, if_neg hne]
    exact pinned_of_slot rfl k
  logs := rfl

end View

/-! ### What calls do to flags -/

section
variable {hash : Word → Prop} {w : World} {c : Call} {v u : View}

theorem World.Activates.adds {h : Word} {wasm : Octets} {a : Activation} (hA : Layout.Apart hash)
    (hh : hash h) (hactivates : w.Activates h wasm a v) : w.ledger.view.Adds hash [] v := by
  obtain ⟨artifact, ha⟩ := hactivates.activation
  have hpinned : a.record.pinned = w.ledger.view.pinned h := by
    rw [ha]
    rfl
  rw [hactivates.view]
  exact ⟨fun k hk => View.pinned_activated hA hh hk hpinned, (List.append_nil _).symm⟩

theorem Call.Effect.adds (hA : Layout.Apart hash) (hw : Hashes hash (w.ledger.account c.codeAt).code)
    (h : Call.Effect c w v) : w.ledger.view.Adds hash [] v := by
  cases h with
  | ran => exact View.adds_nothing rfl rfl
  | @activated codeHash wasm a entered _ hhash _ _ _ hmodule hactivates hpays =>
    have hh : hash codeHash := hhash ▸ hw _ _ hmodule
    exact (hactivates.adds hA hh).then hpays.slot (by rw [hpays.logs, List.append_nil])

namespace SystemContract

/-- A system contract leaves all flags alone, adding logs of programs at most, or its caller is a
manager who flips a flag. -/
theorem Effect.adds_or_flips (hA : Layout.Apart hash) (hw : w.Hashed hash)
    (hc : Callee.system.Allowed hash c) (h : Effect c w v) :
    (∃ gs, (∀ g ∈ gs, g.address = programsAddress) ∧ w.ledger.view.Adds hash gs v) ∨
      ∃ h b, Asks c pinningAddress (if b then "cacheProgram(address)" else "evictCodehash(bytes32)") ∧
        w.ledger.view.Manages c.caller ∧
        w.ledger.view.Flips hash h b (Pinning.cacheUpdated c h b) v := by
  cases h with
  | nothing => exact .inl ⟨[], by simp, View.adds_nothing rfl rfl⟩
  | handedBack _ _ _ hpays => exact .inl ⟨[], by simp, View.adds_nothing hpays.slot hpays.logs⟩
  | @activated arg codeHash wasm a entered u v hasks _ hhash hmodule _ hactivates _ hfee hback =>
    have hh : hash codeHash := hhash ▸ hw _ _ _ hmodule
    refine .inl ⟨[Programs.activated c (Address.ofWord arg) codeHash a], fun g hg => ?_,
      (hactivates.adds hA hh).paid hfee hback _⟩
    rw [List.mem_singleton.mp hg]
    exact hasks.target
  | @keptAlive codeHash fee r renewed u v hasks harg hcurrent _ _ hrenewed _ hfee hback =>
    have hh : hash codeHash := hc _ (by simp [renewing]) hasks.selector _ harg
    have hrenews : w.ledger.view.Adds hash [] renewed := by
      rw [hrenewed]
      exact View.adds_renewed hA hh hcurrent.record rfl
    refine .inl ⟨[Programs.lifetimeExtended c codeHash fee], fun g hg => ?_, hrenews.paid hfee hback _⟩
    rw [List.mem_singleton.mp hg]
    exact hasks.target
  | @pinned arg codeHash wasm r hasks _ hhash hmodule hmanages hcurrent _ hunpinned =>
    have hh : hash codeHash := hhash ▸ hw _ _ _ hmodule
    exact .inr ⟨codeHash, true, hasks, hmanages, View.flips_setRecord hA hh hcurrent.record hunpinned⟩
  | @unpinned codeHash r hasks harg hmanages hrecord hpinned =>
    have hh : hash codeHash := hc _ (by simp [renewing]) hasks.selector _ harg
    exact .inr ⟨codeHash, false, hasks, hmanages, View.flips_setRecord hA hh hrecord hpinned⟩

end SystemContract
end

/-! ### What turns do to flags -/

/-- What a turn does to the flags. It leaves them alone and adds logs of programs at most, or it is
a call of a manager that returns and flips one, and that is logged. -/
inductive Turn.Pins (hash : Word → Prop) (t : Turn) (w : World) (v : View) : Prop
  | undone : ¬ t.Returns w → w.ledger.view.Adds hash [] v → Pins hash t w v
  | adds {gs : List Log} : t.Returns w → (∀ g ∈ gs, g.address = programsAddress) →
      w.ledger.view.Adds hash gs v → Pins hash t w v
  | flips {frame : Option Bool} {c : Call} {h : Word} {b : Bool} : t = .call frame .system c →
      t.Returns w →
      Asks c pinningAddress (if b then "cacheProgram(address)" else "evictCodehash(bytes32)") →
      w.ledger.view.Manages c.caller →
      w.ledger.view.Flips hash h b (Pinning.cacheUpdated c h b) v → Pins hash t w v

namespace Turn

variable {hash : Word → Prop} {w : World} {t : Turn}

theorem pins_step (hA : Layout.Apart hash) (hw : w.Hashed hash) (ht : t.Allowed hash) :
    t.Pins hash w (t.step w).ledger.view := by
  by_cases hreturns : t.Returns w
  · have heffect := effect_step hA ht hreturns
    cases t with
    | call frame callee c =>
      obtain ⟨l, hpaid, heffect⟩ := heffect
      obtain ⟨hslot, hlogs, -⟩ := hpaid.same
      have hl := hw.of_paid hpaid
      cases callee with
      | program runner =>
        exact .adds hreturns (List.forall_mem_nil _)
          ((Call.Effect.adds hA (hl _) heffect).of_same hslot hlogs)
      | system =>
        rcases SystemContract.Effect.adds_or_flips hA hl ht heffect with
          ⟨gs, hgs, hadds⟩ | ⟨h, b, hasks, hmanages, hflips⟩
        · exact .adds hreturns hgs (hadds.of_same hslot hlogs)
        · exact .flips rfl hreturns hasks ((View.manages_of_slot hslot).mp hmanages)
            (hflips.of_same hslot hlogs)
    | deploy runner r =>
      refine .adds hreturns (List.forall_mem_nil _) ?_
      change Deploy.Effect r w _ at heffect
      generalize (step w (deploy runner r)).ledger.view = v at heffect ⊢
      cases heffect with
      | placed hfunded => exact View.adds_nothing hfunded.slot hfunded.logs
      | @constructed l m address _ hfunded hpays hcode heffect =>
        exact (Call.Effect.adds hA (ht _ hcode) heffect).of_same (hpays.slot.trans hfunded.slot)
          (hpays.logs.trans hfunded.logs)
    | _ => exact .adds hreturns (List.forall_mem_nil _) (View.Spares.adds heffect)
  · have hundone := undone_step hreturns
    exact .undone hreturns (View.adds_nothing hundone.slot hundone.logs)

end Turn

/-! ### Runs -/

/-- The logs tell of the flags: each flag is as it was set last, and every log of it tells of a
change, the first of one to true. -/
structure View.Logged (hash : Word → Prop) (v : View) : Prop where
  last : ∀ h, hash h → v.pinned h = ((v.flags h).getLast?).getD false
  changes : ∀ h, hash h → (v.flags h).IsChain (· ≠ ·)
  first : ∀ h, hash h → (v.flags h).head? ≠ some false

namespace View

variable {hash : Word → Prop} {v u : View} {gs : List Log} {g : Log} {x : Update} {h : Word} {b : Bool}

theorem updates_of_logs (hlogs : u.logs = v.logs ++ gs) (h : Word) :
    u.updates h = v.updates h ++ (gs.filterMap Log.update?).filter (·.codeHash = h) := by
  unfold updates
  rw [hlogs, List.filterMap_append, List.filter_append]

theorem Adds.updates (hadds : v.Adds hash gs u) (hgs : ∀ g ∈ gs, g.address = programsAddress)
    (h : Word) : u.updates h = v.updates h := by
  have hnone : gs.filterMap Log.update? = [] :=
    List.filterMap_eq_nil_iff.mpr fun g hg => Log.update?_of_programs (hgs g hg)
  rw [updates_of_logs hadds.logs, hnone]
  exact List.append_nil _

theorem Adds.flags (hadds : v.Adds hash gs u) (hgs : ∀ g ∈ gs, g.address = programsAddress) (h : Word) :
    u.flags h = v.flags h := congrArg (List.map Update.pinned) (hadds.updates hgs h)

theorem Adds.logged (hadds : v.Adds hash gs u) (hgs : ∀ g ∈ gs, g.address = programsAddress)
    (hv : v.Logged hash) : u.Logged hash where
  last h hh := by rw [hadds.pinned h hh, hadds.flags hgs, hv.last h hh]
  changes h hh := by
    rw [hadds.flags hgs]
    exact hv.changes h hh
  first h hh := by
    rw [hadds.flags hgs]
    exact hv.first h hh

theorem Flips.updates_self (hflips : v.Flips hash h b g u) (hg : g.update? = some x)
    (hx : x.codeHash = h) : u.updates h = v.updates h ++ [x] := by
  rw [updates_of_logs hflips.logs]
  simp [hg, hx]

theorem Flips.updates_of_ne {k : Word} (hflips : v.Flips hash h b g u) (hg : g.update? = some x)
    (hx : x.codeHash ≠ k) : u.updates k = v.updates k := by
  rw [updates_of_logs hflips.logs]
  simp [hg, hx]

theorem Flips.logged (hflips : v.Flips hash h b g u) (hg : g.update? = some x)
    (hx : x.codeHash = h) (hb : x.pinned = b) (hv : v.Logged hash) : u.Logged hash := by
  have hself : u.flags h = v.flags h ++ [x.pinned] := by
    rw [flags, hflips.updates_self hg hx, List.map_append, flags, List.map_singleton]
  have hother : ∀ k, h ≠ k → u.flags k = v.flags k := fun k hk =>
    congrArg (List.map Update.pinned) (hflips.updates_of_ne hg (hx.trans_ne hk))
  have hlast := (hv.last h hflips.involved).symm.trans hflips.before
  rw [hb] at hself
  refine ⟨fun k hk => ?_, fun k hk => ?_, fun k hk => ?_⟩
  · by_cases heq : k = h
    · rw [heq, hself, hflips.after, List.getLast?_concat]
      rfl
    · rw [hflips.others k hk heq, hother k (Ne.symm heq), hv.last k hk]
  · by_cases heq : k = h
    · subst heq
      rw [hself]
      refine List.isChain_append.mpr ⟨hv.changes k hk, List.isChain_singleton b, fun y hy z hz => ?_⟩
      rw [Option.mem_def.mp hy] at hlast
      have hy' : y = !b := hlast
      have hz' : b = z := by simpa using hz
      rw [hy', ← hz']
      cases b <;> decide
    · rw [hother k (Ne.symm heq)]
      exact hv.changes k hk
  · by_cases heq : k = h
    · subst heq
      rw [hself]
      cases hflags : v.flags k with
      | nil =>
        rw [hflags] at hlast
        have hb' : false = !b := hlast
        cases b
        · cases hb'
        · decide
      | cons y ys =>
        have hfirst := hv.first k hk
        rw [hflags] at hfirst
        exact hfirst
    · rw [hother k (Ne.symm heq)]
      exact hv.first k hk

end View

theorem split_of_append {α : Type} {old new gs gs' : List α} {g : α}
    (h : old ++ new = gs ++ g :: gs') : (∃ rest, old = gs ++ g :: rest) ∨
      ∃ before, gs = old ++ before ∧ new = before ++ g :: gs' := by
  rcases List.append_eq_append_iff.mp h with ⟨before, hgs, hnew⟩ | ⟨rest, hold, hrest⟩
  · exact .inr ⟨before, hgs, hnew⟩
  · cases rest with
    | nil => exact .inr ⟨[], by simpa using hold.symm, hrest.symm⟩
    | cons g₀ rest =>
      obtain ⟨rfl, -⟩ := List.cons.inj hrest
      exact .inl ⟨rest, hold⟩

namespace Turn

variable {hash : Word → Prop} {w : World} {v : View} {t : Turn}

theorem Pins.logged (h : t.Pins hash w v) (hw : w.ledger.view.Logged hash) : v.Logged hash := by
  cases h with
  | undone _ hadds => exact hadds.logged (by simp) hw
  | adds _ hgs hadds => exact hadds.logged hgs hw
  | flips _ _ hasks _ hflips =>
    exact hflips.logged (Log.update?_cacheUpdated hasks.target _ _) rfl rfl hw

/-- A call adds to what was logged of a flag just when it changes the flag, and names its caller. -/
theorem Pins.updates {frame : Option Bool} {c : Call} {k : Word}
    (h : (Turn.call frame .system c).Pins hash w v) (hk : hash k) : v.updates k =
      w.ledger.view.updates k ++
        if v.pinned k = w.ledger.view.pinned k then [] else [⟨c.caller, k, v.pinned k⟩] := by
  cases h with
  | undone _ hadds => rw [hadds.updates (by simp), if_pos (hadds.pinned k hk), List.append_nil]
  | adds _ hgs hadds => rw [hadds.updates hgs, if_pos (hadds.pinned k hk), List.append_nil]
  | @flips _ _ h b heq _ hasks _ hflips =>
    obtain ⟨-, -, rfl⟩ := Turn.call.inj heq
    have htold := Log.update?_cacheUpdated hasks.target h b
    by_cases hkh : k = h
    · subst hkh
      have hflipped : b ≠ !b := by cases b <;> decide
      rw [hflips.updates_self htold rfl, hflips.after, hflips.before, if_neg hflipped]
    · rw [hflips.updates_of_ne htold (Ne.symm hkh), if_pos (hflips.others k hk hkh), List.append_nil]

theorem Pins.emitted {gs gs' : List Log} {g : Log} {x : Update} (h : t.Pins hash w v)
    (hlogs : v.logs = gs ++ g :: gs') (hg : g.update? = some x) :
    (∃ rest, w.ledger.logs = gs ++ g :: rest) ∨
      w.ledger.logs = gs ∧ v.logs = gs ++ [g] ∧ w.ledger.view.Manages x.manager := by
  have hprograms : ∀ {ys}, (∀ k ∈ ys, k.address = programsAddress) →
      w.ledger.view.Adds hash ys v → ∃ rest, w.ledger.logs = gs ++ g :: rest := by
    intro ys hys hadds
    rcases split_of_append (hadds.logs.symm.trans hlogs) with hold | ⟨before, -, hnew⟩
    · exact hold
    · rw [Log.update?_of_programs (hys g (by rw [hnew]; simp))] at hg
      cases hg
  cases h with
  | undone _ hadds => exact .inl (hprograms (by simp) hadds)
  | adds _ hgs hadds => exact .inl (hprograms hgs hadds)
  | flips _ _ hasks hmanages hflips =>
    rcases split_of_append (hflips.logs.symm.trans hlogs) with hold | ⟨before, hgs, hnew⟩
    · exact .inl hold
    cases before with
    | cons k ks => simp at hnew
    | nil =>
      obtain ⟨rfl, -⟩ := List.cons.inj hnew
      rw [Log.update?_cacheUpdated hasks.target] at hg
      cases hg
      rw [List.append_nil] at hgs
      subst hgs
      exact .inr ⟨rfl, hflips.logs, hmanages⟩

end Turn

namespace World

variable {hash : Word → Prop} {w : World} {ts : List Turn}

theorem logged_of_blank {v : View} (hnone : ∀ h, hash h → v.record? h = none) (hlogs : v.logs = []) :
    v.Logged hash := by
  have hflags : ∀ h, v.flags h = [] := fun h => by
    unfold View.flags View.updates
    rw [hlogs]
    rfl
  refine ⟨fun h hh => ?_, fun h hh => ?_, fun h hh => ?_⟩
  · rw [hflags, View.pinned, hnone h hh]
    rfl
  · rw [hflags]
    exact List.isChain_nil
  · rw [hflags]
    simp

section
variable (hA : Layout.Apart hash) (hw : w.Hashed hash) (hts : ∀ t ∈ ts, t.Allowed hash)
include hA hw hts

theorem pins_after {ts₁ ts₂ : List Turn} {t : Turn} (h : ts = ts₁ ++ t :: ts₂) :
    t.Pins hash (w.after ts₁) (t.step (w.after ts₁)).ledger.view := by
  have hts₁ : ∀ t ∈ ts₁, t.Allowed hash := fun t ht => hts t (h ▸ List.mem_append_left _ ht)
  exact Turn.pins_step hA (hashed_after hts₁ hw) (hts t (by simp [h]))

theorem logged_after (hlogged : w.ledger.view.Logged hash) :
    (w.after ts).ledger.view.Logged hash := by
  induction ts using List.reverseRecOn with
  | nil => exact hlogged
  | append_singleton ts t ih =>
    have hstep : t.Pins hash (w.after ts) (t.step (w.after ts)).ledger.view :=
      pins_after hA hw hts rfl
    rw [after_snoc]
    exact hstep.logged (ih fun t ht => hts t (List.mem_append_left _ ht))

/-- A log of a flag was caused in a turn, by a manager, and is all that the turn has logged. -/
theorem emitted_after (hlogs : w.ledger.logs = []) {gs gs' : List Log} {g : Log} {x : Update}
    (h : (w.after ts).ledger.logs = gs ++ g :: gs') (hg : g.update? = some x) :
    ∃ ts₁ t ts₂, ts = ts₁ ++ t :: ts₂ ∧ (w.after ts₁).ledger.logs = gs ∧
      (t.step (w.after ts₁)).ledger.logs = gs ++ [g] ∧
      (w.after ts₁).ledger.view.Manages x.manager := by
  induction ts using List.reverseRecOn generalizing gs' with
  | nil =>
    change w.ledger.logs = _ at h
    rw [hlogs] at h
    simp at h
  | append_singleton ts t ih =>
    have hstep : t.Pins hash (w.after ts) (t.step (w.after ts)).ledger.view :=
      pins_after hA hw hts rfl
    rw [after_snoc] at h
    rcases hstep.emitted h hg with ⟨rest, hold⟩ | ⟨hbefore, hafter, hmanages⟩
    · obtain ⟨ts₁, t', ts₂, rfl, hcaused⟩ :=
        ih (fun t ht => hts t (List.mem_append_left _ ht)) hold
      exact ⟨ts₁, t', ts₂ ++ [t], by simp, hcaused⟩
    · exact ⟨ts, t, [], rfl, hbefore, hafter, hmanages⟩

/-- In every run from a state with no records and no logs, the flag of each code hash is what the
last log of it says, false if there is none; the logs of one code hash alternate, from true on;
each of them was caused by a caller who was a manager then; and no turn changes a flag or logs of
one, but a call of a manager that returns and flips it. -/
theorem pins_logged (hnone : ∀ h, hash h → w.ledger.view.record? h = none)
    (hlogs : w.ledger.logs = []) :
    (w.after ts).ledger.view.Logged hash ∧
      (∀ gs g gs' x, (w.after ts).ledger.logs = gs ++ g :: gs' → g.update? = some x →
        ∃ ts₁ t ts₂, ts = ts₁ ++ t :: ts₂ ∧ (w.after ts₁).ledger.logs = gs ∧
          (t.step (w.after ts₁)).ledger.logs = gs ++ [g] ∧
          (w.after ts₁).ledger.view.Manages x.manager) ∧
      ∀ ts₁ t ts₂, ts = ts₁ ++ t :: ts₂ →
        t.Pins hash (w.after ts₁) (t.step (w.after ts₁)).ledger.view :=
  ⟨logged_after hA hw hts (logged_of_blank hnone hlogs),
    fun _ _ _ _ => emitted_after hA hw hts hlogs, fun _ _ _ => pins_after hA hw hts⟩

end

theorem updates_request (ts' : List Turn) {time : Word} {c : Call} {k : Word} {p p' : Bool}
    (hpins : ∀ ts₁ t ts₂, ts ++ (request time c ++ ts') = ts₁ ++ t :: ts₂ →
      t.Pins hash (w.after ts₁) (t.step (w.after ts₁)).ledger.view) (hk : hash k)
    (hbefore : (w.after ts).ledger.view.pinned k = p)
    (hafter : (w.after (ts ++ request time c)).ledger.view.pinned k = p') :
    (w.after (ts ++ request time c)).ledger.view.updates k =
      (w.after ts).ledger.view.updates k ++ if p' = p then [] else [⟨c.caller, k, p'⟩] := by
  have hcall := hpins (ts ++ [.set {} { timestamp := time } {}]) (.call (some true) .system c) ts'
    (by simp [request])
  rw [after_snoc] at hcall
  rw [← hbefore, ← hafter, after_append]
  exact hcall.updates hk

/-- Account nine pins the small package and releases it again, and the log tells of both. -/
theorem pins_logged_served :
    let w := furnished 9
    w.Goes served ∧
      (w.after ([managing] ++ activating ++ keeping ++ pinning)).ledger.view.pinned smallHash = true ∧
      (w.after served).ledger.view.pinned smallHash = false ∧
      (w.after served).ledger.view.updates smallHash =
        [⟨9, smallHash, true⟩, ⟨9, smallHash, false⟩] ∧
      (w.after served).ledger.view.Logged (· = smallHash) := by
  intro w
  obtain ⟨hgoes, h₁, h₂, h₃, h₄⟩ := goes_served
  obtain ⟨hlogged, -, hpins⟩ := pins_logged Layout.apart_smallHash (hashed_furnished 9) allowed_served
    (fun h _ => record_furnished 9 h) rfl
  have hentered : (w.after ([managing] ++ activating)).ledger.view.pinned smallHash = false :=
    View.pinned_of_record h₁.record
  have hkept : (w.after ([managing] ++ activating ++ keeping)).ledger.view.pinned smallHash = false :=
    View.pinned_of_record h₂.record
  have hpinned := View.pinned_of_record h₃.record
  have hreleased : (w.after served).ledger.view.pinned smallHash = false :=
    View.pinned_of_record h₄.record
  refine ⟨hgoes, hpinned, hreleased, ?_, hlogged⟩
  have hunpinned : (w.after [managing]).ledger.view.pinned smallHash = false := by
    rw [after_one, View.pinned, serves_managing.record]
    rfl
  have hpins' : ∀ {ts ts'}, served = ts ++ ts' → ∀ ts₁ t ts₂, ts ++ ts' = ts₁ ++ t :: ts₂ →
      t.Pins (· = smallHash) (w.after ts₁) (t.step (w.after ts₁)).ledger.view :=
    fun hsplit ts₁ t ts₂ h => hpins ts₁ t ts₂ (hsplit.trans h)
  have hstart : (w.after [managing]).ledger.view.updates smallHash = [] := by
    obtain ⟨l, hl, hview⟩ := step_managing (healthy_furnished 9)
    rw [after_one, hl, View.updates, hview]
    rfl
  have hu₁ : (w.after ([managing] ++ activating)).ledger.view.updates smallHash = [] := by
    rw [activating, updates_request (keeping ++ (pinning ++ releasing))
      (hpins' (by simp only [served, List.append_assoc]; rfl)) rfl hunpinned hentered, hstart]
    rfl
  have hu₂ : (w.after ([managing] ++ activating ++ keeping)).ledger.view.updates smallHash = [] := by
    rw [keeping, updates_request (pinning ++ releasing)
      (hpins' (by simp only [served, List.append_assoc]; rfl)) rfl hentered hkept, hu₁]
    rfl
  have hu₃ : (w.after ([managing] ++ activating ++ keeping ++ pinning)).ledger.view.updates smallHash =
      [⟨9, smallHash, true⟩] := by
    rw [pinning, updates_request releasing
      (hpins' (by simp only [served, List.append_assoc]; rfl)) rfl hkept hpinned, hu₂]
    rfl
  rw [served, releasing, updates_request []
    (hpins' (by simp only [served, List.append_nil]; rfl)) rfl hpinned hreleased, hu₃]
  rfl

end World
end Inkwell
