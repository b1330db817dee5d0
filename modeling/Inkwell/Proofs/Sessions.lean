import Inkwell.Proofs.Deploy
import Inkwell.Proofs.Settle
import Inkwell.Proofs.Starts
import Inkwell.Proofs.SystemCalls
import Inkwell.Session
set_option autoImplicit false

/-! Runs of a session: whatever is called, activated, deployed, kept, evicted or undone, and in
whatever order, the state and the caches tell of programs what was made of their code. -/

namespace Inkwell

namespace Involved

variable {E : Involved} {l m : Ledger} {cs : List Checkpoint}

/-- A ledger that tells what was made, also of what it has not fetched yet. -/
structure Sound (E : Involved) (l : Ledger) : Prop where
  coded : l.Coded E.writes
  stored : l.Stored E.writes
  genuine : E.Genuine l.slot
  genuineStore : E.Genuine l.store.slot

theorem genuine_congr {f g : SlotKey → Word} (h : ∀ s, f (stateAccount, s) = g (stateAccount, s))
    (hg : E.Genuine g) : E.Genuine f := by
  intro codeHash hh
  unfold Tells
  rw [h, h]
  exact hg codeHash hh

theorem Sound.reaches (hl : E.Sound l) (h : l.Reaches E.writes m) : E.Sound m where
  coded := h.coded (fun _ _ hnone => by cases hnone) hl.coded
  stored a := by
    rw [h.store]
    exact hl.stored a
  genuine := h.slot_inv (fun _ _ _ hw => hw) hl.genuine
  genuineStore := by
    rw [h.store]
    exact hl.genuineStore

theorem Sound.settle (hl : E.Sound l) : E.Sound l.settle := by
  have hcoded := Ledger.coded_settle hl.coded hl.stored
  have hgenuine : E.Genuine l.settle.slot := by
    rcases Ledger.slots_settle l stateAccount with h | h
    · exact genuine_congr h hl.genuine
    · exact genuine_congr h hl.genuineStore
  exact ⟨hcoded, hcoded, hgenuine, hgenuine⟩

/-- The ledger of a session and its open checkpoints, the latest first: each was taken of a ledger
from which what came after was reached. -/
inductive Open (E : Involved) : List Checkpoint → Ledger → Prop
  | none {l : Ledger} : E.Sound l → Open E [] l
  | checkpoint {cs : List Checkpoint} {l m : Ledger} : Open E cs l → l.Reaches E.writes m →
      Open E (l.checkpoint :: cs) m

theorem Open.reaches (hl : E.Open cs l) (h : l.Reaches E.writes m) : E.Open cs m := by
  cases hl with
  | none hl => exact .none (hl.reaches h)
  | checkpoint ho hr => exact .checkpoint ho (hr.trans h)

theorem Open.sound (hl : E.Open cs l) : E.Sound l := by
  induction hl with
  | none hl => exact hl
  | checkpoint _ hr ih => exact ih.reaches hr

theorem Open.tail (hl : E.Open cs l) : E.Open cs.tail l := by
  cases hl with
  | none hl => exact .none hl
  | checkpoint ho hr => exact ho.reaches hr

theorem Open.revert {c : Checkpoint} (hl : E.Open (c :: cs) l) : E.Open cs (l.revert c) := by
  cases hl with
  | checkpoint ho hr => exact ho.reaches (.undone .refl hr)

end Involved

/-- What can be done with a world. Code that is deployed and modules that are compiled are among
those involved, and so are the code hashes that methods of system contracts are told. -/
inductive World.Does (E : Involved) : World → World → Prop
  | call {w : World} (runner : Runner) (c : Call) : Does E w ((c.run runner).run w).2
  | systemCall {w : World} (c : Call) : (∀ s ∈ SystemContract.renewing,
      c.input.take 4 = Abi.selectorOf s → ∀ h, Abi.firstWord? (c.input.drop 4) = some h → E.hash h) →
      Does E w ((SystemContract.call c).run w).2
  | deploy {w : World} (runner : Runner) (r : DeployRequest) :
      (∀ code, r.build.code = .ok code → E.Allows code) → Does E w (outcome (deploy runner r) w).2
  | activate {w : World} {limit : Nat} {code wasm : Octets} (pinned : Bool) : E.Allows code →
      Package.module? limit code = .ok (some wasm) →
      Does E w (outcome (activate (keccak code) wasm pinned) w).2
  | activateAndCharge {w : World} {limit : Nat} {code wasm : Octets} (pinned : Bool)
      (payer : Address) : E.Allows code → Package.module? limit code = .ok (some wasm) →
      Does E w (outcome (activateAndCharge (keccak code) wasm pinned payer) w).2
  | chargeFee {w : World} (payer : Address) (fee : Word) :
      Does E w (outcome (chargeFee payer fee) w).2
  | keepalive {w : World} {h : Word} : E.hash h → Does E w (outcome (keepalive h) w).2
  | load {w : World} {wasm : Octets} (s : CompileSettings) (keep : Bool) : E.module wasm →
      Does E w (outcome (load wasm s keep) w).2
  | insert {w : World} {wasm : Octets} {s : CompileSettings} {a : Artifact} : E.module wasm →
      compile wasm s = .ok a → Does E w { w with cache := (w.cache.insert a).2 }
  | evict {w : World} (module : Word) : Does E w { w with cache := (w.cache.evict module).2 }
  | clear {w : World} : Does E w { w with cache := w.cache.clear }
  | renew {w : World} (capacity : Nat) : Does E w { w with cache := .ofCapacity capacity }
  | startBlock {w : World} (block : Nat) : Does E w { w with cache := w.cache.startBlock block }
  | setParams {w : World} (p : Params) : Does E w (outcome (onState false (State.setParams p)) w).2
  | store {w : World} {slot : Word} (v : Word) : E.Beside slot →
      Does E w (outcome (onState false (Access.store slot v)) w).2
  | set {w : World} (config : Config) (block : Block) (transaction : Transaction) :
      Does E w { w with config, block, transaction }
  | fetch {w : World} {l : Ledger} : w.ledger.Reads l → Does E w { w with ledger := l }
  | transfer {w : World} (source dest : Address) (v : Word) :
      Does E w (w.bare (Ledger.transfer source dest v)).2
  | count {w : World} (a : Address) : Does E w (w.bare (Ledger.bumpNonce a)).2
  | create {w : World} {a : Address} {code : Octets} : (w.ledger.account a).code = [] →
      E.Allows code → Does E w (w.bare (Ledger.setCode a code)).2

namespace World

variable {E : Involved} {w w' : World} {α : Type} {code wasm : Octets}

theorem follows_bare {m : LedgerM α} (h : KeepsFrom (Ledger.Reaches E.writes) m w.ledger) :
    E.rules.Follows w (w.bare m).2 := Rules.follows_ledger fun _ => h

theorem keeps_setParams (E : Involved) (p : Params) :
    Keeps E.rules.Follows (onState false (State.setParams p)) := by
  have hopen : ∀ slot ∈ [Layout.paramsWord, Layout.pageRamp], E.writes.Open slot := by
    intro slot hslot
    refine Involved.open_of_beside fun h hh => E.besides hh hh (List.mem_append_right _ ?_)
    rcases List.mem_pair.mp hslot with rfl | rfl <;> simp
  refine keeps_onState ((State.keeps_store fun f => ?_).bind fun _ => State.keeps_store fun f => ?_)
  · exact hopen _ (.head _) f _
  · exact hopen _ (.tail _ (.head _)) f _

theorem runs_of_allows {limit : Nat} (hcode : E.Allows code)
    (hmodule : Package.module? limit code = .ok (some wasm)) :
    E.writes.Runs (keccak code) wasm := ⟨code, limit, hcode, rfl, hmodule⟩

/-- Whatever is done, the rules are kept. -/
theorem Does.follows (h : Does E w w') : E.rules.Follows w w' := by
  cases h with
  | call runner c => exact Call.follows_run _ runner c w
  | systemCall c hinvolved =>
    exact SystemContract.follows_call _ c w fun s hs hselector h hh =>
      Involved.renews (hinvolved s hs hselector h hh)
  | deploy runner r hcode => exact keeps_deploy hcode w
  | activate pinned hcode hmodule => exact keeps_activate (runs_of_allows hcode hmodule) pinned w
  | activateAndCharge pinned payer hcode hmodule =>
    exact keeps_activateAndCharge (runs_of_allows hcode hmodule) pinned w
  | chargeFee payer fee => exact keeps_chargeFee w
  | keepalive hh => exact keeps_keepalive (Involved.renews hh) w
  | load s keep hwasm =>
    have hkeeps : ∀ c, E.rules.cache c → E.rules.cache (c.load compile _ s keep).2 :=
      fun c hc => Cache.Genuine.load hc hwasm keep
    rw [outcome_load]
    exact Rules.follows_cache fun hw => hkeeps _ hw.cache
  | insert hwasm hcompile =>
    exact Rules.follows_cache fun hw => Cache.Genuine.insert hw.cache hwasm hcompile
  | evict module => exact Rules.follows_cache fun hw => Cache.Genuine.evict hw.cache module
  | clear => exact Rules.follows_cache fun _ => Cache.genuine_clear
  | renew capacity => exact Rules.follows_cache fun _ => Cache.genuine_ofCapacity capacity
  | startBlock block => exact Rules.follows_cache fun hw => Cache.Genuine.startBlock hw.cache block
  | setParams p => exact keeps_setParams E p w
  | store v hslot =>
    exact keeps_onState (State.keeps_store fun f => Involved.open_of_beside hslot f v) w
  | set config block transaction => exact ⟨fun hw => hw.cache, fun _ => .refl⟩
  | fetch hl => exact Rules.follows_ledger fun _ => hl.reaches
  | transfer source dest v => exact follows_bare (Ledger.keeps_transfer w.ledger)
  | count a => exact follows_bare (Ledger.keeps_bumpNonce w.ledger)
  | create hnone hcode => exact follows_bare (Ledger.keepsFrom_setCode hnone hcode)

end World

namespace Session

variable {E : Involved} {s t : Session} {w : World}

structure Tells (E : Involved) (s : Session) : Prop where
  cache : Cache.Genuine E.module s.world.cache
  ledger : E.Open s.checkpoints s.world.ledger

theorem Tells.sound (h : s.Tells E) : E.rules.Sound s.world := ⟨h.cache, h.ledger.sound.coded⟩

theorem Tells.follows (h : s.Tells E) (hw : E.rules.Follows s.world w) :
    Tells E ⟨w, s.checkpoints⟩ := ⟨hw.cache h.sound, h.ledger.reaches (hw.ledger h.sound)⟩

inductive Step (E : Involved) : Session → Session → Prop
  | act {s : Session} {w : World} : World.Does E s.world w → Step E s ⟨w, s.checkpoints⟩
  | checkpoint {s : Session} : Step E s s.checkpoint
  | commit {s : Session} : Step E s s.commit
  | revert {s : Session} : Step E s s.revert
  | endTransaction {s : Session} : Step E s s.endTransaction

/-- Nothing has been done yet: no record is stored, nothing is held and no artifact kept. -/
structure Fresh (E : Involved) (s : Session) : Prop where
  ledger : s.world.ledger = { store := s.world.ledger.store }
  cache : ∃ n, s.world.cache = .ofCapacity n
  checkpoints : s.checkpoints = []
  codes : ∀ a, E.Allows (s.world.ledger.store.account a).code
  noRecord : ∀ h, E.hash h → s.world.ledger.store.slot (stateAccount, Layout.recordData h) = 0

inductive Reachable (E : Involved) : Session → Prop
  | fresh {s : Session} : s.Fresh E → Reachable E s
  | step {s t : Session} : Reachable E s → Step E s t → Reachable E t

theorem Fresh.tells (h : s.Fresh E) : s.Tells E := by
  obtain ⟨n, hn⟩ := h.cache
  have hslot : s.world.ledger.slot = s.world.ledger.store.slot := by
    funext k
    rw [h.ledger]
    rfl
  have haccount : s.world.ledger.account = s.world.ledger.store.account := by
    funext a
    rw [h.ledger]
    rfl
  have hgenuine : E.Genuine s.world.ledger.store.slot := fun codeHash hh hrecord =>
    absurd (h.noRecord codeHash hh) hrecord
  have hsound : E.Sound s.world.ledger := by
    refine ⟨fun a => ?_, h.codes, ?_, hgenuine⟩
    · rw [haccount]
      exact h.codes a
    · rw [hslot]
      exact hgenuine
  refine ⟨?_, ?_⟩
  · rw [hn]
    exact Cache.genuine_ofCapacity n
  · rw [h.checkpoints]
    exact .none hsound

theorem Step.tells (h : Step E s t) (hs : s.Tells E) : t.Tells E := by
  cases h with
  | act hw => exact hs.follows hw.follows
  | checkpoint => exact ⟨hs.cache, .checkpoint hs.ledger .refl⟩
  | commit => exact ⟨hs.cache, hs.ledger.tail⟩
  | revert =>
    obtain ⟨w, cs⟩ := s
    cases cs with
    | nil => exact hs
    | cons c cs => exact ⟨hs.cache, hs.ledger.revert⟩
  | endTransaction => exact ⟨hs.cache, .none hs.ledger.sound.settle⟩

theorem Reachable.tells (h : Reachable E s) : s.Tells E := by
  induction h with
  | fresh hs => exact hs.tells
  | step _ hst ih => exact hst.tells ih

end Session
end Inkwell
