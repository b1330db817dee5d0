import Inkwell.Cache
import Inkwell.Proofs.Compile
import Mathlib.Logic.Basic
set_option autoImplicit false

/-! What is in a cache was compiled, and what may be read off that. A cache asks only for the
version and the mode of what it keeps, not for the limits. -/

namespace Inkwell

namespace Lru

variable {κ α : Type} [DecidableEq κ] {c : Lru κ α} {k : κ} {v : α} {p : κ × α}

theorem mem_keys : c.contains k = true ↔ k ∈ c.keys := List.contains_iff_mem

theorem find?_none (h : k ∉ c.keys) : c.entries.find? (·.1 = k) = none := by
  refine List.find?_eq_none.mpr fun p hp hpk => h ?_
  exact List.mem_map.mpr ⟨p, hp, by simpa using hpk⟩

theorem find?_some (h : k ∈ c.keys) : ∃ v, c.entries.find? (·.1 = k) = some (k, v) := by
  obtain ⟨p, hp, hpk⟩ := List.mem_map.mp h
  obtain ⟨q, hq⟩ := Option.isSome_iff_exists.mp
    (List.find?_isSome (p := fun q : κ × α => q.1 = k) |>.mpr ⟨p, hp, by simpa using hpk⟩)
  have hqk : q.1 = k := by simpa using List.find?_some hq
  exact ⟨q.2, by rw [hq, ← hqk]⟩

theorem get?_of_not_mem (h : k ∉ c.keys) : c.get? k = (none, c) := by
  unfold get?
  rw [find?_none h]

theorem get?_of_find? {p : κ × α} (h : c.entries.find? (·.1 = k) = some p) :
    c.get? k = (some p.2, { c with entries := (k, p.2) :: c.others k }) := by
  unfold get?
  rw [h]

theorem get?_cases (c : Lru κ α) (k : κ) : k ∉ c.keys ∧ c.get? k = (none, c) ∨
    ∃ v, (k, v) ∈ c.entries ∧ c.get? k = (some v, { c with entries := (k, v) :: c.others k }) := by
  by_cases hk : k ∈ c.keys
  · obtain ⟨v, hv⟩ := find?_some hk
    exact .inr ⟨v, List.mem_of_find?_eq_some hv, get?_of_find? hv⟩
  · exact .inl ⟨hk, get?_of_not_mem hk⟩

theorem mem_of_get? (h : (c.get? k).1 = some v) : (k, v) ∈ c.entries := by
  rcases get?_cases c k with ⟨-, hnone⟩ | ⟨v', hmem, hfound⟩
  · rw [hnone] at h
    cases h
  · rw [hfound] at h
    cases h
    exact hmem

theorem mem_of_mem_others (h : p ∈ c.others k) : p ∈ c.entries := (List.mem_filter.mp h).1

theorem mem_of_mem_get? (h : p ∈ (c.get? k).2.entries) : p ∈ c.entries := by
  rcases get?_cases c k with ⟨-, hnone⟩ | ⟨v, hmem, hfound⟩
  · rwa [hnone] at h
  · rw [hfound] at h
    rcases List.mem_cons.mp h with rfl | h
    · exact hmem
    · exact mem_of_mem_others h

theorem contains_iff : c.contains k = true ↔ ∃ v, (c.get? k).1 = some v := by
  rw [mem_keys]
  rcases get?_cases c k with ⟨hk, hnone⟩ | ⟨v, hmem, hfound⟩
  · rw [hnone]
    exact iff_of_false hk fun ⟨v, hv⟩ => nomatch hv
  · rw [hfound]
    exact iff_of_true (List.mem_map_of_mem hmem) ⟨v, rfl⟩

theorem mem_of_mem_insert (h : p ∈ (c.insert k v).2.entries) : p = (k, v) ∨ p ∈ c.entries := by
  have hcons : p ∈ (k, v) :: c.others k := by
    unfold insert at h
    by_cases hfull : c.capacity < ((k, v) :: c.others k).length
    · simp only [if_pos hfull] at h
      exact List.dropLast_subset _ h
    · simp only [if_neg hfull] at h
      exact h
  rcases List.mem_cons.mp hcons with h | h
  · exact .inl h
  · exact .inr (mem_of_mem_others h)

end Lru

namespace Cache

def kept? (c : Cache) (module : Word) : Option Artifact := (c.artifacts.get? module).1

/-- All that is kept was compiled from modules of a kind. -/
def Genuine (M : Octets → Prop) (c : Cache) : Prop :=
  ∀ p ∈ c.artifacts.entries, ∃ wasm s, M wasm ∧ p.1 = keccak wasm ∧ compile wasm s = .ok p.2

variable {M : Octets → Prop} {c : Cache} {wasm : Octets} {s : CompileSettings}

theorem genuine_ofCapacity (n : Nat) : Genuine M (ofCapacity n) := by
  intro p hp
  simp [ofCapacity, Lru.ofCapacity] at hp

theorem Genuine.kept (h : Genuine M c) {module : Word} {a : Artifact}
    (ha : c.kept? module = some a) : ∃ wasm s, M wasm ∧ module = keccak wasm ∧
      compile wasm s = .ok a := h _ (Lru.mem_of_get? ha)

theorem Genuine.get? (h : Genuine M c) (module : Word) (s : CompileSettings) :
    Genuine M (c.get? module s).2 := fun p hp => h p (Lru.mem_of_mem_get? hp)

theorem Genuine.insert (h : Genuine M c) {a : Artifact} (hM : M wasm)
    (ha : compile wasm s = .ok a) : Genuine M (c.insert a).2 := by
  intro p hp
  rcases Lru.mem_of_mem_insert hp with rfl | hp
  · exact ⟨wasm, s, hM, (compile_ok ha).moduleHash, ha⟩
  · exact h p hp

theorem Genuine.evict (h : Genuine M c) (module : Word) : Genuine M (c.evict module).2 :=
  fun p hp => h p (Lru.mem_of_mem_others hp)

theorem genuine_clear : Genuine M c.clear := by
  intro p hp
  simp [clear, Lru.clear] at hp

theorem Genuine.startBlock (h : Genuine M c) (block : Nat) : Genuine M (c.startBlock block) := h

theorem Genuine.touchRecent (h : Genuine M c) (block : Nat) (module : Word) (retain : Nat) :
    Genuine M (c.touchRecent block module retain).2 := h

theorem artifacts_startBlock (c : Cache) (block : Nat) :
    (c.startBlock block).artifacts = c.artifacts := rfl

theorem load_eq (c : Cache) (compiler : Compiler) (wasm : Octets) (s : CompileSettings)
    (keep : Bool) : (c.load compiler wasm s keep).1 =
      match (c.kept? (keccak wasm)).filter (·.suits s) with
      | some a => .ok ⟨a, true⟩
      | none => (compiler wasm s).map (⟨·, false⟩) := by
  have hget : (c.get? (keccak wasm) s).1 = (c.kept? (keccak wasm)).filter (·.suits s) := rfl
  rw [← hget]
  unfold load
  generalize c.get? (keccak wasm) s = g
  obtain ⟨found, c'⟩ := g
  cases found with
  | some a => rfl
  | none => cases compiler wasm s <;> rfl

theorem load_of_artifacts {c k : Cache} {compiler : Compiler} {wasm : Octets} {s : CompileSettings}
    {keep : Bool} (h : c.artifacts = k.artifacts) :
    (c.load compiler wasm s keep).1 = (k.load compiler wasm s keep).1 := by
  rw [load_eq, load_eq, kept?, kept?, h]

theorem load_of_compiles (c : Cache) (keep : Bool) {a : Artifact} (ha : compile wasm s = .ok a) :
    ∃ y, (c.load compile wasm s keep).1 = .ok y := by
  rw [load_eq, ha]
  cases (c.kept? (keccak wasm)).filter (·.suits s) with
  | some b => exact ⟨_, rfl⟩
  | none => exact ⟨_, rfl⟩

theorem Genuine.load (h : Genuine M c) (hM : M wasm) (keep : Bool) :
    Genuine M (c.load compile wasm s keep).2 := by
  have hget := h.get? (keccak wasm) s
  unfold Cache.load
  generalize c.get? (keccak wasm) s = g at hget
  obtain ⟨found, c'⟩ := g
  cases found with
  | some a => exact hget
  | none =>
    cases ha : compile wasm s with
    | error e => exact hget
    | ok a =>
      cases keep with
      | false => exact hget
      | true => exact hget.insert hM ha

inductive Reachable : Cache → Prop
  | fresh (n : Nat) : Reachable (ofCapacity n)
  | get {c : Cache} (module : Word) (s : CompileSettings) : Reachable c →
      Reachable (c.get? module s).2
  | insert {c : Cache} {wasm : Octets} {s : CompileSettings} {a : Artifact} :
      compile wasm s = .ok a → Reachable c → Reachable (c.insert a).2
  | load {c : Cache} (wasm : Octets) (s : CompileSettings) (keep : Bool) : Reachable c →
      Reachable (c.load compile wasm s keep).2
  | evict {c : Cache} (module : Word) : Reachable c → Reachable (c.evict module).2
  | clear {c : Cache} : Reachable c → Reachable c.clear
  | startBlock {c : Cache} (block : Nat) : Reachable c → Reachable (c.startBlock block)
  | touchRecent {c : Cache} (block : Nat) (module : Word) (retain : Nat) : Reachable c →
      Reachable (c.touchRecent block module retain).2

theorem Reachable.genuine (h : Reachable c) : Genuine (fun _ => True) c := by
  induction h with
  | fresh n => exact genuine_ofCapacity n
  | get module s _ ih => exact ih.get? module s
  | insert ha _ ih => exact ih.insert trivial ha
  | load wasm s keep _ ih => exact ih.load trivial keep
  | evict module _ ih => exact ih.evict module
  | clear => exact genuine_clear
  | startBlock block _ ih => exact ih.startBlock block
  | touchRecent block module retain _ ih => exact ih.touchRecent block module retain

/-- An artifact of this module is kept that passes for one compiled now. -/
def Serves (c : Cache) (wasm : Octets) (s : CompileSettings) : Prop :=
  ∃ a, c.kept? (keccak wasm) = some a ∧ a.suits s = true

theorem load_ok_of_kept {a : Artifact} (ha : c.kept? (keccak wasm) = some a)
    (hsuits : a.suits s = true) (keep : Bool) :
    (c.load compile wasm s keep).1 = .ok ⟨a, true⟩ := by
  rw [load_eq, ha]
  simp [Option.filter, hsuits]

theorem load_of_not_serves (h : ¬ c.Serves wasm s) (keep : Bool) :
    (c.load compile wasm s keep).1 = (compile wasm s).map (⟨·, false⟩) := by
  rw [load_eq]
  cases hkept : c.kept? (keccak wasm) with
  | none => rfl
  | some a =>
    have hsuits : a.suits s ≠ true := fun hs => h ⟨a, hkept, hs⟩
    simp [Option.filter, hsuits]

theorem load_error_iff {e : CompileError} (he : compile wasm s = .error e) (keep : Bool) :
    (c.load compile wasm s keep).1 = .error e ↔ ¬ c.Serves wasm s := by
  refine ⟨fun h hserves => ?_, fun h => ?_⟩
  · obtain ⟨a, ha, hsuits⟩ := hserves
    rw [load_ok_of_kept ha hsuits] at h
    cases h
  · rw [load_of_not_serves h, he]
    rfl

theorem mode_of_suits {s' : CompileSettings} {a : Artifact} (hcompile : compile wasm s' = .ok a)
    (hsuits : a.suits s = true) : s'.version = s.version ∧ s'.debug = s.debug := by
  have hof := compile_ok hcompile
  rw [← hof.version, ← hof.debug]
  simpa [Artifact.suits] using hsuits

/-- With no two modules of one hash, what a cache serves was compiled from the module asked for. -/
theorem Genuine.load_compiled {keep : Bool} {l : Loaded} (h : Genuine M c) (hwasm : M wasm)
    (hinj : ∀ x y, M x → M y → keccak x = keccak y → x = y)
    (hl : (c.load compile wasm s keep).1 = .ok l) :
    ∃ s', compile wasm s' = .ok l.artifact ∧ s'.version = s.version ∧ s'.debug = s.debug := by
  by_cases hserves : c.Serves wasm s
  · obtain ⟨a, ha, hsuits⟩ := hserves
    obtain ⟨wasm', s', hwasm', hhash, hcompile⟩ := h.kept ha
    rw [load_ok_of_kept ha hsuits] at hl
    cases hl
    cases hinj _ _ hwasm hwasm' hhash
    exact ⟨s', hcompile, mode_of_suits hcompile hsuits⟩
  · rw [load_of_not_serves hserves] at hl
    cases hcompile : compile wasm s with
    | error e =>
      rw [hcompile] at hl
      cases hl
    | ok a =>
      rw [hcompile] at hl
      cases hl
      exact ⟨s, hcompile, rfl, rfl⟩

theorem Reachable.widerLimit (h : Reachable c) {e : CompileError} (he : compile wasm s = .error e)
    {a : Artifact} (ha : c.kept? (keccak wasm) = some a) (hsuits : a.suits s = true) :
    ∃ s', compile a.module s' = .ok a ∧ keccak a.module = keccak wasm ∧
      s'.version = s.version ∧ s'.debug = s.debug ∧ (a.module = wasm → e.IsLimit wasm s s') := by
  obtain ⟨wasm', s', -, hhash, hcompile⟩ := h.genuine.kept ha
  have hmode := mode_of_suits hcompile hsuits
  rw [(compile_ok hcompile).module]
  refine ⟨s', hcompile, hhash.symm, hmode.1, hmode.2, fun hwasm => ?_⟩
  rw [hwasm] at hcompile
  exact compile_error_isLimit hmode.2 he hcompile

/-- A module that is refused is refused by a cache too, with the same error, unless an artifact of
the same version and mode is kept: then it is served, whatever the limits are now. Such an artifact
was let pass under wider limits, or is that of another module with the same hash. So two caches
agree on a refused module when both of them would serve it or neither. -/
theorem load_refused (h : Reachable c) {e : CompileError} (he : compile wasm s = .error e)
    (c' : Cache) (keep keep' : Bool) :
    ((c.load compile wasm s keep).1 = .error e ↔ ¬ c.Serves wasm s) ∧
    (∀ a, c.kept? (keccak wasm) = some a → a.suits s = true →
      (c.load compile wasm s keep).1 = .ok ⟨a, true⟩ ∧
      ∃ s', compile a.module s' = .ok a ∧ keccak a.module = keccak wasm ∧
        s'.version = s.version ∧ s'.debug = s.debug ∧ (a.module = wasm → e.IsLimit wasm s s')) ∧
    (((c.load compile wasm s keep).1 = .error e ↔ (c'.load compile wasm s keep').1 = .error e) ↔
      (c.Serves wasm s ↔ c'.Serves wasm s)) := by
  refine ⟨load_error_iff he keep, fun a ha hsuits => ?_, ?_⟩
  · exact ⟨load_ok_of_kept ha hsuits keep, h.widerLimit he ha hsuits⟩
  · rw [load_error_iff he, load_error_iff he]
    exact not_iff_not

def narrow : CompileSettings := ⟨2, false, 0, 131072⟩

/-- The small module can be kept, though with no pages at all it would not be compiled. -/
theorem kept_small : ∃ c a e, Reachable c ∧ c.kept? (keccak smallModule) = some a ∧
    a.suits narrow = true ∧ a.module = smallModule ∧ compile smallModule narrow = .error e := by
  obtain ⟨a, ha⟩ := compile_smallModule
  have hof := compile_ok ha
  have h : (compile smallModule narrow).isOk = false := by decide +kernel
  cases he : compile smallModule narrow with
  | ok a =>
    rw [he] at h
    cases h
  | error e =>
    refine ⟨((ofCapacity 1).insert a).2, a, e, .insert ha (.fresh 1), ?_, ?_, hof.module, rfl⟩
    · simp [kept?, insert, ofCapacity, Lru.insert, Lru.ofCapacity, Lru.others, Lru.get?,
        hof.moduleHash]
    · simp [narrow, Artifact.suits, hof.version, hof.debug]

/-- A cache that has kept the small module serves it though there may be no pages now, and one that has
not refuses it. -/
theorem load_refused_narrow : ∃ c a e s', Reachable c ∧ compile smallModule narrow = .error e ∧
    (c.load compile smallModule narrow true).1 = .ok ⟨a, true⟩ ∧
    ((ofCapacity 1).load compile smallModule narrow true).1 = .error e ∧
    compile smallModule s' = .ok a ∧ e.IsLimit smallModule narrow s' := by
  obtain ⟨c, a, e, hc, ha, hsuits, hmodule, he⟩ := kept_small
  obtain ⟨-, hkept, -⟩ := load_refused hc he (ofCapacity 1) true true
  obtain ⟨hserved, s', hcompile, -, -, -, hlimit⟩ := hkept a ha hsuits
  obtain ⟨hrefused, -⟩ := load_refused (.fresh 1) he c true true
  have hnone : ¬ (ofCapacity 1).Serves smallModule narrow := by
    rintro ⟨a, ha, -⟩
    cases ha
  exact ⟨c, a, e, s', hc, he, hserved, hrefused.mpr hnone, hmodule ▸ hcompile, hlimit hmodule⟩

/-- Once a module was compiled, a limit of no pages at all does not stop it. -/
theorem load_serves_refused : ∃ c e, Reachable c ∧
    compile smallModule ⟨2, false, 0, 131072⟩ = .error e ∧
    ∀ keep, (c.load compile smallModule ⟨2, false, 0, 131072⟩ keep).1 ≠ .error e := by
  obtain ⟨c, a, e, hc, ha, hsuits, -, he⟩ := kept_small
  refine ⟨c, e, hc, he, fun keep hload => ?_⟩
  exact (load_error_iff he keep).mp hload ⟨a, ha, hsuits⟩

end Cache
end Inkwell
