import Inkwell.Proofs.Keccak
import Inkwell.Proofs.Recency
import Mathlib.Data.Finset.Card
set_option autoImplicit false

/-! What a cache of artifacts holds after any run: the modules used last, as many as there is room
for. Uses are insertions, and lookups of what is present. -/

namespace Inkwell

namespace Compiler

/-- What is compiled is told by the hash of the module. -/
def Faithful (compiler : Compiler) : Prop :=
  ∀ wasm s a, compiler wasm s = .ok a → a.moduleHash = keccak wasm

/-- A module compiles, to an artifact that suits what it is compiled under. -/
def serves (compiler : Compiler) (wasm : Octets) (s : CompileSettings) : Bool :=
  match compiler wasm s with
  | .ok a => a.suits s
  | .error _ => false

end Compiler

inductive CacheStep where
  | get (module : Word) (s : CompileSettings)
  | contains (module : Word)
  | insert (a : Artifact)
  | load (wasm : Octets) (s : CompileSettings)
  | evict (module : Word)
  | clear
  deriving DecidableEq, Repr

namespace CacheStep

variable (compiler : Compiler)

def next : CacheStep → Cache → Cache
  | .get m s, c => (c.get? m s).2
  | .contains _, c => c
  | .insert a, c => (c.insert a).2
  | .load wasm s, c => (c.load compiler wasm s true).2
  | .evict m, c => (c.evict m).2
  | .clear, c => c.clear

def looked? : CacheStep → Option Word
  | .get m _ => some m
  | .load wasm _ => some (keccak wasm)
  | _ => none

def inserted? : CacheStep → Cache → Option Word
  | .insert a, _ => some a.moduleHash
  | .load wasm s, c =>
    if (c.get? (keccak wasm) s).1.isNone && (compiler wasm s).isOk then some (keccak wasm) else none
  | _, _ => none

/-- The key that a step uses: it inserts it, or looks it up while it is present, whether or not what
is there suits. -/
def used? (t : CacheStep) (c : Cache) : Option Word :=
  (t.inserted? compiler c).or (t.looked?.filter c.contains)

/-- The module that a step has compiled, or tries to. -/
def compiled? : CacheStep → Cache → Option Octets
  | .load wasm s, c => if (c.get? (keccak wasm) s).1.isNone then some wasm else none
  | _, _ => none

def module? : CacheStep → Option Octets
  | .load wasm _ => some wasm
  | _ => none

def removes : CacheStep → Bool
  | .evict _ | .clear => true
  | _ => false

def LoadsUnder (s : CompileSettings) : CacheStep → Prop
  | .load _ s' => s' = s
  | .get _ _ | .contains _ => True
  | _ => False

end CacheStep

namespace Cache

variable {β : Type} {compiler : Compiler} {c : Cache} {m k : Word} {s : CompileSettings}
  {wasm : Octets} {a : Artifact} {t : CacheStep} {ts : List CacheStep}

def after (compiler : Compiler) (c : Cache) (ts : List CacheStep) : Cache :=
  ts.foldl (fun c t => t.next compiler c) c

/-- What is noted of the steps of a run, latest first. -/
def noted (compiler : Compiler) (f : CacheStep → Cache → Option β) (c : Cache) :
    List CacheStep → List β
  | [] => []
  | t :: ts => noted compiler f (t.next compiler c) ts ++ (f t c).toList

def uses (compiler : Compiler) (c : Cache) (ts : List CacheStep) : List Word :=
  c.noted compiler (CacheStep.used? compiler) ts

def inserts (compiler : Compiler) (c : Cache) (ts : List CacheStep) : List Word :=
  c.noted compiler (CacheStep.inserted? compiler) ts

def compiles (compiler : Compiler) (c : Cache) (ts : List CacheStep) : List Octets :=
  c.noted compiler CacheStep.compiled? ts

theorem after_snoc (c : Cache) (ts : List CacheStep) (t : CacheStep) :
    c.after compiler (ts ++ [t]) = t.next compiler (c.after compiler ts) :=
  List.foldl_concat _ _ _ _

theorem noted_snoc (f : CacheStep → Cache → Option β) (c : Cache) (ts : List CacheStep)
    (t : CacheStep) : c.noted compiler f (ts ++ [t]) =
      (f t (c.after compiler ts)).toList ++ c.noted compiler f ts := by
  induction ts generalizing c with
  | nil => simp [noted, after]
  | cons u ts ih =>
    change noted compiler f (u.next compiler c) (ts ++ [t]) ++ _ = _
    rw [ih, List.append_assoc]
    rfl

theorem uses_snoc (c : Cache) (ts : List CacheStep) (t : CacheStep) :
    c.uses compiler (ts ++ [t]) =
      (t.used? compiler (c.after compiler ts)).toList ++ c.uses compiler ts := noted_snoc _ c ts t

theorem inserts_snoc (c : Cache) (ts : List CacheStep) (t : CacheStep) :
    c.inserts compiler (ts ++ [t]) =
      (t.inserted? compiler (c.after compiler ts)).toList ++ c.inserts compiler ts :=
  noted_snoc _ c ts t

theorem compiles_snoc (c : Cache) (ts : List CacheStep) (t : CacheStep) :
    c.compiles compiler (ts ++ [t]) =
      (t.compiled? (c.after compiler ts)).toList ++ c.compiles compiler ts := noted_snoc _ c ts t

/-! ### Steps -/

/-- A load looks up first, and compiles what it does not find. -/
theorem load_outcome (c : Cache) (compiler : Compiler) (wasm : Octets) (s : CompileSettings)
    (keep : Bool) : c.load compiler wasm s keep =
      match (c.get? (keccak wasm) s).1, compiler wasm s with
      | some a, _ => (.ok ⟨a, true⟩, (c.get? (keccak wasm) s).2)
      | none, .error e => (.error e, (c.get? (keccak wasm) s).2)
      | none, .ok a => (.ok ⟨a, false⟩, if keep then ((c.get? (keccak wasm) s).2.insert a).2
          else (c.get? (keccak wasm) s).2) := by
  unfold load
  rcases c.get? (keccak wasm) s with ⟨_ | a, c'⟩
  · cases compiler wasm s <;> rfl
  · rfl

theorem load_of_found (h : (c.get? (keccak wasm) s).1 = some a) (keep : Bool) :
    c.load compiler wasm s keep = (.ok ⟨a, true⟩, (c.get? (keccak wasm) s).2) := by
  rw [load_outcome, h]

theorem load_of_refused {e : CompileError} (h : (c.get? (keccak wasm) s).1 = none)
    (he : compiler wasm s = .error e) (keep : Bool) :
    c.load compiler wasm s keep = (.error e, (c.get? (keccak wasm) s).2) := by
  rw [load_outcome, h, he]

theorem load_of_compiled (h : (c.get? (keccak wasm) s).1 = none)
    (ha : compiler wasm s = .ok a) : c.load compiler wasm s true =
      (.ok ⟨a, false⟩, ((c.get? (keccak wasm) s).2.insert a).2) := by
  rw [load_outcome, h, ha]
  rfl

theorem load_cases (compiler : Compiler) (c : Cache) (wasm : Octets) (s : CompileSettings) :
    (CacheStep.load wasm s).next compiler c = (c.get? (keccak wasm) s).2 ∧
        (CacheStep.load wasm s).inserted? compiler c = none ∨
      ∃ a, (c.get? (keccak wasm) s).1 = none ∧ compiler wasm s = .ok a ∧
        (CacheStep.load wasm s).inserted? compiler c = some (keccak wasm) ∧
        (CacheStep.load wasm s).next compiler c = ((c.get? (keccak wasm) s).2.insert a).2 := by
  unfold CacheStep.inserted?
  dsimp only
  cases hfound : (c.get? (keccak wasm) s).1 with
  | some a => exact .inl ⟨congrArg Prod.snd (load_of_found hfound true), rfl⟩
  | none =>
    cases hcompile : compiler wasm s with
    | error e => exact .inl ⟨congrArg Prod.snd (load_of_refused hfound hcompile true), rfl⟩
    | ok a => exact .inr ⟨a, rfl, rfl, rfl, congrArg Prod.snd (load_of_compiled hfound hcompile)⟩

theorem tidy_next (hc : c.artifacts.Tidy) (t : CacheStep) : (t.next compiler c).artifacts.Tidy := by
  cases t with
  | get m s => exact hc.get? m
  | contains m => exact hc
  | insert a => exact hc.insert _ a
  | load wasm s =>
    have hget : (c.get? (keccak wasm) s).2.artifacts.Tidy := hc.get? _
    rcases load_cases compiler c wasm s with ⟨hload, -⟩ | ⟨a, -, -, -, hload⟩
    · rw [hload]
      exact hget
    · rw [hload]
      exact hget.insert _ a
  | evict m => exact hc.erase m
  | clear => exact hc.clear

theorem capacity_next (t : CacheStep) (c : Cache) :
    (t.next compiler c).capacity = c.capacity := by
  cases t with
  | get m s => exact Lru.capacity_get? _ _
  | contains m => rfl
  | insert a => exact Lru.capacity_insert _ _ _
  | load wasm s =>
    have hget : (c.get? (keccak wasm) s).2.capacity = c.capacity := Lru.capacity_get? _ _
    rcases load_cases compiler c wasm s with ⟨hload, -⟩ | ⟨a, -, -, -, hload⟩
    · rw [hload, hget]
    · rw [hload]
      exact (Lru.capacity_insert _ _ _).trans hget
  | evict m => rfl
  | clear => rfl

theorem keys_looked (hc : c.artifacts.Tidy) (m : Word) (s : CompileSettings) :
    (c.get? m s).2.artifacts.keys = match (some m).filter c.contains with
      | some k => (k :: c.artifacts.keys.filter (· ≠ k)).take c.artifacts.capacity
      | none => c.artifacts.keys := by
  by_cases hm : c.contains m = true
  · have hmem : m ∈ c.artifacts.keys := Lru.mem_keys.mp hm
    rw [Option.filter_some, if_pos hm]
    dsimp only
    rw [Lru.use_of_fits hc hmem]
    exact Lru.keys_get? hmem
  · have hmem : m ∉ c.artifacts.keys := fun h => hm (Lru.mem_keys.mpr h)
    rw [Option.filter_some, if_neg hm]
    change (c.artifacts.get? m).2.keys = _
    rw [Lru.get?_of_not_mem hmem]

/-- What a step uses comes to the front, and the last one leaves if there is no room. Nothing else
changes the order, unless it removes something. -/
theorem keys_next (hcompiler : compiler.Faithful) (hc : c.artifacts.Tidy)
    (ht : t.removes = false) : (t.next compiler c).artifacts.keys =
      match t.used? compiler c with
      | some k => (k :: c.artifacts.keys.filter (· ≠ k)).take c.artifacts.capacity
      | none => c.artifacts.keys := by
  cases t with
  | get m s => exact keys_looked hc m s
  | contains m => rfl
  | insert a => exact Lru.keys_insert hc _ a
  | load wasm s =>
    rcases load_cases compiler c wasm s with ⟨hload, hkept⟩ | ⟨a, -, ha, hinserted, hload⟩
    · unfold CacheStep.used?
      rw [hload, hkept]
      exact keys_looked hc _ s
    · -- the lookup may have brought the key to the front before it is inserted
      unfold CacheStep.used?
      rw [hload, hinserted]
      have hget : (c.artifacts.get? (keccak wasm)).2.Tidy := hc.get? _
      refine (Lru.keys_insert hget a.moduleHash a).trans ?_
      rw [hcompiler _ _ _ ha, Lru.filter_keys_get?, Lru.capacity_get?]
      rfl
  | evict m => cases ht
  | clear => cases ht

/-- Where a key leaves that nothing removed, another was used that was not there, and it was the last
of as many as there is room for. -/
theorem last_of_left (hcompiler : compiler.Faithful) (hc : c.artifacts.Tidy)
    (ht : t.removes = false) (hk : c.contains k = true)
    (hgone : (t.next compiler c).contains k = false) :
    ∃ j ks, t.used? compiler c = some j ∧ j ∉ c.artifacts.keys ∧ c.artifacts.keys = ks ++ [k] ∧
      ks.length + 1 = c.capacity := by
  have hmem : k ∈ c.artifacts.keys := Lru.mem_keys.mp hk
  have hleft : k ∉ (t.next compiler c).artifacts.keys := fun h => by
    rw [← Bool.not_eq_true] at hgone
    exact hgone (Lru.mem_keys.mpr h)
  rw [keys_next hcompiler hc ht] at hleft
  cases hused : t.used? compiler c with
  | none =>
    rw [hused] at hleft
    exact absurd hmem hleft
  | some j =>
    rw [hused] at hleft
    obtain ⟨hnew, ks, hkeys, hlength⟩ := Lru.last_of_displaced hc hmem hleft
    exact ⟨j, ks, rfl, hnew, hkeys, hlength⟩

/-! ### Runs -/

theorem tidy_after (hc : c.artifacts.Tidy) (ts : List CacheStep) :
    (c.after compiler ts).artifacts.Tidy := by
  induction ts generalizing c with
  | nil => exact hc
  | cons t ts ih => exact ih (tidy_next hc t)

theorem capacity_after (c : Cache) (ts : List CacheStep) :
    (c.after compiler ts).capacity = c.capacity := by
  induction ts generalizing c with
  | nil => rfl
  | cons t ts ih => exact (ih _).trans (capacity_next t c)

theorem used?_of_removes (ht : t.removes = true) : t.used? compiler c = none := by
  cases t <;> first | rfl | cases ht

theorem keys_removes (ht : t.removes = true) :
    (t.next compiler c).artifacts.keys.Sublist c.artifacts.keys := by
  cases t with
  | evict m =>
    change (c.artifacts.erase m).2.keys.Sublist _
    rw [Lru.keys_erase]
    exact List.filter_sublist
  | clear => exact List.nil_sublist _
  | _ => cases ht

theorem keys_sublist (hcompiler : compiler.Faithful) (n : Nat) (ts : List CacheStep) :
    ((ofCapacity n).after compiler ts).artifacts.keys.Sublist
      ((ofCapacity n).uses compiler ts).eraseDups := by
  induction ts using List.reverseRecOn with
  | nil => exact List.nil_sublist _
  | append_singleton ts t ih =>
    -- a use brings its key to the front of both, and removals only leave keys out
    have hc : ((ofCapacity n).after compiler ts).artifacts.Tidy :=
      tidy_after (Lru.tidy_ofCapacity n) ts
    rw [after_snoc, uses_snoc]
    cases hremoves : t.removes with
    | true =>
      rw [used?_of_removes hremoves]
      exact (keys_removes hremoves).trans ih
    | false =>
      rw [keys_next hcompiler hc hremoves]
      cases t.used? compiler ((ofCapacity n).after compiler ts) with
      | none => exact ih
      | some k =>
        dsimp only
        rw [Option.toList_some, List.singleton_append, eraseDups_cons_filter]
        exact (List.take_sublist _ _).trans ((ih.filter _).cons_cons k)

theorem keys_eq_take (hcompiler : compiler.Faithful) (n : Nat)
    (hts : ∀ t ∈ ts, t.removes = false) :
    ((ofCapacity n).after compiler ts).artifacts.keys =
      ((ofCapacity n).uses compiler ts).eraseDups.take (max n 1) := by
  induction ts using List.reverseRecOn with
  | nil => exact List.take_nil.symm
  | append_singleton ts t ih =>
    have hc : ((ofCapacity n).after compiler ts).artifacts.Tidy :=
      tidy_after (Lru.tidy_ofCapacity n) ts
    have hcapacity : ((ofCapacity n).after compiler ts).artifacts.capacity = max n 1 :=
      capacity_after (ofCapacity n) ts
    have hkeys := ih fun t' ht' => hts t' (List.mem_append_left _ ht')
    rw [after_snoc, uses_snoc, keys_next hcompiler hc (hts t (by simp)), hcapacity, hkeys]
    cases t.used? compiler ((ofCapacity n).after compiler ts) with
    | none => rfl
    | some k =>
      dsimp only
      rw [Option.toList_some, List.singleton_append, eraseDups_cons_filter, take_use (nodup_eraseDups _)]

theorem mem_uses_iff (hcompiler : compiler.Faithful) (n : Nat)
    (hts : ∀ t ∈ ts, t.removes = false) :
    k ∈ (ofCapacity n).uses compiler ts ↔ k ∈ (ofCapacity n).inserts compiler ts := by
  induction ts using List.reverseRecOn with
  | nil => exact Iff.rfl
  | append_singleton ts t ih =>
    have hts' : ∀ t' ∈ ts, t'.removes = false := fun t' ht' => hts t' (List.mem_append_left _ ht')
    have ih := ih hts'
    rw [uses_snoc, inserts_snoc, List.mem_append, List.mem_append, ih]
    unfold CacheStep.used?
    cases hinserted : t.inserted? compiler ((ofCapacity n).after compiler ts) with
    | some j => rfl
    | none =>
      rw [Option.none_or]
      refine ⟨fun h => ?_, fun h => .inr (h.resolve_left (by simp))⟩
      rcases h with h | h
      · -- what was looked up and present was used before
        obtain ⟨-, hpresent⟩ := Option.filter_eq_some_iff.mp (Option.mem_toList.mp h)
        have hheld := Lru.mem_keys.mp hpresent
        rw [keys_eq_take hcompiler n hts'] at hheld
        exact .inr (ih.mp (List.mem_eraseDups.mp (List.mem_of_mem_take hheld)))
      · exact .inr h

/-- A key that leaves though nothing removed it has seen as many others used since its latest use as
there is room for. -/
theorem used_since_left (hcompiler : compiler.Faithful) (n : Nat) (ht : t.removes = false)
    (hk : ((ofCapacity n).after compiler ts).contains k = true)
    (hgone : ((ofCapacity n).after compiler (ts ++ [t])).contains k = false) :
    ∃ recent before, (ofCapacity n).uses compiler (ts ++ [t]) = recent ++ k :: before ∧
      k ∉ recent ∧ max n 1 ≤ recent.toFinset.card := by
  have hc : ((ofCapacity n).after compiler ts).artifacts.Tidy :=
    tidy_after (Lru.tidy_ofCapacity n) ts
  have hcapacity : ((ofCapacity n).after compiler ts).capacity = max n 1 :=
    capacity_after (ofCapacity n) ts
  rw [after_snoc] at hgone
  obtain ⟨j, ks, hused, hnew, hkeys, hlength⟩ := last_of_left hcompiler hc ht hk hgone
  have hsublist := keys_sublist hcompiler n ts
  have hnodup := hc.nodup
  rw [hkeys] at hsublist hnew hnodup
  obtain ⟨recent, before, huses, hfirst, hks⟩ := used_since hsublist
  refine ⟨j :: recent, before, ?_, ?_, ?_⟩
  · rw [uses_snoc, hused, huses]
    rfl
  · rw [List.mem_cons, not_or]
    exact ⟨fun hkj => hnew (by simp [hkj]), hfirst⟩
  · have hjks : (j :: ks).Nodup :=
      List.nodup_cons.mpr ⟨fun h => hnew (List.mem_append_left _ h), hnodup.of_append_left⟩
    calc max n 1 = (j :: ks).length := (hlength.trans hcapacity).symm
      _ = (j :: ks).toFinset.card := (List.toFinset_card_of_nodup hjks).symm
      _ ≤ (j :: recent).toFinset.card := Finset.card_le_card fun i hi => by
          rw [List.mem_toFinset] at hi ⊢
          exact List.cons_subset_cons j hks hi

/-! ### Loading under one setting -/

/-- Compiles to an artifact that passes for that of a module. -/
def passes (compiler : Compiler) (wasm : Octets) (s : CompileSettings) (x : Octets) : Bool :=
  keccak x = keccak wasm && compiler.serves x s

/-- A module is compiled once it is asked for, and kept from then on, if all the modules that are asked
for fit in. -/
structure Settled (compiler : Compiler) (wasm : Octets) (s : CompileSettings) (c : Cache)
    (asked run : List Octets) : Prop where
  known : ∀ k ∈ c.artifacts.keys, k ∈ asked.map keccak
  held : c.Serves wasm s ↔ asked.any (passes compiler wasm s) = true
  count : run.countP (passes compiler wasm s) = (asked.any (passes compiler wasm s)).toNat

theorem kept_get? (c : Cache) (m h : Word) (s : CompileSettings) :
    (c.get? m s).2.kept? h = c.kept? h := Lru.fst_get?_get? _ _ _

theorem serves_get? {m : Word} {s' : CompileSettings} :
    (c.get? m s').2.Serves wasm s ↔ c.Serves wasm s := by
  unfold Serves
  rw [kept_get?]

theorem get?_eq_none_iff : (c.get? (keccak wasm) s).1 = none ↔ ¬ c.Serves wasm s := by
  rw [get?_fst, Option.filter_eq_none_iff, Serves, not_exists]
  exact forall_congr' fun a => not_and.symm

theorem serves_of_found (h : (c.get? (keccak wasm) s).1 = some a) : c.Serves wasm s := by
  rw [get?_fst, Option.filter_eq_some_iff] at h
  exact ⟨a, h⟩

theorem any_concat (p : Octets → Bool) (xs : List Octets) (x : Octets) :
    (xs ++ [x]).any p = (xs.any p || p x) := by simp

variable {asked run : List Octets} {x : Octets}

theorem Settled.get? (h : Settled compiler wasm s c asked run) (hc : c.artifacts.Tidy) (m : Word)
    (s' : CompileSettings) : Settled compiler wasm s (c.get? m s').2 asked run where
  known k hk := h.known k ((Lru.mem_keys_get? hc).mp hk)
  held := serves_get?.trans h.held
  count := h.count

theorem Settled.ask (h : Settled compiler wasm s c asked run)
    (hx : passes compiler wasm s x = true → asked.any (passes compiler wasm s) = true) :
    Settled compiler wasm s c (asked ++ [x]) run := by
  have hany : (asked ++ [x]).any (passes compiler wasm s) = asked.any (passes compiler wasm s) := by
    rw [any_concat]
    cases hp : passes compiler wasm s x with
    | false => exact Bool.or_false _
    | true => rw [hx hp]; rfl
  refine ⟨fun k hk => ?_, ?_, ?_⟩
  · rw [List.map_append]
    exact List.mem_append_left _ (h.known k hk)
  · rw [hany]
    exact h.held
  · rw [hany]
    exact h.count

theorem Settled.compile (h : Settled compiler wasm s c asked run)
    (hx : passes compiler wasm s x = false) : Settled compiler wasm s c asked (x :: run) where
  known := h.known
  held := h.held
  count := by rw [List.countP_cons_of_neg (by simp [hx]), h.count]

theorem fits_of_known (hc : c.artifacts.Tidy) (hknown : ∀ k ∈ c.artifacts.keys, k ∈ asked.map keccak)
    (hroom : ((asked ++ [x]).map keccak).toFinset.card ≤ c.capacity) :
    (keccak x :: c.artifacts.keys.filter (· ≠ keccak x)).length ≤ c.artifacts.capacity := by
  rw [← List.toFinset_card_of_nodup (Lru.nodup_use hc _)]
  refine (Finset.card_le_card fun k hk => ?_).trans hroom
  rw [List.mem_toFinset] at hk ⊢
  rw [List.map_append, List.mem_append]
  rcases List.mem_cons.mp hk with rfl | hk
  · exact .inr (List.mem_singleton_self _)
  · exact .inl (hknown k (List.mem_filter.mp hk).1)

theorem known_insert (hc : c.artifacts.Tidy) (hknown : ∀ k ∈ c.artifacts.keys, k ∈ asked.map keccak)
    (hhash : a.moduleHash = keccak x) :
    ∀ k ∈ (c.insert a).2.artifacts.keys, k ∈ (asked ++ [x]).map keccak := by
  intro k hk
  have hkeys : (c.insert a).2.artifacts.keys =
      (keccak x :: c.artifacts.keys.filter (· ≠ keccak x)).take c.artifacts.capacity := by
    rw [← hhash]
    exact Lru.keys_insert hc _ a
  rw [hkeys] at hk
  rw [List.map_append]
  rcases List.mem_cons.mp (List.mem_of_mem_take hk) with rfl | hk
  · exact List.mem_append_right _ (List.mem_singleton_self _)
  · exact List.mem_append_left _ (hknown k (List.mem_filter.mp hk).1)

theorem Settled.insert (h : Settled compiler wasm s c asked run) (hc : c.artifacts.Tidy)
    (ha : compiler x s = .ok a) (hhash : a.moduleHash = keccak x) (hmissed : ¬ c.Serves x s)
    (hroom : ((asked ++ [x]).map keccak).toFinset.card ≤ c.capacity) :
    Settled compiler wasm s (c.insert a).2 (asked ++ [x]) (x :: run) := by
  have hknown := known_insert hc h.known hhash
  have hserves : compiler.serves x s = a.suits s := by rw [Compiler.serves, ha]
  by_cases hsame : keccak x = keccak wasm
  · have hpasses : passes compiler wasm s x = a.suits s := by simp [passes, hserves, hsame]
    have hnone : asked.any (passes compiler wasm s) = false := by
      rw [← Bool.not_eq_true, ← h.held, Serves, ← hsame]
      exact hmissed
    have hkept : (c.insert a).2.kept? (keccak wasm) = some a := by
      rw [← hsame, ← hhash]
      exact Lru.fst_get?_insert_self hc _ a
    refine ⟨hknown, ?_, ?_⟩
    · rw [Serves, hkept, any_concat, hnone, hpasses]
      simp
    · rw [List.countP_cons, h.count, any_concat, hnone, hpasses]
      cases a.suits s <;> rfl
  · have hpasses : passes compiler wasm s x = false := by simp [passes, hsame]
    have hkept : (c.insert a).2.kept? (keccak wasm) = c.kept? (keccak wasm) := by
      have hother : keccak wasm ≠ a.moduleHash := by
        rw [hhash]
        exact Ne.symm hsame
      have hfits := fits_of_known hc h.known hroom
      rw [← hhash] at hfits
      exact Lru.fst_get?_insert_other hother hfits a
    refine ⟨hknown, ?_, ?_⟩
    · rw [Serves, hkept, any_concat, hpasses, Bool.or_false]
      exact h.held
    · rw [List.countP_cons_of_neg (by simp [hpasses]), any_concat, hpasses, Bool.or_false]
      exact h.count

theorem settled_next (hcompiler : compiler.Faithful) (hc : c.artifacts.Tidy)
    (ht : t.LoadsUnder s)
    (hroom : ((asked ++ t.module?.toList).map keccak).toFinset.card ≤ c.capacity)
    (h : Settled compiler wasm s c asked run) :
    Settled compiler wasm s (t.next compiler c) (asked ++ t.module?.toList)
      ((t.compiled? c).toList ++ run) := by
  cases t with
  | get m s' =>
    change Settled compiler wasm s _ (asked ++ []) _
    rw [List.append_nil]
    exact h.get? hc m s'
  | contains m =>
    change Settled compiler wasm s _ (asked ++ []) _
    rw [List.append_nil]
    exact h
  | load x s' =>
    obtain rfl : s' = s := ht
    unfold CacheStep.next CacheStep.compiled?
    dsimp only
    have hget := h.get? hc (keccak x) s'
    cases hfound : (c.get? (keccak x) s').1 with
    | some a =>
      rw [load_of_found hfound]
      refine hget.ask fun hp => h.held.mp ?_
      have hsame : keccak x = keccak wasm := of_decide_eq_true (Bool.and_elim_left hp)
      rw [Serves, ← hsame]
      exact serves_of_found hfound
    | none =>
      have hmissed := get?_eq_none_iff.mp hfound
      cases hcompile : compiler x s' with
      | error e =>
        have hp : passes compiler wasm s' x = false := by simp [passes, Compiler.serves, hcompile]
        rw [load_of_refused hfound hcompile]
        exact (hget.ask fun hx => absurd hx (by simp [hp])).compile hp
      | ok a =>
        rw [load_of_compiled hfound hcompile]
        refine hget.insert (hc.get? _) hcompile (hcompiler _ _ _ hcompile) ?_ ?_
        · rwa [serves_get?]
        · exact hroom.trans_eq (Lru.capacity_get? _ _).symm
  | insert a => cases ht
  | evict m => cases ht
  | clear => cases ht

theorem asked_snoc (ts : List CacheStep) (t : CacheStep) :
    (ts ++ [t]).filterMap CacheStep.module? =
      ts.filterMap CacheStep.module? ++ t.module?.toList := by
  rw [List.filterMap_append]
  congr 1

/-- In a run that loads under one setting, and no more modules than fit in, all are settled. -/
theorem settled_after (hcompiler : compiler.Faithful) (n : Nat) (hts : ∀ t ∈ ts, t.LoadsUnder s)
    (hroom : ((ts.filterMap CacheStep.module?).map keccak).toFinset.card ≤ max n 1) :
    Settled compiler wasm s ((ofCapacity n).after compiler ts) (ts.filterMap CacheStep.module?)
      ((ofCapacity n).compiles compiler ts) := by
  induction ts using List.reverseRecOn with
  | nil => exact ⟨fun k hk => (nomatch hk), ⟨fun ⟨a, ha, _⟩ => (nomatch ha), nofun⟩, rfl⟩
  | append_singleton ts t ih =>
    rw [asked_snoc] at hroom ⊢
    rw [after_snoc, compiles_snoc]
    have hfewer : ((ts.filterMap CacheStep.module?).map keccak).toFinset ⊆
        ((ts.filterMap CacheStep.module? ++ t.module?.toList).map keccak).toFinset := by
      rw [List.map_append, List.toFinset_append]
      exact Finset.subset_union_left
    refine settled_next hcompiler (tidy_after (Lru.tidy_ofCapacity n) ts) (hts t (by simp)) ?_
      (ih (fun t' ht' => hts t' (List.mem_append_left _ ht'))
        ((Finset.card_le_card hfewer).trans hroom))
    rw [capacity_after]
    exact hroom

theorem compiles_subset (c : Cache) (ts : List CacheStep) (hx : x ∈ c.compiles compiler ts) :
    x ∈ ts.filterMap CacheStep.module? := by
  induction ts using List.reverseRecOn with
  | nil => exact hx
  | append_singleton ts t ih =>
    rw [compiles_snoc, List.mem_append] at hx
    rw [asked_snoc, List.mem_append]
    rcases hx with hx | hx
    · refine .inr ?_
      cases t with
      | load y s' =>
        unfold CacheStep.compiled? at hx
        dsimp only at hx
        split_ifs at hx
        · exact hx
        · cases hx
      | _ => cases hx
    · exact .inl (ih hx)

/-- A module that compiles is compiled once, in a run that loads under one setting and no more modules
than fit in. -/
theorem compiled_once (hcompiler : compiler.Faithful) (n : Nat) (hts : ∀ t ∈ ts, t.LoadsUnder s)
    (hroom : ((ts.filterMap CacheStep.module?).map keccak).toFinset.card ≤ max n 1)
    (hasked : wasm ∈ ts.filterMap CacheStep.module?) (hserves : compiler.serves wasm s = true) :
    ((ofCapacity n).compiles compiler ts).countP (passes compiler wasm s) = 1 ∧
      ((∀ x ∈ ts.filterMap CacheStep.module?, keccak x = keccak wasm → x = wasm) →
        ((ofCapacity n).compiles compiler ts).count wasm = 1) := by
  have hpasses : passes compiler wasm s wasm = true := by simp [passes, hserves]
  have hany : (ts.filterMap CacheStep.module?).any (passes compiler wasm s) = true :=
    List.any_eq_true.mpr ⟨wasm, hasked, hpasses⟩
  have hsettled : Settled compiler wasm s _ _ _ := settled_after hcompiler n hts hroom
  have hcount := hsettled.count
  rw [hany] at hcount
  refine ⟨hcount, fun halone => (List.countP_congr fun x hx => ?_).trans hcount⟩
  have hx := compiles_subset _ _ hx
  rw [beq_iff_eq]
  constructor
  · intro hsame
    rw [hsame]
    exact hpasses
  · intro hp
    exact halone x hx (of_decide_eq_true (Bool.and_elim_left hp))

theorem compiled?_eq_none_iff (keep : Bool) : (CacheStep.load wasm s).compiled? c = none ↔
    ∃ a, (c.load compiler wasm s keep).1 = .ok ⟨a, true⟩ := by
  unfold CacheStep.compiled?
  dsimp only
  rw [load_outcome]
  cases (c.get? (keccak wasm) s).1 with
  | some a => exact iff_of_true rfl ⟨a, rfl⟩
  | none =>
    refine iff_of_false nofun fun ⟨a, h⟩ => ?_
    cases hcompile : compiler wasm s with
    | error e =>
      rw [hcompile] at h
      cases h
    | ok b =>
      rw [hcompile] at h
      cases h

theorem get?_again (c : Cache) (m : Word) (s : CompileSettings) :
    (c.get? m s).2.get? m s = c.get? m s := by
  change (((c.artifacts.get? m).2.get? m).1.filter (·.suits s),
    { c with artifacts := ((c.artifacts.get? m).2.get? m).2 }) = _
  rw [Lru.get?_get?]
  rfl

theorem perm_load_of_error {e : CompileError} {keep : Bool} (hc : c.artifacts.Tidy)
    (he : (c.load compiler wasm s keep).1 = .error e) :
    (c.load compiler wasm s keep).2.artifacts.entries.Perm c.artifacts.entries := by
  have hperm : (c.get? (keccak wasm) s).2.artifacts.entries.Perm c.artifacts.entries :=
    Lru.perm_get? hc _
  rw [load_outcome] at he ⊢
  cases hfound : (c.get? (keccak wasm) s).1 with
  | some a =>
    rw [hfound] at he
    cases he
  | none =>
    cases hcompile : compiler wasm s with
    | error e' => exact hperm
    | ok a =>
      rw [hfound, hcompile] at he
      cases he

/-! ### The cache as a whole -/

/-- A cache holds the modules used last, after any run. There are never more than it was made for, or
than one if it was made for none. A key that nothing removes leaves only when as many others as fit in
were used since its latest use, and insertion gives the key that leaves for it, which is never its own.
Unless something was removed, the keys held are those used last, all of them inserted once. Under one
setting, with no more modules than fit in, a module that compiles to what suits is compiled once, or
another of its hash is instead; a load compiles unless it is a hit. Looking something up twice is looking
it up once, and a module that is refused changes nothing but the order. -/
theorem recency (hcompiler : compiler.Faithful) (n : Nat) (ts : List CacheStep) :
    let c := (ofCapacity n).after compiler ts
    c.size ≤ max n 1 ∧
    (∀ t k, t.removes = false → c.contains k = true → (t.next compiler c).contains k = false →
      ∃ recent before, (ofCapacity n).uses compiler (ts ++ [t]) = recent ++ k :: before ∧
        k ∉ recent ∧ max n 1 ≤ recent.toFinset.card) ∧
    (∀ a k, ((c.insert a).1 = some k ↔
        c.contains k = true ∧ (c.insert a).2.contains k = false) ∧
      ((c.insert a).1 = some k → k ≠ a.moduleHash)) ∧
    ((∀ t ∈ ts, t.removes = false) →
      c.artifacts.keys = ((ofCapacity n).uses compiler ts).eraseDups.take (max n 1) ∧
      ∀ k, k ∈ (ofCapacity n).uses compiler ts ↔ k ∈ (ofCapacity n).inserts compiler ts) ∧
    (∀ s wasm, (∀ t ∈ ts, t.LoadsUnder s) →
      ((ts.filterMap CacheStep.module?).map keccak).toFinset.card ≤ max n 1 →
      wasm ∈ ts.filterMap CacheStep.module? → compiler.serves wasm s = true →
        ((ofCapacity n).compiles compiler ts).countP (passes compiler wasm s) = 1 ∧
        ((∀ x ∈ ts.filterMap CacheStep.module?, keccak x = keccak wasm → x = wasm) →
          ((ofCapacity n).compiles compiler ts).count wasm = 1)) ∧
    (∀ wasm s keep, (CacheStep.load wasm s).compiled? c = none ↔
      ∃ a, (c.load compiler wasm s keep).1 = .ok ⟨a, true⟩) ∧
    (∀ m s, (c.get? m s).2.get? m s = c.get? m s) ∧
    (∀ wasm s keep e, (c.load compiler wasm s keep).1 = .error e →
      (c.load compiler wasm s keep).2.artifacts.entries.Perm c.artifacts.entries) := by
  intro c
  have hc : c.artifacts.Tidy := tidy_after (Lru.tidy_ofCapacity n) ts
  have hcapacity : c.capacity = max n 1 := capacity_after (ofCapacity n) ts
  refine ⟨?_, fun t k ht hk hgone => ?_, fun a k => ⟨Lru.fst_insert_iff hc, fun hout => ?_⟩,
    fun hts => ⟨keys_eq_take hcompiler n hts, fun k => mem_uses_iff hcompiler n hts⟩,
    fun s wasm => compiled_once hcompiler n, fun wasm s keep => compiled?_eq_none_iff keep,
    fun m s => get?_again c m s, fun wasm s keep e he => ?_⟩
  · have hfits := hc.fits
    rw [Lru.keys, List.length_map] at hfits
    exact hfits.trans_eq hcapacity
  · rw [← after_snoc] at hgone
    exact used_since_left hcompiler n ht hk hgone
  · -- its own key is there after the insertion
    rintro rfl
    have hgone := ((Lru.fst_insert_iff hc).mp hout).2
    have hkept := Lru.fst_get?_insert_self hc a.moduleHash a
    rw [Lru.contains_iff.mpr ⟨a, hkept⟩] at hgone
    cases hgone
  · exact perm_load_of_error hc he

theorem faithful_compile : Compiler.Faithful compile := fun _ _ _ h => (compile_ok h).moduleHash

theorem serves_compile (wasm : Octets) (s : CompileSettings) :
    Compiler.serves compile wasm s = (compile wasm s).isOk := by
  unfold Compiler.serves
  cases hcompile : compile wasm s with
  | error e => rfl
  | ok a =>
    have hof := compile_ok hcompile
    simp [Artifact.suits, hof.version, hof.debug, Except.isOk, Except.toBool]

theorem used?_load {a : Artifact} (ha : compiler wasm s = .ok a) (c : Cache) :
    (CacheStep.load wasm s).used? compiler c = some (keccak wasm) := by
  unfold CacheStep.used? CacheStep.inserted? CacheStep.looked?
  dsimp only
  rw [ha]
  cases hfound : (c.get? (keccak wasm) s).1 with
  | none => rfl
  | some b =>
    have hheld : c.contains (keccak wasm) = true :=
      Lru.contains_iff.mpr ⟨b, (Option.filter_eq_some_iff.mp hfound).1⟩
    simp [Option.filter, hheld]

/-- The small module, but it returns one. -/
def otherModule : Octets := smallModule.take 61 ++ [1, 0x0b]

theorem compile_otherModule : ∃ a, compile otherModule ⟨2, false, 128, 131072⟩ = .ok a := by
  have h : (compile otherModule ⟨2, false, 128, 131072⟩).isOk = true := by decide +kernel
  cases ha : compile otherModule ⟨2, false, 128, 131072⟩ with
  | error e =>
    rw [ha] at h
    cases h
  | ok a => exact ⟨a, rfl⟩

/-- One of two modules has to go where one fits in; where both do, each is compiled once, and the one
used last comes first. -/
theorem recency_displaced : Compiler.Faithful compile ∧
    let s : CompileSettings := ⟨2, false, 128, 131072⟩
    let small : CacheStep := .load smallModule s
    let other : CacheStep := .load otherModule s
    ((ofCapacity 0).after compile [small, other]).artifacts.keys = [keccak otherModule] ∧
      ((ofCapacity 2).after compile [small, other, small]).artifacts.keys =
        [keccak smallModule, keccak otherModule] ∧
      ((ofCapacity 2).compiles compile [small, other, small]).count smallModule = 1 ∧
      ((ofCapacity 2).compiles compile [small, other, small]).count otherModule = 1 := by
  refine ⟨faithful_compile, ?_⟩
  intro s small other
  have hne : keccak smallModule ≠ keccak otherModule := by
    rw [keccak, keccak, Keccak.digest_eq, Keccak.digest_eq]
    decide +kernel
  obtain ⟨a, ha⟩ := compile_smallModule
  obtain ⟨b, hb⟩ := compile_otherModule
  have hsmall : ∀ c, small.used? compile c = some (keccak smallModule) := used?_load ha
  have hother : ∀ c, other.used? compile c = some (keccak otherModule) := used?_load hb
  obtain ⟨-, -, -, hone, -⟩ := recency faithful_compile 0 [small, other]
  obtain ⟨-, -, -, htwo, honce, -⟩ := recency faithful_compile 2 [small, other, small]
  have huses₁ : (ofCapacity 0).uses compile [small, other] =
      [keccak otherModule, keccak smallModule] := by
    simp only [uses, noted, hsmall, hother]
    rfl
  have huses₂ : (ofCapacity 2).uses compile [small, other, small] =
      [keccak smallModule, keccak otherModule, keccak smallModule] := by
    simp only [uses, noted, hsmall, hother]
    rfl
  have hkept₁ : ∀ t ∈ [small, other], t.removes = false :=
    List.forall_mem_cons.mpr ⟨rfl, List.forall_mem_singleton.mpr rfl⟩
  have hkept₂ : ∀ t ∈ [small, other, small], t.removes = false :=
    List.forall_mem_cons.mpr ⟨rfl, List.forall_mem_cons.mpr ⟨rfl, List.forall_mem_singleton.mpr rfl⟩⟩
  have hloads : ∀ t ∈ [small, other, small], t.LoadsUnder s :=
    List.forall_mem_cons.mpr ⟨rfl, List.forall_mem_cons.mpr ⟨rfl, List.forall_mem_singleton.mpr rfl⟩⟩
  obtain ⟨hkeys₁, -⟩ := hone hkept₁
  obtain ⟨hkeys₂, -⟩ := htwo hkept₂
  rw [huses₁] at hkeys₁
  rw [huses₂] at hkeys₂
  have hroom : [keccak smallModule, keccak otherModule, keccak smallModule].toFinset.card ≤ 2 := by
    rw [List.toFinset_cons, Finset.insert_eq_of_mem (by simp)]
    exact List.toFinset_card_le _
  have hasked : ∀ x ∈ [smallModule, otherModule, smallModule], x = smallModule ∨ x = otherModule := by
    intro x hx
    rcases List.mem_cons.mp hx with h | hx
    · exact .inl h
    · exact (List.mem_pair.mp hx).symm
  obtain ⟨-, hsmallOnce⟩ := honce s smallModule hloads hroom (.head _)
    (by rw [serves_compile, ha]; rfl)
  obtain ⟨-, hotherOnce⟩ := honce s otherModule hloads hroom (.tail _ (.head _))
    (by rw [serves_compile, hb]; rfl)
  refine ⟨hkeys₁.trans ?_, hkeys₂.trans ?_, hsmallOnce fun x hx hhash => ?_,
    hotherOnce fun x hx hhash => ?_⟩
  · simp [List.eraseDups_cons]
  · simp [List.eraseDups_cons, hne.symm]
  · rcases hasked x hx with rfl | rfl
    · rfl
    · exact absurd hhash hne.symm
  · rcases hasked x hx with rfl | rfl
    · exact absurd hhash hne
    · rfl

end Cache
end Inkwell
