import Inkwell.Compile
set_option autoImplicit false

/-! What a compiled module tells about the settings it was compiled under, and what it does not
depend on. -/

namespace Inkwell

theorem Except.bind_eq_ok {ε α β : Type} {x : Except ε α} {f : α → Except ε β} {b : β} :
    (x >>= f) = .ok b ↔ ∃ a, x = .ok a ∧ f a = .ok b := by
  cases x with
  | error e =>
    refine ⟨fun h => ?_, fun h => ?_⟩
    · cases h
    · obtain ⟨a, h, -⟩ := h
      cases h
  | ok a =>
    refine ⟨fun h => ⟨a, rfl, h⟩, fun h => ?_⟩
    obtain ⟨a', h, h'⟩ := h
    cases h
    exact h'

namespace Outline

open Wasm

theorem addModule_ok {debug : Bool} {o o' : Outline} {m : Core}
    (h : addModule debug o m = .ok o') : checkImports debug m.module.imports = .ok () ∧
      ∀ d, checkImports d m.module.imports = .ok () → addModule d o m = .ok o' := by
  unfold addModule at h ⊢
  dsimp only at h ⊢
  cases hts : m.module.types.mapM plainType? with
  | none =>
    rw [hts] at h
    cases h
  | some ts =>
    simp only [hts] at h ⊢
    cases hu : checkImports debug m.module.imports with
    | error e =>
      rw [hu] at h
      cases h
    | ok u =>
      rw [hu] at h
      refine ⟨rfl, fun d hd => ?_⟩
      rw [hd]
      exact h

/-- Imports are refused or not; beyond that an outline does not depend on the setting. -/
theorem addModule_unique {d d' : Bool} {o p p' : Outline} {m : Core}
    (h : addModule d o m = .ok p) (h' : addModule d' o m = .ok p') : p = p' := by
  have heq := (addModule_ok h).2 d' (addModule_ok h').1
  rw [h'] at heq
  cases heq
  rfl

theorem foldlM_addModule_unique {d d' : Bool} {o p p' : Outline} (ms : List Core)
    (h : ms.foldlM (addModule d) o = .ok p) (h' : ms.foldlM (addModule d') o = .ok p') : p = p' := by
  induction ms generalizing o with
  | nil =>
    cases h
    cases h'
    rfl
  | cons m ms ih =>
    rw [List.foldlM_cons] at h h'
    obtain ⟨q, hq, h⟩ := Except.bind_eq_ok.mp h
    obtain ⟨q', hq', h'⟩ := Except.bind_eq_ok.mp h'
    cases addModule_unique hq hq'
    exact ih h h'

theorem ofBinary_unique {d d' : Bool} {b : Binary} {o o' : Outline} (h : ofBinary d b = .ok o)
    (h' : ofBinary d' b = .ok o') : o = o' := foldlM_addModule_unique b.modules h h'

/-- What passes under one limit fails under another because of its memory only. -/
theorem check_limit {o : Outline} {limit limit' : UInt16} {e : CompileError}
    (h : o.check limit = .error e) (h' : o.check limit' = .ok ()) :
    limit.toNat < o.footprint.getD 0 ∧ o.footprint.getD 0 ≤ limit'.toNat ∧
      e = .memoryTooLarge (o.footprint.getD 0) limit := by
  unfold check at h h'
  by_cases hm : 1 < o.memories
  · simp only [if_pos hm] at h'
    cases h'
  simp only [if_neg hm] at h h'
  by_cases hx : (!o.exportsMemory) = true
  · simp only [if_pos hx] at h'
    cases h'
  simp only [if_neg hx] at h h'
  have hle : o.footprint.getD 0 ≤ limit'.toNat := by
    refine Nat.not_lt.mp fun hlt => ?_
    simp only [if_pos hlt] at h'
    cases h'
  simp only [if_neg (Nat.not_lt.mpr hle)] at h'
  by_cases hlt : limit.toNat < o.footprint.getD 0
  · simp only [if_pos hlt] at h
    cases h
    exact ⟨hlt, hle, rfl⟩
  · simp only [if_neg hlt] at h
    rw [h'] at h
    cases h

end Outline

/-- What a module's sections tell, unless they are malformed or import something forbidden. -/
def outline (debug : Bool) (wasm : Octets) : Except CompileError Outline :=
  match Wasm.Binary.read? wasm with
  | none => .error (.malformed .invalid)
  | some b => Outline.ofBinary debug b

theorem outline_unique {d d' : Bool} {wasm : Octets} {o o' : Outline} (h : outline d wasm = .ok o)
    (h' : outline d' wasm = .ok o') : o = o' := by
  unfold outline at h h'
  cases hb : Wasm.Binary.read? wasm with
  | none =>
    rw [hb] at h
    cases h
  | some b =>
    rw [hb] at h h'
    exact Outline.ofBinary_unique h h'

theorem compile_eq (wasm : Octets) (s : CompileSettings) : compile wasm s =
    if s.maxSize.toNat < wasm.length then .error (.tooLarge wasm.length s.maxSize.toNat)
    else outline s.debug wasm >>= fun o => o.check s.pageLimit >>= fun _ =>
      (o.estimate wasm.length).map fun e => ⟨keccak wasm, s.version, s.debug, wasm, e⟩ := by
  unfold compile outline
  by_cases hsize : s.maxSize.toNat < wasm.length
  · rw [if_pos hsize]
    simp only [if_pos hsize]
    rfl
  · rw [if_neg hsize]
    simp only [if_neg hsize]
    cases Wasm.Binary.read? wasm with
    | none => rfl
    | some b => rfl

/-- An artifact names the module and the settings that it was made from. -/
structure Artifact.Of (wasm : Octets) (s : CompileSettings) (a : Artifact) : Prop where
  moduleHash : a.moduleHash = keccak wasm
  module : a.module = wasm
  version : a.version = s.version
  debug : a.debug = s.debug
  size : wasm.length ≤ s.maxSize.toNat
  estimate : ∃ o, outline s.debug wasm = .ok o ∧ o.check s.pageLimit = .ok () ∧
    o.estimate wasm.length = .ok a.estimate

theorem compile_ok {wasm : Octets} {s : CompileSettings} {a : Artifact}
    (h : compile wasm s = .ok a) : a.Of wasm s := by
  rw [compile_eq] at h
  by_cases hsize : s.maxSize.toNat < wasm.length
  · rw [if_pos hsize] at h
    cases h
  rw [if_neg hsize] at h
  obtain ⟨o, ho, h⟩ := Except.bind_eq_ok.mp h
  obtain ⟨u, hcheck, h⟩ := Except.bind_eq_ok.mp h
  cases hestimate : o.estimate wasm.length with
  | error e =>
    rw [hestimate] at h
    cases h
  | ok estimate =>
    rw [hestimate] at h
    cases h
    exact ⟨rfl, rfl, rfl, rfl, Nat.not_lt.mp hsize, o, ho, hcheck, hestimate⟩

theorem estimate_unique {wasm : Octets} {s s' : CompileSettings} {a a' : Artifact}
    (h : compile wasm s = .ok a) (h' : compile wasm s' = .ok a') : a.estimate = a'.estimate := by
  obtain ⟨o, ho, -, hestimate⟩ := (compile_ok h).estimate
  obtain ⟨o', ho', -, hestimate'⟩ := (compile_ok h').estimate
  cases outline_unique ho ho'
  rw [hestimate] at hestimate'
  exact Except.ok.inj hestimate'

theorem bounded_ok {n bound m : Nat} {cost : String} (h : Outline.bounded n bound cost = .ok m) :
    m = n ∧ n < bound := by
  unfold Outline.bounded at h
  split at h
  · next hlt => exact ⟨(Except.ok.inj h).symm, hlt⟩
  · cases h

theorem asmSize_bounds {o : Outline} {size : Nat} (h : o.initCost size < 65536) :
    512000 ≤ o.asmSize size ∧ o.asmSize size < 16384 * 1023 := by
  unfold Outline.initCost at h
  unfold Outline.asmSize
  omega

/-- The machine code of a module takes at least 500 KiB, and as a module that takes too much to start
is refused, it takes less than 16 MiB. -/
theorem asmKb_of_compile {wasm : Octets} {s : CompileSettings} {a : Artifact}
    (h : compile wasm s = .ok a) : 500 ≤ a.estimate.asmKb ∧ a.estimate.asmKb < 16384 := by
  obtain ⟨o, -, -, hestimate⟩ := (compile_ok h).estimate
  obtain ⟨init, hinit, hestimate⟩ := Except.bind_eq_ok.mp hestimate
  obtain ⟨cached, -, hestimate⟩ := Except.bind_eq_ok.mp hestimate
  obtain ⟨footprint, -, hestimate⟩ := Except.bind_eq_ok.mp hestimate
  obtain ⟨asm, hasm, hestimate⟩ := Except.bind_eq_ok.mp hestimate
  obtain ⟨-, hinit⟩ := bounded_ok hinit
  obtain ⟨rfl, hfits⟩ := bounded_ok hasm
  have hbounds := asmSize_bounds hinit
  have hsize : (UInt32.ofNat (o.asmSize wasm.length)).toNat = o.asmSize wasm.length := by
    rw [UInt32.toNat_ofNat', Nat.mod_eq_of_lt hfits]
  rw [← Except.ok.inj hestimate]
  unfold Estimate.asmKb
  dsimp only
  rw [hsize]
  omega

/-- What the limits of some settings refuse and those of others let pass. -/
def CompileError.IsLimit (wasm : Octets) (s s' : CompileSettings) : CompileError → Prop
  | .tooLarge size limit => size = wasm.length ∧ limit = s.maxSize.toNat ∧
      s.maxSize.toNat < wasm.length ∧ wasm.length ≤ s'.maxSize.toNat
  | .memoryTooLarge pages limit => limit = s.pageLimit ∧
      s.pageLimit.toNat < pages ∧ pages ≤ s'.pageLimit.toNat
  | _ => False

/-- A module that is accepted in the same mode is only ever refused for a tighter limit. -/
theorem compile_error_isLimit {wasm : Octets} {s s' : CompileSettings} {a : Artifact}
    {e : CompileError} (hdebug : s'.debug = s.debug) (h : compile wasm s = .error e)
    (h' : compile wasm s' = .ok a) : e.IsLimit wasm s s' := by
  have hof := compile_ok h'
  obtain ⟨o, ho, hcheck, hestimate⟩ := hof.estimate
  rw [compile_eq] at h
  by_cases hsize : s.maxSize.toNat < wasm.length
  · rw [if_pos hsize] at h
    cases h
    exact ⟨rfl, rfl, hsize, hof.size⟩
  rw [if_neg hsize, ← hdebug, ho] at h
  change (o.check s.pageLimit >>= fun _ => (o.estimate wasm.length).map _) = _ at h
  cases hc : o.check s.pageLimit with
  | ok u =>
    rw [hc, hestimate] at h
    cases h
  | error e' =>
    rw [hc] at h
    cases h
    obtain ⟨hlt, hle, rfl⟩ := Outline.check_limit hc hcheck
    exact ⟨rfl, hlt, hle⟩

/-- A module with a page of memory and one function, that gives back zero. -/
def smallModule : Octets :=
  [0x00, 0x61, 0x73, 0x6d, 1, 0, 0, 0, 1, 6, 1, 0x60, 1, 0x7f, 1, 0x7f, 3, 2, 1, 0, 5, 3, 1, 0, 1,
   7, 28, 2, 6, 0x6d, 0x65, 0x6d, 0x6f, 0x72, 0x79, 2, 0,
   15, 0x75, 0x73, 0x65, 0x72, 0x5f, 0x65, 0x6e, 0x74, 0x72, 0x79, 0x70, 0x6f, 0x69, 0x6e, 0x74, 0, 0,
   10, 6, 1, 4, 0, 0x41, 0, 0x0b]

theorem compile_smallModule : ∃ a, compile smallModule ⟨2, false, 128, 131072⟩ = .ok a := by
  have h : (compile smallModule ⟨2, false, 128, 131072⟩).isOk = true := by decide +kernel
  cases ha : compile smallModule ⟨2, false, 128, 131072⟩ with
  | error e =>
    rw [ha] at h
    cases h
  | ok a => exact ⟨a, rfl⟩

theorem estimate_smallModule {a : Artifact} (h : compile smallModule ⟨2, false, 128, 131072⟩ = .ok a) :
    a.estimate = { initCost := 17, footprint := 1, asmSize := 513401 } := by
  have hestimate : (compile smallModule ⟨2, false, 128, 131072⟩).toOption.map Artifact.estimate =
      some { initCost := 17, footprint := 1, asmSize := 513401 } := by decide +kernel
  rw [h] at hestimate
  exact Option.some.inj hestimate

end Inkwell
