import Inkwell.Normalize
import Inkwell.Proofs.Canonical
import Inkwell.Proofs.Compile
import Inkwell.Proofs.ModuleForms
set_option autoImplicit false

/-! Normalizing settles: what comes out is bare, and normalizing what was made of a module again changes
nothing. Of a component something may be made that is no valid module. -/

namespace Inkwell

open Wasm

variable {wasm n : Octets} {m : Module} {c : Component}

namespace Wasm

/-- A module of which every section is one of those with a place, so that none is custom. -/
def Bare (bs : Octets) : Prop :=
  Module.header.isPrefixOf bs = true ∧ ∃ raw,
    RawSection.codec.many.readAll (bs.drop Module.header.length) = some raw ∧
      ∀ s ∈ raw, (Module.rank? s.id).isSome = true

theorem Module.prefix_write (m : Module) : header.isPrefixOf m.write = true := by
  rw [write_eq, List.isPrefixOf_iff_prefix]
  exact List.prefix_append _ _

theorem Module.Kept.bare (h : m.Kept) : Bare m.write := by
  refine ⟨m.prefix_write, _, readAll_sections h, fun s hs => ?_⟩
  have hid := (ids_parts m ▸ present_sublist m.parts).subset (List.mem_map_of_mem hs)
  rw [(ids_ranked s.id hid).2]
  rfl

theorem Module.kept_start {i : Option Nat} (h : ∀ f ∈ i, f < 2 ^ 32) :
    ({ start := i } : Module).Kept := by
  constructor
  case start => exact h
  case dataCount => exact nofun
  all_goals exact fun hne => absurd rfl hne

/-- No module starts like a component. -/
theorem not_component (h : Module.header.isPrefixOf wasm = true) :
    Component.header.isPrefixOf wasm = false := by
  obtain ⟨rest, rfl⟩ := List.isPrefixOf_iff_prefix.mp h
  rfl

theorem Binary.read_module_iff : Binary.read? wasm = some (.module m) ↔
    Module.read? wasm = some m ∧ m.valid = true := by
  unfold read?
  constructor
  · intro h
    split at h
    · obtain ⟨c, -, hc⟩ := Option.map_eq_some_iff.mp h
      cases hc
    · obtain ⟨m', hm, hif⟩ := Option.bind_eq_some_iff.mp h
      obtain ⟨hvalid, heq⟩ := Option.ite_none_right_eq_some.mp hif
      obtain rfl := Binary.module.inj (Option.some.inj heq)
      exact ⟨hm, hvalid⟩
  · rintro ⟨hm, hvalid⟩
    rw [if_neg (by simp [not_component (Module.read_iff.mp hm).1]), hm]
    exact if_pos hvalid

theorem Binary.header_of_component (hc : Binary.read? wasm = some (.component c)) :
    Component.header.isPrefixOf wasm = true := by
  by_contra h
  unfold read? at hc
  rw [if_neg h] at hc
  obtain ⟨m, -, hif⟩ := Option.bind_eq_some_iff.mp hc
  obtain ⟨-, heq⟩ := Option.ite_none_right_eq_some.mp hif
  cases heq

end Wasm

theorem normalize_ok_iff : normalize wasm = .ok n ↔
    (∃ m, Binary.read? wasm = some (.module m) ∧ m.canonical.write = n) ∨
    ∃ c m, Binary.read? wasm = some (.component c) ∧ c.asModule? = some m ∧ m.write = n := by
  unfold normalize
  cases Binary.read? wasm with
  | none => simp
  | some b =>
    cases b with
    | module m => simp
    | component c => cases h : c.asModule? <;> simp [h]

theorem normalize_canonical (h : Binary.read? wasm = some (.module m)) :
    m.canonical.Kept ∧ normalize m.canonical.write = .ok m.canonical.write := by
  obtain ⟨hread, hvalid⟩ := Binary.read_module_iff.mp h
  obtain ⟨hlocals, hdata⟩ := Module.few_of_valid hvalid
  have hkept := Module.kept_canonical hread hlocals hdata
  have hagain : Binary.read? m.canonical.write = some (.module m.canonical) :=
    Binary.read_module_iff.mpr ⟨hkept.read, Module.valid_canonical hvalid⟩
  refine ⟨hkept, normalize_ok_iff.mpr (.inl ⟨_, hagain, ?_⟩)⟩
  rw [Module.canonical_canonical]

theorem of_asModule (h : c.asModule? = some m) :
    m = { start := if c.emptyCanons then some 0 else none } := by
  obtain ⟨-, hm⟩ := Option.ite_none_right_eq_some.mp h
  exact (Option.some.inj hm).symm

theorem normalize_header : normalize ({} : Module).write = .ok ({} : Module).write := by
  decide +kernel

theorem normalize_startless : normalize ({ start := some 0 } : Module).write = .error .invalid := by
  decide +kernel

/-- What a hollow component is normalized to stays as it is, unless the component has an empty section
of canonical functions: then the start function is not there, and the module is refused. -/
theorem normalize_hollow (hc : Binary.read? wasm = some (.component c)) (h : normalize wasm = .ok n) :
    Bare n ∧ normalize n = if c.emptyCanons then .error .invalid else .ok n := by
  obtain ⟨m, hm, -⟩ | ⟨c', m, hc', hmodule, rfl⟩ := normalize_ok_iff.mp h
  · rw [hm] at hc
    cases hc
  · obtain rfl : c = c' := Binary.component.inj (Option.some.inj (hc.symm.trans hc'))
    obtain rfl := of_asModule hmodule
    refine ⟨(Module.kept_start fun f hf => ?_).bare, ?_⟩
    · obtain ⟨-, rfl⟩ := Option.ite_some_none_eq_some.mp hf
      decide
    · cases c.emptyCanons with
      | true => exact normalize_startless
      | false => exact normalize_header

/-- What comes out of normalizing has no custom and no unknown section. What was made of a module, and
not of a component, stays as it is when it is normalized again. -/
theorem normalize_settles (h : normalize wasm = .ok n) :
    Bare n ∧ (Component.header.isPrefixOf wasm = false → normalize n = .ok n) := by
  obtain ⟨m, hm, rfl⟩ | ⟨c, m, hc, -, -⟩ := normalize_ok_iff.mp h
  · obtain ⟨hkept, hagain⟩ := normalize_canonical hm
    exact ⟨hkept.bare, fun _ => hagain⟩
  · refine ⟨(normalize_hollow hc h).1, fun hmodule => ?_⟩
    rw [Binary.header_of_component hc] at hmodule
    cases hmodule

/-- The small module with a custom section in front, the sizes of a section and of a body in two
octets, and the locals of the body in groups of which one is empty. -/
def paddedModule : Octets :=
  [0x00, 0x61, 0x73, 0x6d, 1, 0, 0, 0, 0, 2, 1, 0x61, 1, 0x86, 0, 1, 0x60, 1, 0x7f, 1, 0x7f, 3, 2, 1, 0,
   5, 3, 1, 0, 1, 7, 28, 2, 6, 0x6d, 0x65, 0x6d, 0x6f, 0x72, 0x79, 2, 0,
   15, 0x75, 0x73, 0x65, 0x72, 0x5f, 0x65, 0x6e, 0x74, 0x72, 0x79, 0x70, 0x6f, 0x69, 0x6e, 0x74, 0, 0,
   10, 9, 1, 0x86, 0, 1, 0, 0x7f, 0x41, 0, 0x0b]

theorem normalize_settles_padded : normalize paddedModule = .ok smallModule ∧
    Bare smallModule ∧ normalize smallModule = .ok smallModule := by
  have hpadded : normalize paddedModule = .ok smallModule := by decide +kernel
  obtain ⟨hbare, hsame⟩ := normalize_settles hpadded
  exact ⟨hpadded, hbare, hsame (by decide)⟩

/-- A component with an empty section of canonical functions is taken for a module, and what it is
normalized to is refused. -/
theorem normalize_unsettled :
    normalize [0x00, 0x61, 0x73, 0x6d, 0x0d, 0, 1, 0, 8, 1, 0] =
      .ok [0x00, 0x61, 0x73, 0x6d, 1, 0, 0, 0, 8, 1, 0] ∧
    normalize [0x00, 0x61, 0x73, 0x6d, 1, 0, 0, 0, 8, 1, 0] = .error .invalid := by
  decide +kernel

end Inkwell
