import Inkwell.Proofs.DataCounts
import Inkwell.Proofs.Locals
set_option autoImplicit false

/-! The canonical form of a valid module is valid, and is its own canonical form. -/

namespace Inkwell.Wasm

/-! ### Once is enough -/

theorem Body.canonical_canonical (b : Body) : b.canonical.canonical = b.canonical := by
  simp only [Body.canonical, mergeLocals_mergeLocals]

namespace Module

variable {m : Module} {c : Context}

theorem usesData_canonical (m : Module) :
    m.canonical.code.any Body.usesData = m.code.any Body.usesData := by
  simp only [canonical, List.any_map]
  rfl

theorem canonical_canonical (m : Module) : m.canonical.canonical = m.canonical := by
  have hcode : m.canonical.code.map Body.canonical = m.canonical.code := by
    simp [canonical, Function.comp_def, Body.canonical_canonical]
  rw [show m.canonical.canonical = { m.canonical with
    code := m.canonical.code.map Body.canonical
    dataCount := if m.canonical.code.any Body.usesData then some m.data.length else none } from rfl,
    hcode, usesData_canonical]
  rfl

/-! ### Parts that do not count data segments -/

theorem context_canonical (m : Module) (ts : Types) :
    m.canonical.context ts = (m.context ts).counting m.canonical.dataCount := rfl

section Counting

variable (m c) (n : Option Nat)

theorem early_canonical (k : Nat) :
    m.canonical.early (c.counting n) k = (m.early c k).counting n := rfl

theorem tableOk_canonical : m.canonical.tableOk (c.counting n) = m.tableOk c := by
  funext t
  simp only [tableOk, early_canonical, Check.initOk_counting, Context.counting_types]

theorem globalOk_canonical : m.canonical.globalOk (c.counting n) = m.globalOk c := by
  funext k g
  simp only [globalOk, early_canonical, Check.initOk_counting, Context.counting_types]

theorem elementOk_counting : elementOk (c.counting n) = elementOk c := by
  funext e
  have hinit : Check.initOk (c.counting n) = Check.initOk c := by
    funext t init
    exact Check.initOk_counting c n t init
  unfold elementOk
  rw [hinit]
  rfl

theorem dataOk_counting : dataOk (c.counting n) = dataOk c := by
  funext d
  simp only [dataOk, Check.initOk_counting, Context.counting_memories]

end Counting

/-! ### Bodies -/

end Module

namespace Body

def slots (t : FuncType) (b : Body) : List ValType :=
  t.params ++ b.locals.flatMap fun l => List.replicate l.1 l.2

def unset (t : FuncType) (b : Body) : List Nat :=
  ((b.slots t).zipIdx.filter fun p => t.params.length ≤ p.2 && !p.1.hasDefault).map (·.2)

def inside (c : Context) (t : FuncType) (b : Body) : Context :=
  { c with locals := (b.slots t).toArray, results := t.results }

theorem slots_canonical (t : FuncType) (b : Body) : b.canonical.slots t = b.slots t := by
  simp only [slots, canonical, slots_mergeLocals]

end Body

namespace Module

variable {m : Module} {c : Context} {type : Nat} {b : Body}

theorem bodyOk_iff : bodyOk c type b = true ↔ ∃ t, c.types.func? type = some t ∧
    (∀ l ∈ b.locals, c.types.valOk l.2 = true) ∧ t.params.length + (b.locals.map (·.1)).sum ≤ 50000 ∧
      Check.bodyOk (b.inside c t) (b.unset t) b.code = true := by
  unfold bodyOk
  cases c.types.func? type with
  | none => simp
  | some t => simp [and_assoc, Body.inside, Body.unset, Body.slots]

theorem bodyOk_canonical (h : bodyOk c type b = true) : bodyOk c type b.canonical = true := by
  obtain ⟨t, ht, hlocals, hsum, hcode⟩ := bodyOk_iff.mp h
  refine bodyOk_iff.mpr ⟨t, ht, ?_, ?_, ?_⟩
  · exact types_mergeLocals (p := fun t => c.types.valOk t = true) hlocals
  · rw [Body.canonical, sum_mergeLocals]
    exact hsum
  · rw [Body.inside, Body.unset, Body.slots_canonical]
    exact hcode

theorem bodyOk_counting (n : Option Nat) (h : b.usesData = false) :
    bodyOk (c.counting n) type b = bodyOk c type b := by
  rw [Bool.eq_iff_iff, bodyOk_iff, bodyOk_iff]
  have hcheck (t : FuncType) : Check.bodyOk (b.inside (c.counting n) t) (b.unset t) b.code =
    Check.bodyOk (b.inside c t) (b.unset t) b.code := Check.bodyOk_counting (b.inside c t) n h
  simp only [hcheck, Context.counting_types]

theorem dataCount_of_body (h : bodyOk c type b = true) (huses : b.usesData = true) :
    c.dataCount.isSome = true := by
  obtain ⟨t, -, -, -, hcode⟩ := bodyOk_iff.mp h
  exact Check.dataCount_of_bodyOk (c := b.inside c t) hcode huses

theorem usesData_body (b : Body) : b.canonical.usesData = b.usesData := rfl

/-! ### Whole modules -/

/-- What the validity of a module says of each of its parts. -/
structure ValidParts (m : Module) (c : Context) : Prop where
  sizes : m.sizesOk c = true
  imports : m.imports.all (·.type.valid c.types) = true
  functions : m.functions.all (fun i => (c.types.func? i).isSome) = true
  tables : m.tables.all (m.tableOk c) = true
  memories : m.memories.all MemoryType.valid = true
  tags : m.tags.all (tagOk c.types) = true
  globals : m.globals.zipIdx.all (fun p => m.globalOk c p.2 p.1) = true
  exports : m.exportsOk c = true
  typeSize : m.typeSizeOk c = true
  start : m.start.all (startOk c) = true
  elements : m.elements.all (elementOk c) = true
  data : m.data.all (dataOk c) = true
  dataCount : ∀ n ∈ m.dataCount, n = m.data.length
  bodies : m.code.length = m.functions.length
  code : ∀ p ∈ m.functions.zip m.code, bodyOk c p.1 p.2 = true

theorem validIn_iff : m.validIn c = true ↔ m.ValidParts c := by
  simp only [validIn, Bool.and_eq_true, and_assoc, decide_eq_true_eq]
  constructor
  · rintro ⟨hsizes, himports, hfunctions, htables, hmemories, htags, hglobals, hexports, hsize,
      hstart, helements, hdata, hcount, hbodies, hcode⟩
    exact ⟨hsizes, himports, hfunctions, htables, hmemories, htags, hglobals, hexports, hsize, hstart,
      helements, hdata, by simpa [Option.all_eq_true] using hcount, hbodies,
      by simpa using hcode⟩
  · intro h
    exact ⟨h.sizes, h.imports, h.functions, h.tables, h.memories, h.tags, h.globals, h.exports,
      h.typeSize, h.start, h.elements, h.data, by simpa [Option.all_eq_true] using h.dataCount, h.bodies,
      by simpa using h.code⟩

theorem ValidParts.exists_type (h : m.ValidParts c) (hb : b ∈ m.code) :
    ∃ type, (type, b) ∈ m.functions.zip m.code := by
  obtain ⟨i, hi, rfl⟩ := List.mem_iff_getElem.mp hb
  have hi' : i < m.functions.length := h.bodies ▸ hi
  refine ⟨m.functions[i], List.mem_iff_getElem.mpr ⟨i, ?_, ?_⟩⟩
  · rw [List.length_zip]
    omega
  · exact List.getElem_zip

theorem ValidParts.dataCount_canonical (h : m.ValidParts c) (hc : c.dataCount = m.dataCount)
    (huses : m.code.any Body.usesData = true) : m.canonical.dataCount = m.dataCount := by
  obtain ⟨b, hb, hbody⟩ := List.any_eq_true.mp huses
  obtain ⟨type, hmem⟩ := h.exists_type hb
  have hsome := dataCount_of_body (h.code _ hmem) hbody
  rw [hc] at hsome
  obtain ⟨n, hn⟩ := Option.isSome_iff_exists.mp hsome
  rw [canonical, if_pos huses, hn, h.dataCount n hn]

theorem ValidParts.code_canonical (h : m.ValidParts c) (hc : c.dataCount = m.dataCount) :
    ∀ p ∈ m.functions.zip m.canonical.code,
      bodyOk (c.counting m.canonical.dataCount) p.1 p.2 = true := by
  intro p hp
  rw [show m.canonical.code = m.code.map Body.canonical from rfl, List.zip_map_right] at hp
  obtain ⟨⟨type, b⟩, hmem, rfl⟩ := List.mem_map.mp hp
  have hbody : bodyOk c type b.canonical = true := bodyOk_canonical (h.code _ hmem)
  cases huses : m.code.any Body.usesData with
  | true =>
    have hsame : c.counting m.canonical.dataCount = c := by
      rw [h.dataCount_canonical hc huses, ← hc]
      rfl
    rw [hsame]
    exact hbody
  | false =>
    have hnone : b.canonical.usesData = false := by
      rw [usesData_body]
      simpa using List.any_eq_false.mp huses b (List.of_mem_zip hmem).2
    exact (bodyOk_counting _ hnone).trans hbody

theorem ValidParts.canonical (h : m.ValidParts c) (hc : c.dataCount = m.dataCount) :
    m.canonical.ValidParts (c.counting m.canonical.dataCount) where
  sizes := h.sizes
  imports := h.imports
  functions := h.functions
  tables := by
    rw [tableOk_canonical]
    exact h.tables
  memories := h.memories
  tags := h.tags
  globals := by
    rw [globalOk_canonical]
    exact h.globals
  exports := h.exports
  typeSize := h.typeSize
  start := h.start
  elements := by
    rw [elementOk_counting]
    exact h.elements
  data := by
    rw [dataOk_counting]
    exact h.data
  dataCount := by
    intro n hn
    obtain ⟨-, rfl⟩ := Option.ite_some_none_eq_some.mp hn
    rfl
  bodies := (List.length_map _).trans h.bodies
  code := h.code_canonical hc

theorem valid_iff : m.valid = true ↔
    ∃ ts, Types.ofGroups? m.types = some ts ∧ m.ValidParts (m.context ts) := by
  unfold valid
  cases Types.ofGroups? m.types with
  | none => simp
  | some ts => simp [validIn_iff]

theorem valid_canonical (h : m.valid = true) : m.canonical.valid = true := by
  obtain ⟨ts, hts, hparts⟩ := valid_iff.mp h
  have hcanonical := hparts.canonical rfl
  rw [← context_canonical] at hcanonical
  exact valid_iff.mpr ⟨ts, hts, hcanonical⟩

theorem few_of_valid (h : m.valid = true) :
    (∀ b ∈ m.code, (b.locals.map (·.1)).sum < 2 ^ 32) ∧ m.data.length < 2 ^ 32 := by
  obtain ⟨ts, -, hparts⟩ := valid_iff.mp h
  constructor
  · intro b hb
    obtain ⟨type, hmem⟩ := hparts.exists_type hb
    obtain ⟨t, -, -, hsum, -⟩ := bodyOk_iff.mp (hparts.code _ hmem)
    dsimp only at hsum
    omega
  · have hsizes := hparts.sizes
    simp only [sizesOk, Bool.and_eq_true, decide_eq_true_eq] at hsizes
    omega

end Module
end Inkwell.Wasm
