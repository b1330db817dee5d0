import Inkwell.Proofs.Compile
import Inkwell.Proofs.Distinct
import Mathlib.Data.List.Induction
import Mathlib.Data.List.Nodup
set_option autoImplicit false

/-! Which modules compile. What the sections tell is gathered one after the other and looked at in the
end; here it is said of the module as a whole. -/

namespace Inkwell

open Wasm

namespace Wasm

def SubType.plain (t : FuncType) : SubType := ⟨true, none, .func t⟩

theorem SubType.plain_inj {t t' : FuncType} (h : plain t = plain t') : t = t' :=
  CompositeType.func.inj (SubType.mk.inj h).2.2

def RecGroup.Plain (g : RecGroup) : Prop := ∃ t, g.members = [SubType.plain t]

structure Import.Served (debug : Bool) (i : Import) : Prop where
  source : i.source = Outline.hostModule ∨ debug = true ∧ i.source = Outline.debugModule
  func : ∃ f, i.type = .func f

def Export.isMemory (e : Export) : Bool := e.name = Outline.memoryName && e.kind = .memory

def Export.isEntry (e : Export) : Bool := e.name = Outline.entryName && e.kind = .func

theorem Export.name_of_isEntry {e : Export} (h : e.isEntry = true) :
    e.name = Outline.entryName := of_decide_eq_true (Bool.and_eq_true_iff.mp h).1

theorem Export.kind_of_isEntry {e : Export} (h : e.isEntry = true) : e.kind = .func :=
  of_decide_eq_true (Bool.and_eq_true_iff.mp h).2

theorem Export.kind_of_isMemory {e : Export} (h : e.isMemory = true) : e.kind = .memory :=
  of_decide_eq_true (Bool.and_eq_true_iff.mp h).2

def Module.funcType? (m : Module) (f : Nat) : Option SubType := do
  (m.types.flatMap RecGroup.members)[← (m.importedFuncs ++ m.functions)[f]?]?

end Wasm

namespace Outline

variable {debug : Bool} {o : Outline} {m : Module}

/-- What a lone module of plain function types tells, if its imports are served. -/
def ofModule (m : Module) : Outline where
  types := m.types.filterMap plainType?
  importedFuncs := m.imports.length
  functions := m.functions
  globals := m.globals.length
  dataSize := (m.data.map (·.bytes.length)).sum
  footprint := m.memories.getLast?.map (·.limits.initial)
  memories := m.memories.length
  exportsMemory := m.exports.any Export.isMemory
  entry := (m.exports.filter Export.isEntry).getLast?.map (·.index)

/-! ### Sections -/

theorem plainType?_eq_some_iff {g : RecGroup} {t : FuncType} :
    plainType? g = some t ↔ g.members = [SubType.plain t] := by
  unfold plainType?
  split
  · next t' h => simp [h, SubType.plain]
  · next h => exact iff_of_false nofun fun hmembers => h t hmembers

theorem mapM_plainType? (gs : List RecGroup) (h : ∀ g ∈ gs, g.Plain) :
    gs.mapM plainType? = some (gs.filterMap plainType?) := by
  induction gs with
  | nil => rfl
  | cons g gs ih =>
    obtain ⟨t, ht⟩ := h g List.mem_cons_self
    have hg := plainType?_eq_some_iff.mpr ht
    rw [List.mapM_cons, hg, List.filterMap_cons_some hg,
      ih fun g' hg' => h g' (List.mem_cons_of_mem g hg')]
    rfl

theorem plain_of_mapM {gs : List RecGroup} {ts : List FuncType}
    (h : gs.mapM plainType? = some ts) : ∀ g ∈ gs, g.Plain := by
  induction gs generalizing ts with
  | nil => exact fun g hg => nomatch hg
  | cons g gs ih =>
    rw [List.mapM_cons] at h
    obtain ⟨t, ht, h⟩ := Option.bind_eq_some_iff.mp h
    obtain ⟨ts', hts', -⟩ := Option.bind_eq_some_iff.mp h
    intro g' hg'
    rcases List.mem_cons.mp hg' with rfl | hg'
    · exact ⟨t, plainType?_eq_some_iff.mp ht⟩
    · exact ih hts' g' hg'

theorem members_plain (gs : List RecGroup) (h : ∀ g ∈ gs, g.Plain) :
    gs.flatMap RecGroup.members = (gs.filterMap plainType?).map SubType.plain := by
  induction gs with
  | nil => rfl
  | cons g gs ih =>
    obtain ⟨t, ht⟩ := h g List.mem_cons_self
    rw [List.flatMap_cons, ht, List.filterMap_cons_some (plainType?_eq_some_iff.mpr ht),
      ih fun g' hg' => h g' (List.mem_cons_of_mem g hg')]
    rfl

theorem allowed_iff {i : Import} : allowed debug i = true ↔ i.Served debug := by
  have hkind : i.type.kind = .func ↔ ∃ f, i.type = .func f := by
    cases i.type <;> simp [ImportType.kind]
  unfold allowed
  rw [Bool.and_eq_true, Bool.or_eq_true, Bool.and_eq_true, decide_eq_true_iff, decide_eq_true_iff,
    decide_eq_true_iff, hkind]
  exact ⟨fun h => ⟨h.1, h.2⟩, fun h => ⟨h.source, h.func⟩⟩

theorem checkImports_ok_iff {is : List Import} :
    checkImports debug is = .ok () ↔ ∀ i ∈ is, i.Served debug := by
  have hfind : is.find? (!allowed debug ·) = none ↔ ∀ i ∈ is, i.Served debug := by
    rw [List.find?_eq_none]
    refine forall₂_congr fun i _ => ?_
    rw [← allowed_iff]
    simp
  rw [← hfind]
  unfold checkImports
  cases is.find? (!allowed debug ·) with
  | none => exact iff_of_true rfl rfl
  | some i => exact iff_of_false nofun nofun

theorem isEntry_of_isMemory {e : Export} (h : e.isMemory = true) : e.isEntry = false := by
  simp [Export.isEntry, Export.kind_of_isMemory h]

theorem addExport_eq (o : Outline) (e : Export) : addExport o e =
    if e.isMemory then { o with exportsMemory := true }
    else if e.isEntry then { o with entry := some e.index } else o := by
  simp only [addExport, Export.isMemory, Export.isEntry, Bool.and_eq_true, decide_eq_true_iff]

theorem foldl_addExport (o : Outline) (es : List Export) : es.foldl addExport o =
    { o with
      exportsMemory := o.exportsMemory || es.any Export.isMemory
      entry := ((es.filter Export.isEntry).getLast?.map (·.index)).or o.entry } := by
  induction es using List.reverseRecOn with
  | nil => simp
  | append_singleton es e ih =>
    rw [List.foldl_concat, ih, addExport_eq, List.any_append, List.filter_append]
    by_cases hmemory : e.isMemory = true
    · simp [hmemory, isEntry_of_isMemory hmemory]
    · by_cases hentry : e.isEntry = true
      · simp [hmemory, hentry]
      · simp [hmemory, hentry]

theorem addModule_ok_iff : addModule debug {} { module := m } = .ok o ↔
    (∀ g ∈ m.types, g.Plain) ∧ (∀ i ∈ m.imports, i.Served debug) ∧ o = ofModule m := by
  rw [← checkImports_ok_iff]
  unfold addModule
  dsimp only
  cases htypes : m.types.mapM plainType? with
  | none =>
    refine iff_of_false nofun fun ⟨hplain, _⟩ => ?_
    rw [mapM_plainType? m.types hplain] at htypes
    cases htypes
  | some ts =>
    have hplain := plain_of_mapM htypes
    rw [mapM_plainType? m.types hplain] at htypes
    obtain rfl := Option.some.inj htypes
    cases himports : checkImports debug m.imports with
    | error e => exact iff_of_false nofun fun ⟨_, h, _⟩ => nomatch h
    | ok u =>
      have hcounted {α : Type} (as : List α) (id : UInt8) :
          (if as.isEmpty && !([] : List UInt8).contains id then 0 else as.length) = as.length := by
        cases as <;> rfl
      change Except.ok (m.exports.foldl addExport _) = .ok o ↔ _
      rw [foldl_addExport, Except.ok.injEq]
      dsimp only
      rw [hcounted, hcounted, List.nil_append, List.nil_append, Nat.zero_add, Nat.zero_add,
        Option.or_none, Option.or_none, Bool.false_or]
      exact ⟨fun h => ⟨hplain, rfl, h.symm⟩, fun h => h.2.2.symm⟩

/-! ### The check -/

/-- What an outline has to tell of a module that may run. -/
structure Passes (o : Outline) (pageLimit : UInt16) : Prop where
  memories : o.memories ≤ 1
  exported : o.exportsMemory = true
  pages : o.footprint.getD 0 ≤ pageLimit.toNat
  entry : ∃ entry, o.entry = some entry ∧ o.entryType? entry = some ⟨[.i32], [.i32]⟩

theorem check_ok_iff {pageLimit : UInt16} : o.check pageLimit = .ok () ↔ o.Passes pageLimit := by
  constructor
  · intro h
    unfold check at h
    by_cases hmemories : 1 < o.memories
    · simp only [if_pos hmemories] at h
      cases h
    by_cases hexported : (!o.exportsMemory) = true
    · simp only [if_neg hmemories, if_pos hexported] at h
      cases h
    by_cases hpages : pageLimit.toNat < o.footprint.getD 0
    · simp only [if_neg hmemories, if_neg hexported, if_pos hpages] at h
      cases h
    simp only [if_neg hmemories, if_neg hexported, if_neg hpages] at h
    refine ⟨Nat.not_lt.mp hmemories, by simpa using hexported, Nat.not_lt.mp hpages, ?_⟩
    cases hentry : o.entry with
    | none =>
      rw [hentry] at h
      cases h
    | some entry =>
      rw [hentry] at h
      by_cases htype : o.entryType? entry = some ⟨[.i32], [.i32]⟩
      · exact ⟨entry, rfl, htype⟩
      · simp only [ne_eq, htype, not_false_eq_true, if_true] at h
        cases h
  · rintro ⟨hmemories, hexported, hpages, entry, hentry, htype⟩
    unfold check
    rw [hentry, hexported]
    simp only [if_neg (Nat.not_lt.mpr hmemories), if_neg (Nat.not_lt.mpr hpages), htype]
    rfl

theorem bounded_of_lt {n bound : Nat} (h : n < bound) (cost : String) :
    bounded n bound cost = .ok n := if_pos h

/-- The estimate fails only for what takes too much to start, as a memory was checked before. -/
theorem estimate_ok_iff {size : Nat} (hpages : o.footprint.getD 0 < 2 ^ 16) :
    (∃ e, o.estimate size = .ok e) ↔ o.initCost size ≤ 65535 := by
  constructor
  · rintro ⟨e, h⟩
    obtain ⟨init, hinit, -⟩ := Except.bind_eq_ok.mp h
    exact Nat.le_of_lt_succ (bounded_ok hinit).2
  · intro h
    have hinit : o.initCost size < 2 ^ 16 := Nat.lt_succ_of_le h
    have hcached : o.cachedInitCost size < 2 ^ 16 := by
      unfold initCost at hinit
      omega
    have hasm : o.asmSize size < 2 ^ 32 := Nat.lt_trans (asmSize_bounds hinit).2 (by decide)
    unfold estimate
    rw [bounded_of_lt hinit, bounded_of_lt hcached, bounded_of_lt hpages, bounded_of_lt hasm]
    exact ⟨_, rfl⟩

theorem estimate_ok {size : Nat} {e : Estimate} (h : o.estimate size = .ok e) :
    e.footprint.toNat = o.footprint.getD 0 ∧ e.entry = UInt32.ofNat (o.entry.getD 0) := by
  obtain ⟨init, -, h⟩ := Except.bind_eq_ok.mp h
  obtain ⟨cached, -, h⟩ := Except.bind_eq_ok.mp h
  obtain ⟨footprint, hfootprint, h⟩ := Except.bind_eq_ok.mp h
  obtain ⟨asm, -, h⟩ := Except.bind_eq_ok.mp h
  obtain ⟨rfl, hfits⟩ := bounded_ok hfootprint
  rw [← Except.ok.inj h]
  exact ⟨by rw [UInt16.toNat_ofNat', Nat.mod_eq_of_lt hfits], rfl⟩

end Outline

namespace Wasm.Module

variable {m : Module} {debug : Bool}

/-! ### Modules -/

theorem exports_of_valid (h : m.valid = true) : ∃ ts,
    (∀ e ∈ m.exports, e.index < count (m.context ts) e.kind) ∧
      (m.exports.map (·.name)).Nodup ∧ (m.context ts).funcs.size ≤ 1000000 := by
  unfold valid at h
  cases htypes : Types.ofGroups? m.types with
  | none =>
    rw [htypes] at h
    cases h
  | some ts =>
    rw [htypes] at h
    simp only [validIn, Bool.and_eq_true] at h
    obtain ⟨⟨⟨⟨⟨⟨⟨⟨hbefore, hexports⟩, -⟩, -⟩, -⟩, -⟩, -⟩, -⟩, -⟩ := h
    have hsizes : m.sizesOk (m.context ts) = true := hbefore.1.1.1.1.1.1
    simp only [exportsOk, Bool.and_eq_true, List.all_eq_true, decide_eq_true_iff] at hexports
    simp only [sizesOk, Bool.and_eq_true, decide_eq_true_iff] at hsizes
    refine ⟨ts, hexports.1, nodup_of_length_eraseDups ?_, hsizes.1.1.1.1.1.1.1.2⟩
    rw [hexports.2, List.length_map]

theorem eq_of_name {e e' : Export} (hnodup : (m.exports.map (·.name)).Nodup) (he : e ∈ m.exports)
    (he' : e' ∈ m.exports) (h : e.name = e'.name) : e = e' :=
  List.inj_on_of_nodup_map hnodup he he' h

section

variable (himports : ∀ i ∈ m.imports, i.Served debug)

include himports

theorem length_importedFuncs : m.importedFuncs.length = m.imports.length := by
  refine List.filterMap_length_eq_length.mpr fun i hi => ?_
  obtain ⟨f, hf⟩ := (himports i hi).func
  rw [hf]
  rfl

theorem importedMemories_eq : m.importedMemories = [] := by
  refine List.filterMap_eq_nil_iff.mpr fun i hi => ?_
  obtain ⟨f, hf⟩ := (himports i hi).func
  rw [hf]

theorem entryType?_iff (hplain : ∀ g ∈ m.types, g.Plain) {f : Nat} {t : FuncType} :
    (Outline.ofModule m).entryType? f = some t ↔
      m.importedFuncs.length ≤ f ∧ m.funcType? f = some (SubType.plain t) := by
  have hlength := length_importedFuncs himports
  unfold Outline.entryType? funcType?
  rw [Outline.members_plain m.types hplain]
  change (if f < m.imports.length then none else _) = some t ↔ _
  by_cases hf : f < m.imports.length
  · rw [if_pos hf]
    exact iff_of_false nofun fun ⟨hle, _⟩ => by omega
  · have hle : m.importedFuncs.length ≤ f := by omega
    rw [if_neg hf, List.getElem?_append_right hle, hlength]
    change (m.functions[f - m.imports.length]?).bind _ = some t ↔ _ ∧
      (m.functions[f - m.imports.length]?).bind _ = _
    cases m.functions[f - m.imports.length]? with
    | none => exact iff_of_false nofun fun ⟨_, h⟩ => nomatch h
    | some i =>
      simp only [Option.bind_some, List.getElem?_map, Option.map_eq_some_iff]
      constructor
      · intro ht
        exact ⟨Nat.not_lt.mp hf, t, ht, rfl⟩
      · rintro ⟨-, t', ht, hsame⟩
        rw [← SubType.plain_inj hsame]
        exact ht

end

theorem last_entry_iff (hnodup : (m.exports.map (·.name)).Nodup) {i : Nat} :
    (m.exports.filter Export.isEntry).getLast?.map (·.index) = some i ↔
      ∃ e ∈ m.exports, e.isEntry = true ∧ e.index = i := by
  rw [Option.map_eq_some_iff]
  refine exists_congr fun e => ?_
  rw [← and_assoc, ← List.mem_filter]
  refine and_congr_left fun _ => ⟨List.mem_of_getLast?, fun he => ?_⟩
  have hlast := List.getLast?_eq_some_getLast (List.ne_nil_of_mem he)
  have hmem := List.mem_of_getLast? hlast
  rw [List.mem_filter] at he hmem
  rw [hlast, eq_of_name hnodup hmem.1 he.1]
  rw [Export.name_of_isEntry hmem.2, Export.name_of_isEntry he.2]

end Wasm.Module

structure Acceptable (m : Module) (s : CompileSettings) (size : Nat) : Prop where
  valid : m.valid = true
  types : ∀ g ∈ m.types, g.Plain
  imports : ∀ i ∈ m.imports, i.Served s.debug
  memory : ∃ t, m.importedMemories ++ m.memories = [t] ∧ t.limits.initial ≤ s.pageLimit.toNat ∧
    ∃ e ∈ m.exports, e.isMemory = true
  entry : ∃ e ∈ m.exports, e.isEntry = true ∧ m.importedFuncs.length ≤ e.index ∧
    m.funcType? e.index = some (SubType.plain ⟨[.i32], [.i32]⟩)
  cost : (Outline.ofModule m).initCost size ≤ 65535

section

variable {m : Module} {s : CompileSettings} {debug : Bool} {wasm : Octets} {a : Artifact}

theorem memories_of_exported (hvalid : m.valid = true) (himports : ∀ i ∈ m.imports, i.Served debug)
    (h : ∃ e ∈ m.exports, e.isMemory = true) : m.memories ≠ [] := by
  obtain ⟨ts, hindex, -, -⟩ := Module.exports_of_valid hvalid
  obtain ⟨e, he, hmemory⟩ := h
  have hcount := hindex e he
  rw [Export.kind_of_isMemory hmemory] at hcount
  change e.index < (m.importedMemories ++ m.memories).toArray.size at hcount
  rw [Module.importedMemories_eq himports, List.nil_append, List.size_toArray] at hcount
  exact List.ne_nil_of_length_pos (Nat.zero_lt_of_lt hcount)

/-- A valid module passes if it has one memory, exported and not too large, and an entry of its own of
the right type. -/
theorem passes_ofModule_iff (hvalid : m.valid = true) (hplain : ∀ g ∈ m.types, g.Plain)
    (himports : ∀ i ∈ m.imports, i.Served debug) {pageLimit : UInt16} :
    (Outline.ofModule m).Passes pageLimit ↔
      (∃ t, m.importedMemories ++ m.memories = [t] ∧ t.limits.initial ≤ pageLimit.toNat ∧
        ∃ e ∈ m.exports, e.isMemory = true) ∧
      ∃ e ∈ m.exports, e.isEntry = true ∧ m.importedFuncs.length ≤ e.index ∧
        m.funcType? e.index = some (SubType.plain ⟨[.i32], [.i32]⟩) := by
  obtain ⟨ts, -, hnames, -⟩ := Module.exports_of_valid hvalid
  rw [Module.importedMemories_eq himports, List.nil_append]
  constructor
  · rintro ⟨hmemories, hexported, hpages, entry, hentry, htype⟩
    have hexported' : ∃ e ∈ m.exports, e.isMemory = true := List.any_eq_true.mp hexported
    have hsome := memories_of_exported hvalid himports hexported'
    obtain ⟨t, ht⟩ : ∃ t, m.memories = [t] := by
      refine List.length_eq_one_iff.mp (Nat.le_antisymm hmemories ?_)
      exact List.length_pos_iff.mpr hsome
    refine ⟨⟨t, ht, ?_, hexported'⟩, ?_⟩
    · simpa [Outline.ofModule, ht] using hpages
    · obtain ⟨e, he, hisEntry, rfl⟩ := (Module.last_entry_iff hnames).mp hentry
      obtain ⟨hown, htype⟩ := (Module.entryType?_iff himports hplain).mp htype
      exact ⟨e, he, hisEntry, hown, htype⟩
  · rintro ⟨⟨t, ht, hpages, hexported⟩, e, he, hisEntry, hown, htype⟩
    refine ⟨?_, List.any_eq_true.mpr hexported, ?_, e.index, ?_, ?_⟩
    · simp [Outline.ofModule, ht]
    · simpa [Outline.ofModule, ht] using hpages
    · exact (Module.last_entry_iff hnames).mpr ⟨e, he, hisEntry, rfl⟩
    · exact (Module.entryType?_iff himports hplain).mpr ⟨hown, htype⟩

theorem read?_of_header (hheader : Module.header.isPrefixOf wasm = true) : Binary.read? wasm =
    (Module.read? wasm).bind fun m => if m.valid then some (.module m) else none := by
  obtain ⟨rest, rfl⟩ := List.isPrefixOf_iff_prefix.mp hheader
  rfl

theorem ofBinary_module (m : Module) :
    Outline.ofBinary debug (.module m) = Outline.addModule debug {} { module := m } := by
  change (Outline.addModule debug {} { module := m } >>= fun o => pure o) = _
  exact bind_pure _

theorem outline_ok_iff {o : Outline} (hheader : Module.header.isPrefixOf wasm = true) :
    outline debug wasm = .ok o ↔ ∃ m, Module.read? wasm = some m ∧ m.valid = true ∧
      (∀ g ∈ m.types, g.Plain) ∧ (∀ i ∈ m.imports, i.Served debug) ∧ o = Outline.ofModule m := by
  unfold outline
  rw [read?_of_header hheader]
  cases Module.read? wasm with
  | none => exact iff_of_false nofun fun ⟨_, h, _⟩ => nomatch h
  | some m =>
    rw [Option.bind_some]
    by_cases hvalid : m.valid = true
    · rw [if_pos hvalid]
      dsimp only
      rw [ofBinary_module, Outline.addModule_ok_iff]
      constructor
      · rintro ⟨hplain, himports, ho⟩
        exact ⟨m, rfl, hvalid, hplain, himports, ho⟩
      · rintro ⟨m', hm', -, h⟩
        obtain rfl := Option.some.inj hm'
        exact h
    · rw [if_neg hvalid]
      refine iff_of_false nofun ?_
      rintro ⟨m', hm', hvalid', -⟩
      obtain rfl := Option.some.inj hm'
      exact hvalid hvalid'

/-- What is compiled is what is small enough, tells an outline that passes, and does not take too much
to start. -/
theorem compile_ok_iff_outline : (∃ a, compile wasm s = .ok a) ↔ wasm.length ≤ s.maxSize.toNat ∧
    ∃ o, outline s.debug wasm = .ok o ∧ o.Passes s.pageLimit ∧ o.initCost wasm.length ≤ 65535 := by
  constructor
  · rintro ⟨a, ha⟩
    have hof := compile_ok ha
    obtain ⟨o, ho, hcheck, hestimate⟩ := hof.estimate
    have hpasses := Outline.check_ok_iff.mp hcheck
    have hpages := Nat.lt_of_le_of_lt hpasses.pages s.pageLimit.toNat_lt
    exact ⟨hof.size, o, ho, hpasses, (Outline.estimate_ok_iff hpages).mp ⟨_, hestimate⟩⟩
  · rintro ⟨hsize, o, ho, hpasses, hcost⟩
    have hpages := Nat.lt_of_le_of_lt hpasses.pages s.pageLimit.toNat_lt
    obtain ⟨e, he⟩ := (Outline.estimate_ok_iff hpages).mpr hcost
    refine ⟨⟨keccak wasm, s.version, s.debug, wasm, e⟩, ?_⟩
    rw [compile_eq, if_neg (Nat.not_lt.mpr hsize), ho]
    change (o.check s.pageLimit >>= fun _ => (o.estimate wasm.length).map _) = _
    rw [Outline.check_ok_iff.mpr hpasses, he]
    rfl

/-- Behind the header of a module, what compiles is what is small enough and an acceptable module. What
is compiled then tells the size of the only memory, the index under which the entry is exported, the
module itself and its hash. -/
theorem compile_ok_iff (hheader : Module.header.isPrefixOf wasm = true) (s : CompileSettings) :
    ((∃ a, compile wasm s = .ok a) ↔ wasm.length ≤ s.maxSize.toNat ∧
      ∃ m, Module.read? wasm = some m ∧ Acceptable m s wasm.length) ∧
    ∀ a, compile wasm s = .ok a → a.module = wasm ∧ a.moduleHash = keccak wasm ∧
      ∃ m t e, Module.read? wasm = some m ∧ m.importedMemories ++ m.memories = [t] ∧
        a.estimate.footprint.toNat = t.limits.initial ∧ e ∈ m.exports ∧ e.isEntry = true ∧
        a.estimate.entry.toNat = e.index := by
  constructor
  · rw [compile_ok_iff_outline]
    refine and_congr_right fun _ => ⟨?_, ?_⟩
    · rintro ⟨o, ho, hpasses, hcost⟩
      obtain ⟨m, hread, hvalid, hplain, himports, rfl⟩ := (outline_ok_iff hheader).mp ho
      obtain ⟨hmemory, hentry⟩ := (passes_ofModule_iff hvalid hplain himports).mp hpasses
      exact ⟨m, hread, hvalid, hplain, himports, hmemory, hentry, hcost⟩
    · rintro ⟨m, hread, h⟩
      exact ⟨Outline.ofModule m,
        (outline_ok_iff hheader).mpr ⟨m, hread, h.valid, h.types, h.imports, rfl⟩,
        (passes_ofModule_iff h.valid h.types h.imports).mpr ⟨h.memory, h.entry⟩, h.cost⟩
  · intro a ha
    have hof := compile_ok ha
    obtain ⟨o, ho, hcheck, hestimate⟩ := hof.estimate
    obtain ⟨m, hread, hvalid, hplain, himports, rfl⟩ := (outline_ok_iff hheader).mp ho
    have hpasses := Outline.check_ok_iff.mp hcheck
    obtain ⟨⟨t, ht, -, -⟩, -⟩ := (passes_ofModule_iff hvalid hplain himports).mp hpasses
    obtain ⟨entry, hentry, -⟩ := hpasses.entry
    obtain ⟨ts, hindex, hnames, hsize⟩ := Module.exports_of_valid hvalid
    obtain ⟨e, he, hisEntry, rfl⟩ := (Module.last_entry_iff hnames).mp hentry
    obtain ⟨hfootprint, hstart⟩ := Outline.estimate_ok hestimate
    refine ⟨hof.module, hof.moduleHash, m, t, e, hread, ht, ?_, he, hisEntry, ?_⟩
    · rw [Module.importedMemories_eq himports, List.nil_append] at ht
      rw [hfootprint]
      simp [Outline.ofModule, ht]
    · have hfunc := hindex e he
      rw [Export.kind_of_isEntry hisEntry] at hfunc
      have hsmall : e.index < 2 ^ 32 := Nat.lt_trans (Nat.lt_of_lt_of_le hfunc hsize) (by decide)
      rw [hstart, hentry, Option.getD_some, UInt32.toNat_ofNat', Nat.mod_eq_of_lt hsmall]

end

/-- The small module is acceptable, as it compiles. -/
theorem compile_ok_iff_small : Module.header.isPrefixOf smallModule = true ∧
    ∃ m, Module.read? smallModule = some m ∧
      Acceptable m ⟨2, false, 128, 131072⟩ smallModule.length := by
  have hheader : Module.header.isPrefixOf smallModule = true := by decide
  obtain ⟨-, haccepted⟩ :=
    (compile_ok_iff hheader ⟨2, false, 128, 131072⟩).1.mp compile_smallModule
  exact ⟨hheader, haccepted⟩

end Inkwell
