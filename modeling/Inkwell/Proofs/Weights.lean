import Inkwell.Proofs.Acceptance
import Inkwell.Proofs.ModuleForms
set_option autoImplicit false

/-! What a binary tells of takes room in it. Whatever is read was written with at least one byte for
each unit of its weight, and no two parts of a binary share a byte, so that the types, the functions,
the globals and the data of all its modules are no more than its bytes. -/

namespace Inkwell

namespace Wasm

open Codec

variable {α : Type} {c : Codec α} {f : α → Nat} {bs : Octets} {as : List α}

theorem sum_le_length_flatMap {write : α → Octets} (hf : ∀ a, f a ≤ (write a).length)
    (as : List α) : (as.map f).sum ≤ (as.flatMap write).length := by
  induction as with
  | nil => exact Nat.zero_le _
  | cons a as ih =>
    rw [List.map_cons, List.sum_cons, List.flatMap_cons, List.length_append]
    exact Nat.add_le_add (hf a) ih

theorem sum_le_of_list (hc : c.Settles id) (hf : ∀ a, f a ≤ (c.write a).length)
    (h : c.list.readAll bs = some as) : (as.map f).sum ≤ bs.length := by
  have hsize : (c.list.write as).length ≤ bs.length := (hc.list_id.all h).1
  have hsum := sum_le_length_flatMap hf as
  simp only [Codec.list, listWithin, List.length_append] at hsize
  omega

theorem sum_ones (as : List α) : (as.map fun _ => 1).sum = as.length := by
  simp

/-! ### Sections -/

namespace RawSection

theorem settles_codec : RawSection.codec.Settles fun s => s :=
  (settles_byte.pair_id settles_blob).renamed fun _ => rfl

theorem length_contents_le (s : RawSection) :
    s.contents.length ≤ (RawSection.codec.write s).length := by
  change s.contents.length ≤ ([s.id] ++ (u32.write s.contents.length ++ s.contents)).length
  simp only [List.length_append]
  omega

theorem sum_contents_le {raw : List RawSection} (h : RawSection.codec.many.readAll bs = some raw) :
    (raw.map (·.contents.length)).sum ≤ bs.length := by
  have hmany := settles_codec.many write_ne_nil
  rw [List.map_id_fun'] at hmany
  exact (sum_le_length_flatMap length_contents_le raw).trans (hmany h).1

end RawSection

/-! ### Modules -/

namespace Module

variable {m : Module} {n : Nat} {id : UInt8}

theorem length_sections_le {s : List (UInt8 × Octets)} {raw : List RawSection}
    (hraw : RawSection.codec.many.readAll bs = some raw) (h : sections? raw = some s) :
    ∀ p ∈ s, p.2.length ≤ bs.length := by
  rw [sections_eq h]
  intro p hp
  obtain ⟨part, hmem, rfl⟩ := List.mem_map.mp hp
  have hlength := List.mem_map_of_mem (f := fun s : RawSection => s.contents.length)
    (List.mem_of_mem_filter hmem)
  exact (List.le_sum_of_mem hlength).trans (RawSection.sum_contents_le hraw)

theorem sum_le_of_part {s : List (UInt8 × Octets)} (hc : c.Settles fun a => a)
    (hf : ∀ a, f a ≤ (c.write a).length) (hs : ∀ p ∈ s, p.2.length ≤ n)
    (h : part? s id c.list [] = some as) : (as.map f).sum ≤ n := by
  unfold part? at h
  cases hlookup : s.lookup id with
  | none =>
    rw [hlookup] at h
    obtain rfl := Option.some.inj h
    exact Nat.zero_le n
  | some bs =>
    rw [hlookup] at h
    obtain ⟨p, q, rfl, -⟩ := List.lookup_eq_some_iff.mp hlookup
    exact (sum_le_of_list hc hf h).trans (hs (id, bs) (by simp))

structure Within (m : Module) (n : Nat) : Prop where
  types : m.types.length ≤ n
  functions : m.functions.length ≤ n
  globals : m.globals.length ≤ n
  data : (m.data.map (·.bytes.length)).sum ≤ n

theorem one_le_tagged {α : Type} (lead : α → UInt8) (after : UInt8 → Codec α) (a : α) :
    1 ≤ ((Codec.byte.tagged lead after).write a).length := by
  simp [tagged, byte]

theorem one_le_global (g : Global) : 1 ≤ (Global.codec.write g).length := by
  have hcontent := one_le_tagged ValType.lead ValType.afterLead g.type.content
  change 1 ≤ ((ValType.codec.write g.type.content ++ _) ++ _).length
  simp only [List.length_append]
  exact hcontent.trans (by rw [Nat.add_assoc]; exact Nat.le_add_right _ _)

theorem one_le_u32 (i : Nat) : 1 ≤ (u32.write i).length :=
  List.length_pos_iff.mpr (Leb.unsigned_ne_nil i)

theorem length_bytes_le (d : DataSegment) : d.bytes.length ≤ (DataSegment.codec.write d).length := by
  change d.bytes.length ≤ (_ ++ (_ ++ (_ ++ d.bytes))).length
  simp only [List.length_append]
  omega

theorem within_of_read (h : read? bs = some m) : m.Within bs.length := by
  obtain ⟨-, raw, s, hraw, hsections, hm⟩ := read_iff.mp h
  have hdrop : (bs.drop header.length).length ≤ bs.length := by simp
  have hs : ∀ p ∈ s, p.2.length ≤ bs.length :=
    fun p hp => (length_sections_le hraw hsections p hp).trans hdrop
  have hparts := parted hm
  have htypes := sum_le_of_part RecGroup.settles_codec (one_le_tagged _ _) hs hparts.types
  have hfunctions := sum_le_of_part settles_u32 one_le_u32 hs hparts.functions
  have hglobals := sum_le_of_part Global.settles_codec one_le_global hs hparts.globals
  rw [sum_ones] at htypes hfunctions hglobals
  exact ⟨htypes, hfunctions, hglobals,
    sum_le_of_part DataSegment.settles_codec length_bytes_le hs hparts.data⟩

end Module

/-! ### Components -/

theorem Core.module_of_read {c : Core} (h : Core.read? bs = some c) :
    Module.read? bs = some c.module := by
  obtain ⟨m, hm, h⟩ := Option.bind_eq_some_iff.mp h
  obtain ⟨raw, -, h⟩ := Option.bind_eq_some_iff.mp h
  obtain ⟨-, heq⟩ := Option.ite_none_right_eq_some.mp h
  rw [hm, ← Option.some.inj heq]

theorem Component.modules_addSection {nested : Octets → Option Component} {c c' : Component}
    {s : RawSection} (h : addSection nested c s = some c') : c'.modules = c.modules ∨
      (∃ m, Module.read? s.contents = some m.module ∧ c'.modules = c.modules ++ [m]) ∨
      ∃ inner, nested s.contents = some inner ∧ c'.modules = c.modules ++ inner.modules := by
  unfold addSection at h
  split at h
  case h_2 =>
    obtain ⟨core, hcore, heq⟩ := Option.bind_eq_some_iff.mp h
    exact .inr (.inl ⟨core, Core.module_of_read hcore, by rw [← Option.some.inj heq]⟩)
  case h_3 =>
    obtain ⟨inner, hinner, heq⟩ := Option.bind_eq_some_iff.mp h
    exact .inr (.inr ⟨inner, hinner, by rw [← Option.some.inj heq]⟩)
  case h_4 =>
    obtain ⟨types, -, heq⟩ := Option.bind_eq_some_iff.mp h
    exact .inl (by rw [← Option.some.inj heq])
  all_goals first
    | cases h
    | obtain ⟨-, heq⟩ := Option.ite_none_right_eq_some.mp h
      exact .inl (by rw [← Option.some.inj heq])

section

variable {weight : Module → Nat}
  (hweight : ∀ {bs m}, Module.read? bs = some m → weight m ≤ bs.length)
include hweight

namespace Component

variable {c c' : Component} {nested : Octets → Option Component}

/-- The modules that a section holds take room in it. -/
theorem sum_addSection_le {s : RawSection}
    (hnested : ∀ {bs c}, nested bs = some c → (c.modules.map fun m => weight m.module).sum ≤ bs.length)
    (h : addSection nested c s = some c') :
    (c'.modules.map fun m => weight m.module).sum ≤
      (c.modules.map fun m => weight m.module).sum + s.contents.length := by
  rcases modules_addSection h with hsame | ⟨m, hm, hadds⟩ | ⟨inner, hinner, hadds⟩
  · rw [hsame]
    exact Nat.le_add_right _ _
  · simpa [hadds] using hweight hm
  · simpa [hadds] using hnested hinner

theorem sum_foldlM_addSection_le {raw : List RawSection}
    (hnested : ∀ {bs c}, nested bs = some c → (c.modules.map fun m => weight m.module).sum ≤ bs.length)
    (h : raw.foldlM (addSection nested) c = some c') : (c'.modules.map fun m => weight m.module).sum ≤
      (c.modules.map fun m => weight m.module).sum + (raw.map (·.contents.length)).sum := by
  induction raw generalizing c with
  | nil =>
    obtain rfl := Option.some.inj h
    exact Nat.le_refl _
  | cons s raw ih =>
    rw [List.foldlM_cons] at h
    obtain ⟨mid, hmid, h⟩ := Option.bind_eq_some_iff.mp h
    have hfirst := sum_addSection_le hweight hnested hmid
    have hrest := ih h
    rw [List.map_cons, List.sum_cons]
    omega

theorem sum_readWithin_le {depth : Nat} (h : readWithin? depth bs = some c) :
    (c.modules.map fun m => weight m.module).sum ≤ bs.length := by
  induction depth generalizing bs c with
  | zero => cases h
  | succ depth ih =>
    obtain ⟨-, h⟩ := Option.ite_none_right_eq_some.mp h
    obtain ⟨raw, hraw, h⟩ := Option.bind_eq_some_iff.mp h
    have hmodules := sum_foldlM_addSection_le hweight (fun h => ih h) h
    have hraw := RawSection.sum_contents_le hraw
    rw [List.length_drop] at hraw
    exact hmodules.trans (by simpa using hraw.trans (Nat.sub_le _ _))

end Component

theorem Binary.sum_le {b : Binary} (h : Binary.read? bs = some b) :
    (b.modules.map fun m => weight m.module).sum ≤ bs.length := by
  unfold Binary.read? at h
  split at h
  · obtain ⟨c, hc, rfl⟩ := Option.map_eq_some_iff.mp h
    exact Component.sum_readWithin_le hweight hc
  · obtain ⟨m, hm, h⟩ := Option.bind_eq_some_iff.mp h
    obtain ⟨-, heq⟩ := Option.ite_none_right_eq_some.mp h
    obtain rfl := Option.some.inj heq
    simpa [Binary.modules] using hweight hm

end

end Wasm

/-! ### Outlines -/

namespace Outline

open Wasm

variable {debug : Bool} {o o' : Outline} {m : Core} {wasm : Octets}

theorem length_mapM_plainType {gs : List RecGroup} {ts : List FuncType}
    (h : gs.mapM plainType? = some ts) : ts.length = gs.length := by
  induction gs generalizing ts with
  | nil =>
    obtain rfl := Option.some.inj h
    rfl
  | cons g gs ih =>
    rw [List.mapM_cons] at h
    obtain ⟨t, -, h⟩ := Option.bind_eq_some_iff.mp h
    obtain ⟨ts', hts', heq⟩ := Option.bind_eq_some_iff.mp h
    obtain rfl := Option.some.inj heq
    rw [List.length_cons, List.length_cons, ih hts']

/-- There are no more types, functions, globals and data than this. -/
structure Within (o : Outline) (n : Nat) : Prop where
  types : o.types.length ≤ n
  functions : o.functions.length ≤ n
  globals : o.globals ≤ n
  data : o.dataSize ≤ n

structure Adds (o : Outline) (m : Module) (o' : Outline) : Prop where
  types : o'.types.length = o.types.length + m.types.length
  functions : o'.functions.length = o.functions.length + m.functions.length
  globals : o'.globals ≤ o.globals + m.globals.length
  data : o'.dataSize = o.dataSize + (m.data.map (·.bytes.length)).sum

theorem adds_of_addModule (h : addModule debug o m = .ok o') : o.Adds m.module o' := by
  unfold addModule at h
  dsimp only at h
  cases htypes : m.module.types.mapM plainType? with
  | none =>
    rw [htypes] at h
    cases h
  | some ts =>
    rw [htypes] at h
    cases himports : checkImports debug m.module.imports with
    | error e =>
      rw [himports] at h
      cases h
    | ok u =>
      rw [himports] at h
      change Except.ok (m.module.exports.foldl addExport _) = .ok o' at h
      rw [foldl_addExport] at h
      obtain rfl := Except.ok.inj h
      have hlength := length_mapM_plainType htypes
      refine ⟨?_, ?_, ?_, rfl⟩
      · simp [hlength]
      · simp
      · dsimp only
        split <;> omega

theorem count_foldlM_le {count : Outline → Nat} {weight : Module → Nat} {ms : List Core}
    (hadds : ∀ {o m o'}, Adds o m o' → count o' ≤ count o + weight m)
    (h : ms.foldlM (addModule debug) o = .ok o') :
    count o' ≤ count o + (ms.map fun m => weight m.module).sum := by
  induction ms generalizing o with
  | nil =>
    obtain rfl := Except.ok.inj h
    exact Nat.le_add_right _ _
  | cons m ms ih =>
    rw [List.foldlM_cons] at h
    obtain ⟨mid, hmid, h⟩ := Except.bind_eq_ok.mp h
    have hfirst := hadds (adds_of_addModule hmid)
    have hrest := ih h
    rw [List.map_cons, List.sum_cons]
    omega

/-- What every module adds takes room in the binary, so what all of them add does too. -/
theorem le_of_outline {count : Outline → Nat} {weight : Module → Nat} (hstart : count {} = 0)
    (hweight : ∀ {bs m}, Module.read? bs = some m → weight m ≤ bs.length)
    (hadds : ∀ {o m o'}, Adds o m o' → count o' ≤ count o + weight m)
    (h : outline debug wasm = .ok o) : count o ≤ wasm.length := by
  unfold outline at h
  cases hb : Binary.read? wasm with
  | none =>
    rw [hb] at h
    cases h
  | some b =>
    rw [hb] at h
    have hcount := count_foldlM_le hadds h
    rw [hstart, Nat.zero_add] at hcount
    exact hcount.trans (Binary.sum_le hweight hb)

theorem within_of_outline (h : outline debug wasm = .ok o) : o.Within wasm.length where
  types := le_of_outline rfl (fun hm => (Module.within_of_read hm).types)
    (fun ha => ha.types.le) h
  functions := le_of_outline rfl (fun hm => (Module.within_of_read hm).functions)
    (fun ha => ha.functions.le) h
  globals := le_of_outline rfl (fun hm => (Module.within_of_read hm).globals)
    (fun ha => ha.globals) h
  data := le_of_outline rfl (fun hm => (Module.within_of_read hm).data) (fun ha => ha.data.le) h

end Outline
end Inkwell
