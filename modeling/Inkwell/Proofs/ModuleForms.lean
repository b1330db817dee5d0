import Inkwell.Proofs.PartForms
set_option autoImplicit false

/-! A module is written as a header and one section for each part that is not empty, and reads back
from them. -/

namespace Inkwell.Wasm.Module

open Codec

variable {α : Type} {c : Codec α} {f : α → α} {as : List α} {bs rest : Octets} {m : Module} {id : UInt8}

/-! ### Sections -/

def contents? (c : Codec α) (as : List α) : Option Octets :=
  if as.isEmpty then none else some (c.list.write as)

/-- The sections of a module in their order, those left out included. -/
def parts (m : Module) : List (UInt8 × Option Octets) :=
  [(1, contents? RecGroup.codec m.types), (2, contents? Import.codec m.imports),
   (3, contents? u32 m.functions), (4, contents? Table.codec m.tables),
   (5, contents? MemoryType.codec m.memories), (13, contents? tagCodec m.tags),
   (6, contents? Global.codec m.globals), (7, contents? Export.codec m.exports),
   (8, m.start.map u32.write), (9, contents? Element.codec m.elements),
   (12, m.dataCount.map u32.write), (10, contents? Body.codec m.code),
   (11, contents? DataSegment.codec m.data)]

def present (ps : List (UInt8 × Option Octets)) : List RawSection :=
  ps.filterMap fun p => p.2.map (⟨p.1, ·⟩)

theorem present_cons (id : UInt8) (o : Option Octets) (ps : List (UInt8 × Option Octets)) :
    present ((id, o) :: ps) = (o.elim [] fun bs => [⟨id, bs⟩]) ++ present ps := by
  cases o <;> rfl

theorem listed_eq (id : UInt8) (c : Codec α) (as : List α) : listed id c as =
    (contents? c as).elim [] fun bs => RawSection.codec.write ⟨id, bs⟩ := by
  unfold listed contents?
  split <;> rfl

theorem item_eq (id : UInt8) (i : Option Nat) : item id i =
    (i.map u32.write).elim [] fun bs => RawSection.codec.write ⟨id, bs⟩ := by
  cases i <;> rfl

theorem flatMap_elim (id : UInt8) (o : Option Octets) :
    (o.elim [] fun bs => [(⟨id, bs⟩ : RawSection)]).flatMap RawSection.codec.write =
      o.elim [] fun bs => RawSection.codec.write ⟨id, bs⟩ := by
  cases o <;> simp

theorem write_eq (m : Module) :
    m.write = header ++ RawSection.codec.many.write (present m.parts) := by
  change _ = header ++ (present m.parts).flatMap RawSection.codec.write
  simp only [write, listed_eq, item_eq, parts, present_cons, List.flatMap_append, flatMap_elim,
    List.append_assoc]
  simp [present]

/-! ### Order -/

def ids : List UInt8 := [1, 2, 3, 4, 5, 13, 6, 7, 8, 9, 12, 10, 11]

theorem ids_parts (m : Module) : m.parts.map (·.1) = ids := rfl

theorem present_sublist (ps : List (UInt8 × Option Octets)) :
    ((present ps).map (·.id)).Sublist (ps.map (·.1)) := by
  induction ps with
  | nil => exact .slnil
  | cons p ps ih =>
    obtain ⟨id, _ | bs⟩ := p
    · exact ih.cons id
    · exact ih.cons_cons id

def rank (id : UInt8) : Nat := (rank? id).getD 0

theorem ids_ranked : ∀ id ∈ ids, id ≠ 0 ∧ rank? id = some (rank id) := by
  simp [ids, rank, rank?]

theorem ids_ascending : (ids.map rank).Pairwise (· < ·) := by decide

theorem ascending_of_pairwise {ns : List Nat} (h : ns.Pairwise (· < ·)) : ascending ns = true := by
  induction ns with
  | nil => rfl
  | cons n ns ih =>
    cases ns with
    | nil => rfl
    | cons k ns =>
      obtain ⟨hfirst, hrest⟩ := List.pairwise_cons.mp h
      simp [ascending, hfirst k (by simp), ih hrest]

theorem mapM_rank {raw : List RawSection} (h : ∀ s ∈ raw, rank? s.id = some (rank s.id)) :
    (raw.mapM fun s => rank? s.id) = some (raw.map fun s => rank s.id) := by
  induction raw with
  | nil => rfl
  | cons s raw ih =>
    obtain ⟨hs, hraw⟩ := List.forall_mem_cons.mp h
    simp [List.mapM_cons, hs, ih hraw]

theorem sections_of_sublist {raw : List RawSection} (h : (raw.map (·.id)).Sublist ids) :
    sections? raw = some (raw.map fun s => (s.id, s.contents)) := by
  have hranked : ∀ s ∈ raw, s.id ≠ 0 ∧ rank? s.id = some (rank s.id) := fun s hs =>
    ids_ranked _ (h.subset (List.mem_map_of_mem hs))
  have hcustom : raw.filter (fun s => decide (s.id = 0)) = [] := by
    simpa using fun s hs => (hranked s hs).1
  have hknown : raw.filter (fun s => decide (s.id ≠ 0)) = raw := by
    simpa using fun s hs => (hranked s hs).1
  have hascending : ascending (raw.map fun s => rank s.id) = true := by
    refine ascending_of_pairwise (ids_ascending.sublist ?_)
    simpa [Function.comp_def] using h.map rank
  simp only [sections?, hcustom, hknown, mapM_rank fun s hs => (hranked s hs).2]
  simp [hascending]

theorem lookup_none {ps : List (UInt8 × Option Octets)} (h : id ∉ ps.map (·.1)) :
    ps.lookup id = none :=
  List.lookup_eq_none_iff.mpr fun p hp => by
    have hne : id ≠ p.1 := by
      rintro rfl
      exact h (List.mem_map_of_mem hp)
    simpa using hne

theorem lookup_present {ps : List (UInt8 × Option Octets)} (h : (ps.map (·.1)).Nodup) (id : UInt8) :
    ((present ps).map fun s => (s.id, s.contents)).lookup id = (ps.lookup id).join := by
  induction ps with
  | nil => rfl
  | cons p ps ih =>
    obtain ⟨key, o⟩ := p
    obtain ⟨hkey, hps⟩ := List.nodup_cons.mp h
    have hrest := ih hps
    rw [present_cons, List.lookup_cons]
    by_cases hid : id = key
    · subst hid
      cases o with
      | none => simpa [lookup_none hkey] using hrest
      | some bs => simp
    · cases o <;> simpa [List.lookup_cons, beq_false_of_ne hid] using hrest

/-! ### Reading back -/

def Keeps (c : Codec α) (as : List α) : Prop :=
  as ≠ [] → c.list.readAll (c.list.write as) = some as ∧ (c.list.write as).length < 2 ^ 32

/-- A module whose parts are kept by their sections. -/
structure Kept (m : Module) : Prop where
  types : Keeps RecGroup.codec m.types
  imports : Keeps Import.codec m.imports
  functions : Keeps u32 m.functions
  tables : Keeps Table.codec m.tables
  memories : Keeps MemoryType.codec m.memories
  tags : Keeps tagCodec m.tags
  globals : Keeps Global.codec m.globals
  exports : Keeps Export.codec m.exports
  start : ∀ i ∈ m.start, i < 2 ^ 32
  elements : Keeps Element.codec m.elements
  dataCount : ∀ n ∈ m.dataCount, n < 2 ^ 32
  code : Keeps Body.codec m.code
  data : Keeps DataSegment.codec m.data

theorem Keeps.length (h : Keeps c as) : ∀ bs ∈ contents? c as, bs.length < 2 ^ 32 := by
  unfold contents?
  cases as with
  | nil => exact nofun
  | cons a as =>
    rintro _ ⟨⟩
    exact (h nofun).2

theorem length_item {i : Option Nat} (h : ∀ n ∈ i, n < 2 ^ 32) :
    ∀ bs ∈ i.map u32.write, bs.length < 2 ^ 32 := by
  cases i with
  | none => exact nofun
  | some n =>
    rintro _ ⟨⟩
    have hn := h n rfl
    have hlength := Leb.length_unsigned (k := 4) (v := n) (by omega)
    exact hlength.trans_lt (by decide)

theorem Kept.lengths (h : m.Kept) : ∀ s ∈ present m.parts, s.contents.length < 2 ^ 32 := by
  have hparts : ∀ p ∈ m.parts, ∀ bs ∈ p.2, bs.length < 2 ^ 32 := by
    simp only [parts, List.forall_mem_cons]
    exact ⟨h.types.length, h.imports.length, h.functions.length, h.tables.length,
      h.memories.length, h.tags.length, h.globals.length, h.exports.length, length_item h.start,
      h.elements.length, length_item h.dataCount, h.code.length, h.data.length, nofun⟩
  intro s hs
  obtain ⟨p, hp, hs⟩ := List.mem_filterMap.mp hs
  obtain ⟨bs, hbs, rfl⟩ := Option.map_eq_some_iff.mp hs
  exact hparts p hp bs hbs

theorem part_list {s : List (UInt8 × Octets)} (hs : s.lookup id = contents? c as) (h : Keeps c as) :
    part? s id c.list [] = some as := by
  rw [part?, hs, contents?]
  cases as with
  | nil => rfl
  | cons a as => exact (h nofun).1

theorem part_item {s : List (UInt8 × Octets)} {i : Option Nat} (hs : s.lookup id = i.map u32.write)
    (h : ∀ n ∈ i, n < 2 ^ 32) : part? s id (optional u32) none = some i := by
  rw [part?, hs]
  cases i with
  | none => rfl
  | some n =>
    have hback := (u32_returns (h n rfl)) []
    rw [List.append_nil] at hback
    exact readAll_eq_some.mpr (by simp [optional, hback])

theorem Kept.ofSections (h : m.Kept) :
    ofSections? ((present m.parts).map fun s => (s.id, s.contents)) = some m := by
  have hnodup : (m.parts.map (·.1)).Nodup := by
    rw [ids_parts]
    decide
  have hlookup := lookup_present hnodup
  simp only [ofSections?, part_list (hlookup 1) h.types, part_list (hlookup 2) h.imports,
    part_list (hlookup 3) h.functions, part_list (hlookup 4) h.tables,
    part_list (hlookup 5) h.memories, part_list (hlookup 13) h.tags,
    part_list (hlookup 6) h.globals, part_list (hlookup 7) h.exports,
    part_item (hlookup 8) h.start, part_list (hlookup 9) h.elements,
    part_item (hlookup 12) h.dataCount, part_list (hlookup 10) h.code,
    part_list (hlookup 11) h.data]
  rfl

theorem readAll_sections (h : m.Kept) :
    RawSection.codec.many.readAll (m.write.drop header.length) = some (present m.parts) := by
  rw [write_eq, List.drop_left]
  exact many_returns (fun s hs => RawSection.returns (h.lengths s hs)) RawSection.write_ne_nil

theorem Kept.read (h : m.Kept) : read? m.write = some m := by
  have hheader : header.isPrefixOf m.write = true := by
    rw [write_eq, List.isPrefixOf_iff_prefix]
    exact List.prefix_append _ _
  have hsections := sections_of_sublist (ids_parts m ▸ present_sublist m.parts)
  rw [read?, if_pos hheader, readBody?, readAll_sections h]
  change (sections? _).bind ofSections? = _
  rw [hsections]
  exact h.ofSections

/-! ### What is read is kept -/

theorem sections_eq {s : List (UInt8 × Octets)} {raw : List RawSection}
    (h : sections? raw = some s) :
    s = (raw.filter fun s => decide (s.id ≠ 0)).map fun s => (s.id, s.contents) := by
  simp only [sections?] at h
  split at h
  · cases h
  · obtain ⟨ranks, -, hranks⟩ := Option.bind_eq_some_iff.mp h
    split at hranks
    · cases hranks
    · exact (Option.some.inj hranks).symm

theorem length_of_sections {s : List (UInt8 × Octets)} {raw : List RawSection}
    (hraw : RawSection.codec.many.readAll bs = some raw) (h : sections? raw = some s) :
    ∀ p ∈ s, p.2.length < 2 ^ 32 := by
  have hlengths : ∀ s ∈ raw, s.contents.length < 2 ^ 32 :=
    forall_of_readMany (fun _ _ _ => RawSection.length_of_read) (List.forall_mem_nil _)
      (readAll_many_iff.mp hraw)
  rw [sections_eq h]
  intro p hp
  obtain ⟨section', hmem, rfl⟩ := List.mem_map.mp hp
  exact hlengths section' (List.mem_of_mem_filter hmem)

theorem length_of_lookup {s : List (UInt8 × Octets)} (hs : ∀ p ∈ s, p.2.length < 2 ^ 32)
    (h : s.lookup id = some bs) : bs.length < 2 ^ 32 := by
  obtain ⟨p, q, rfl, -⟩ := List.lookup_eq_some_iff.mp h
  exact hs (id, bs) (by simp)

theorem keeps_of_part {s : List (UInt8 × Octets)} (hc : c.Settles f)
    (hs : ∀ p ∈ s, p.2.length < 2 ^ 32) (h : part? s id c.list [] = some as) :
    Keeps c (as.map f) := by
  unfold part? at h
  cases hbs : s.lookup id with
  | none =>
    simp only [hbs, Option.some.injEq] at h
    subst h
    exact fun hne => absurd rfl hne
  | some bs =>
    simp only [hbs] at h
    obtain ⟨hsize, hback⟩ := hc.list.all h
    exact fun _ => ⟨hback, hsize.trans_lt (length_of_lookup hs hbs)⟩

theorem keeps_of_part_id {s : List (UInt8 × Octets)} (hc : c.Settles fun a => a)
    (hs : ∀ p ∈ s, p.2.length < 2 ^ 32) (h : part? s id c.list [] = some as) : Keeps c as := by
  have hkeeps := keeps_of_part hc hs h
  rwa [List.map_id_fun'] at hkeeps

theorem item_of_part {s : List (UInt8 × Octets)} {i : Option Nat}
    (h : part? s id (optional u32) none = some i) : ∀ n ∈ i, n < 2 ^ 32 := by
  rintro n rfl
  unfold part? at h
  cases hbs : s.lookup id with
  | none => simp [hbs] at h
  | some bs =>
    simp only [hbs] at h
    have hread := readAll_eq_some.mp h
    simp only [optional, Option.map_eq_some_iff] at hread
    obtain ⟨⟨k, rest⟩, hk, heq⟩ := hread
    obtain ⟨hn, -⟩ := Prod.mk.inj heq
    obtain rfl := Option.some.inj hn
    exact lt_of_read_u32 hk

structure Parted (s : List (UInt8 × Octets)) (m : Module) : Prop where
  types : part? s 1 RecGroup.codec.list [] = some m.types
  imports : part? s 2 Import.codec.list [] = some m.imports
  functions : part? s 3 u32.list [] = some m.functions
  tables : part? s 4 Table.codec.list [] = some m.tables
  memories : part? s 5 MemoryType.codec.list [] = some m.memories
  tags : part? s 13 tagCodec.list [] = some m.tags
  globals : part? s 6 Global.codec.list [] = some m.globals
  exports : part? s 7 Export.codec.list [] = some m.exports
  start : part? s 8 (optional u32) none = some m.start
  elements : part? s 9 Element.codec.list [] = some m.elements
  dataCount : part? s 12 (optional u32) none = some m.dataCount
  code : part? s 10 Body.codec.list [] = some m.code
  data : part? s 11 DataSegment.codec.list [] = some m.data

theorem parted {s : List (UInt8 × Octets)} (h : ofSections? s = some m) : Parted s m := by
  obtain ⟨types, htypes, h⟩ := Option.bind_eq_some_iff.mp h
  obtain ⟨imports, himports, h⟩ := Option.bind_eq_some_iff.mp h
  obtain ⟨functions, hfunctions, h⟩ := Option.bind_eq_some_iff.mp h
  obtain ⟨tables, htables, h⟩ := Option.bind_eq_some_iff.mp h
  obtain ⟨memories, hmemories, h⟩ := Option.bind_eq_some_iff.mp h
  obtain ⟨tags, htags, h⟩ := Option.bind_eq_some_iff.mp h
  obtain ⟨globals, hglobals, h⟩ := Option.bind_eq_some_iff.mp h
  obtain ⟨exports, hexports, h⟩ := Option.bind_eq_some_iff.mp h
  obtain ⟨start, hstart, h⟩ := Option.bind_eq_some_iff.mp h
  obtain ⟨elements, helements, h⟩ := Option.bind_eq_some_iff.mp h
  obtain ⟨dataCount, hdataCount, h⟩ := Option.bind_eq_some_iff.mp h
  obtain ⟨code, hcode, h⟩ := Option.bind_eq_some_iff.mp h
  obtain ⟨data, hdata, h⟩ := Option.bind_eq_some_iff.mp h
  obtain rfl := Option.some.inj h
  exact ⟨htypes, himports, hfunctions, htables, hmemories, htags, hglobals, hexports, hstart,
    helements, hdataCount, hcode, hdata⟩

theorem read_iff : read? bs = some m ↔ header.isPrefixOf bs = true ∧ ∃ raw s,
    RawSection.codec.many.readAll (bs.drop header.length) = some raw ∧ sections? raw = some s ∧
      ofSections? s = some m := by
  simp only [read?, readBody?, Option.ite_none_right_eq_some, Option.bind_eq_bind,
    Option.bind_eq_some_iff]
  constructor
  · rintro ⟨hheader, raw, hraw, s, hs, hm⟩
    exact ⟨hheader, raw, s, hraw, hs, hm⟩
  · rintro ⟨hheader, raw, s, hraw, hs, hm⟩
    exact ⟨hheader, raw, hraw, s, hs, hm⟩

theorem kept_canonical (h : read? bs = some m)
    (hlocals : ∀ b ∈ m.code, (b.locals.map (·.1)).sum < 2 ^ 32) (hdata : m.data.length < 2 ^ 32) :
    m.canonical.Kept := by
  obtain ⟨-, raw, s, hraw, hsections, hm⟩ := read_iff.mp h
  have hs := length_of_sections hraw hsections
  have hparts := parted hm
  have hcode : m.code.map Body.canonical = m.code.map Body.settled :=
    List.map_congr_left fun b hb => (Body.settled_of_sum (hlocals b hb)).symm
  exact {
    types := keeps_of_part_id RecGroup.settles_codec hs hparts.types
    imports := keeps_of_part_id Import.settles_codec hs hparts.imports
    functions := keeps_of_part_id settles_u32 hs hparts.functions
    tables := keeps_of_part_id Table.settles_codec hs hparts.tables
    memories := keeps_of_part_id MemoryType.settles_codec hs hparts.memories
    tags := keeps_of_part_id settles_tag hs hparts.tags
    globals := keeps_of_part_id Global.settles_codec hs hparts.globals
    exports := keeps_of_part_id Export.settles_codec hs hparts.exports
    start := item_of_part hparts.start
    elements := keeps_of_part_id Element.settles_codec hs hparts.elements
    dataCount := by
      intro n hn
      obtain ⟨-, rfl⟩ := Option.ite_some_none_eq_some.mp hn
      exact hdata
    code := by
      have hkeeps := keeps_of_part Body.settles_codec hs hparts.code
      rwa [← hcode] at hkeeps
    data := keeps_of_part_id DataSegment.settles_codec hs hparts.data }

end Inkwell.Wasm.Module
