import Inkwell.Wasm.Module
import Inkwell.Proofs.InstructionForms
import Inkwell.Proofs.Locals
set_option autoImplicit false

/-! The forms of the parts of a module settle; a body comes back with its locals merged. -/

namespace Inkwell.Wasm

open Codec

variable {bs rest : Octets}

/-! ### Imports and exports -/

namespace ExternKind

theorem octet_eq {b : UInt8} {k : ExternKind} (h : ofOctet? b = some k) : k.octet = b := by
  unfold ofOctet? at h
  split at h <;> cases h <;> rfl

theorem settles_codec : codec.Settles id :=
  settles_byte.convert fun _ _ h => ⟨octet_eq h, h⟩

end ExternKind

theorem settles_tag : tagCodec.Settles id := by
  refine ((settles_byte.guarded _).pair_id settles_u32).convert_where (p := fun p => p.1 = 0) ?_ ?_
  · rintro bs ⟨b, i⟩ rest h
    obtain ⟨mid, hb, -⟩ := read_pair_iff.mp h
    exact of_decide_eq_true (read_guarded_iff.mp hb).2
  · rintro ⟨b, i⟩ j hb hj
    obtain rfl : b = 0 := hb
    obtain rfl : i = j := Option.some.inj hj
    exact ⟨rfl, rfl⟩

namespace ImportType

theorem settles_codec : codec.Settles id := by
  refine ExternKind.settles_codec.tagged fun bs k mid hk => ?_
  have htag := ExternKind.settles_codec.back hk
  cases k with
  | func => exact retags_renamed rfl settles_u32 htag (fun _ => rfl) fun _ => rfl
  | table => exact retags_renamed rfl TableType.settles_codec htag (fun _ => rfl) fun _ => rfl
  | memory => exact retags_renamed rfl MemoryType.settles_codec htag (fun _ => rfl) fun _ => rfl
  | global => exact retags_renamed rfl GlobalType.settles_codec htag (fun _ => rfl) fun _ => rfl
  | tag => exact retags_renamed rfl settles_tag htag (fun _ => rfl) fun _ => rfl

end ImportType

theorem Import.settles_codec : Import.codec.Settles id :=
  ((settles_name.pair_id settles_name).pair_id ImportType.settles_codec).renamed fun _ => rfl

theorem Export.settles_codec : Export.codec.Settles id :=
  ((settles_name.pair_id ExternKind.settles_codec).pair_id settles_u32).renamed fun _ => rfl

/-! ### Tables and globals -/

theorem RefType.lead_ne (r : RefType) : r.lead ≠ 0x40 := (ValType.isLead_lead (.ref r)).2

theorem Table.settles_codec : Table.codec.Settles id := by
  refine settles_peek fun b => ?_
  by_cases hinit : b = 0x40
  · subst hinit
    refine heads_renamed (if_pos rfl) (((settles_octets 2).guarded _).pair_id
      (TableType.settles_codec.pair_id Initializer.settles_codec)) ?_
    rintro bs ⟨mark, t, init⟩ rest hread
    obtain ⟨mid, hmark, -⟩ := read_pair_iff.mp hread
    obtain rfl : mark = [0x40, 0x00] := of_decide_eq_true (read_guarded_iff.mp hmark).2
    exact ⟨0x40, _, rfl, rfl, rfl⟩
  · refine heads_renamed (if_neg hinit) TableType.settles_codec fun bs t rest _ => ?_
    exact ⟨t.element.lead, _, rfl, rfl, by simp only [if_neg hinit, if_neg t.element.lead_ne]⟩

theorem Global.settles_codec : Global.codec.Settles id :=
  (GlobalType.settles_codec.pair_id Initializer.settles_codec).renamed fun _ => rfl

/-! ### Segments -/

namespace Element

def modeFlags : ElementMode → Nat
  | .active none _ => 0
  | .passive => 1
  | .active (some _) _ => 2
  | .declared => 3

def itemFlags : ElementItems → Nat
  | .functions _ => 0
  | .expressions _ _ => 4

theorem settles_mode (n : Nat) : (modeCodec n).Settles id := by
  unfold modeCodec
  split
  · exact Initializer.settles_codec.renamed fun _ => rfl
  · exact settles_nothing _
  · exact (settles_u32.pair_id Initializer.settles_codec).renamed fun _ => rfl
  · exact settles_nothing _

theorem of_mode {n : Nat} {m : ElementMode} (h : (modeCodec n).read bs = some (m, rest)) :
    modeFlags m = n % 4 := by
  obtain hn | hn | hn | hn : n % 4 = 0 ∨ n % 4 = 1 ∨ n % 4 = 2 ∨ n % 4 = 3 := by omega
  all_goals simp only [modeCodec, hn] at h
  · obtain ⟨o, -, rfl⟩ := read_renamed_iff.mp h
    exact hn.symm
  · obtain ⟨rfl, -⟩ := Prod.mk.inj (Option.some.inj h)
    exact hn.symm
  · obtain ⟨p, -, rfl⟩ := read_renamed_iff.mp h
    exact hn.symm
  · obtain ⟨rfl, -⟩ := Prod.mk.inj (Option.some.inj h)
    exact hn.symm

theorem itemsCodec_cases (n : Nat) :
    (n < 4 ∧ itemsCodec n = u32.list.convert (fun fs => some (.functions fs)) functionsOf) ∨
    (n < 4 ∧ itemsCodec n = ((byte.guarded (· = 0)).pair u32.list).convert
      (fun p => some (.functions p.2)) fun e => (0, functionsOf e)) ∨
    (¬n < 4 ∧ itemsCodec n = Initializer.codec.list.convert
      (fun es => some (.expressions .func es)) fun e => (expressionsOf e).2) ∨
    (¬n < 4 ∧ itemsCodec n = (RefType.codec.pair Initializer.codec.list).convert
      (fun p => some (.expressions p.1 p.2)) expressionsOf) := by
  by_cases hitems : n < 4 <;> by_cases hmode : n % 4 = 0 <;> simp [itemsCodec, hitems, hmode]

theorem settles_items (n : Nat) : (itemsCodec n).Settles id := by
  have hfunctions := settles_u32.list_id
  have hexpressions := Initializer.settles_codec.list_id
  obtain ⟨-, h⟩ | ⟨-, h⟩ | ⟨-, h⟩ | ⟨-, h⟩ := itemsCodec_cases n
  all_goals rw [h]
  · exact hfunctions.renamed fun _ => rfl
  · refine ((settles_byte.guarded _).pair_id hfunctions).convert_where (p := fun p => p.1 = 0) ?_ ?_
    · rintro bs ⟨b, fs⟩ rest hread
      obtain ⟨mid, hb, -⟩ := read_pair_iff.mp hread
      exact of_decide_eq_true (read_guarded_iff.mp hb).2
    · rintro ⟨b, fs⟩ items hb hitems
      obtain rfl : b = 0 := hb
      obtain rfl := Option.some.inj hitems
      exact ⟨rfl, rfl⟩
  · exact hexpressions.renamed fun _ => rfl
  · exact (RefType.settles_codec.pair_id hexpressions).renamed fun _ => rfl

theorem of_items {n : Nat} {items : ElementItems}
    (h : (itemsCodec n).read bs = some (items, rest)) :
    itemFlags items = if n < 4 then 0 else 4 := by
  obtain ⟨hn, hcodec⟩ | ⟨hn, hcodec⟩ | ⟨hn, hcodec⟩ | ⟨hn, hcodec⟩ := itemsCodec_cases n
  all_goals
    rw [hcodec] at h
    obtain ⟨a, -, rfl⟩ := read_renamed_iff.mp h
  · exact (if_pos hn).symm
  · exact (if_pos hn).symm
  · exact (if_neg hn).symm
  · exact (if_neg hn).symm

theorem settles_codec : codec.Settles id := by
  refine (settles_u32.guarded _).tagged fun bs n mid hn => ?_
  have hbound : n < 8 := of_decide_eq_true (read_guarded_iff.mp hn).2
  refine retags_same (((settles_mode n).pair_id (settles_items n)).renamed fun _ => rfl)
    ((settles_u32.guarded _).back hn) fun bs e rest hread => ?_
  obtain ⟨⟨m, items⟩, hpair, rfl⟩ := read_renamed_iff.mp hread
  obtain ⟨mid, hm, hitems⟩ := read_pair_iff.mp hpair
  change modeFlags m + itemFlags items = n
  rw [of_mode hm, of_items hitems]
  split <;> omega

end Element

namespace DataSegment

def body (n : Nat) : Codec DataSegment :=
  ((modeCodec n).pair .blob).convert (fun p => some ⟨p.1, p.2⟩) fun d => (d.mode, d.bytes)

theorem settles_mode (n : Nat) : (modeCodec n).Settles id := by
  unfold modeCodec
  split
  · exact Initializer.settles_codec.renamed fun _ => rfl
  · exact settles_nothing _
  · exact (settles_u32.pair_id Initializer.settles_codec).renamed fun _ => rfl

theorem settles_body (n : Nat) : (body n).Settles id :=
  ((settles_mode n).pair_id settles_blob).renamed fun _ => rfl

theorem tag_returns {n : Nat} (h : n < 3) : (u32.guarded (· < 3)).Returns n :=
  (u32_returns (by omega)).guarded (decide_eq_true h)

theorem modeCodec_indexed : modeCodec 2 = (u32.pair Initializer.codec).convert
    (fun p => some (.active p.1 p.2)) fun
    | .active m o => (m, o)
    | .passive => (0, []) := rfl

theorem retags_indexed : Retags (u32.guarded (· < 3)) flags body 2 := by
  intro bs d rest hread
  obtain ⟨⟨mode, bytes⟩, hparts, rfl⟩ := read_renamed_iff.mp hread
  obtain ⟨mid, hmode, hbytes⟩ := read_pair_iff.mp hparts
  rw [modeCodec_indexed] at hmode
  obtain ⟨⟨i, offset⟩, hactive, rfl⟩ := read_renamed_iff.mp hmode
  cases i with
  | succ i => exact retag_same (settles_body 2) (tag_returns (by decide)) hread rfl
  | zero =>
    obtain ⟨mid', hi, ho⟩ := read_pair_iff.mp hactive
    have hisize := settles_u32.size hi
    have hosize := Initializer.settles_codec.size ho
    have hbsize := settles_blob.size hbytes
    have hmodeBack : (modeCodec 0).Returns (.active 0 offset) :=
      (Initializer.settles_codec.back ho).renamed rfl
    have hback : (body 0).Returns ⟨.active 0 offset, bytes⟩ :=
      fun rest => read_renamed_iff.mpr ⟨_, (hmodeBack.pair (settles_blob.back hbytes)) rest, rfl⟩
    refine ⟨?_, tag_returns (show 0 < 3 by decide), hback⟩
    have htag := length_u32_mono (show 0 ≤ 2 by decide)
    have hwrite : (body 0).write ⟨.active 0 offset, bytes⟩ =
      Initializer.codec.write offset ++ blob.write bytes := rfl
    change ((u32.guarded (· < 3)).write 0).length +
      ((body 0).write ⟨.active 0 offset, bytes⟩).length + _ ≤ _
    rw [hwrite, List.length_append]
    simp only [Codec.guarded, Codec.convert, id]
    omega

theorem retags {n : Nat} (hn : n < 3) : Retags (u32.guarded (· < 3)) flags body n := by
  obtain rfl | rfl | rfl : n = 0 ∨ n = 1 ∨ n = 2 := by omega
  · refine retags_same (settles_body 0) (tag_returns hn) fun bs d rest hread => ?_
    obtain ⟨⟨mode, bytes⟩, hparts, rfl⟩ := read_renamed_iff.mp hread
    obtain ⟨mid, hmode, -⟩ := read_pair_iff.mp hparts
    obtain ⟨offset, -, rfl⟩ := read_renamed_iff.mp hmode
    rfl
  · refine retags_same (settles_body 1) (tag_returns hn) fun bs d rest hread => ?_
    obtain ⟨⟨mode, bytes⟩, hparts, rfl⟩ := read_renamed_iff.mp hread
    obtain ⟨mid, hmode, -⟩ := read_pair_iff.mp hparts
    obtain ⟨rfl, -⟩ := Prod.mk.inj (Option.some.inj hmode)
    rfl
  · exact retags_indexed

theorem settles_codec : codec.Settles id := by
  change (tagged (u32.guarded (· < 3)) flags body).Settles id
  exact Settles.tagged (settles_u32.guarded _) fun _ _ _ hn =>
    retags (of_decide_eq_true (read_guarded_iff.mp hn).2)

end DataSegment

/-! ### Bodies -/

def Body.settled (b : Body) : Body := { b with locals := settledLocals b.locals }

theorem Body.settled_of_sum {b : Body} (h : (b.locals.map (·.1)).sum < 2 ^ 32) :
    b.settled = b.canonical := by
  rw [Body.settled, settledLocals, if_pos h, Body.canonical]

theorem Body.settles_codec : Body.codec.Settles Body.settled := by
  have hcode := Instruction.settles_codec.many Instruction.write_ne_nil
  rw [List.map_id_fun] at hcode
  refine SettlesAll.sized ((settles_locals.pairAll hcode).renamed fun p => ⟨rfl, rfl⟩)

/-! ### Sections -/

namespace RawSection

theorem write_ne_nil (s : RawSection) : RawSection.codec.write s ≠ [] := by
  simp [codec, Codec.convert, pair, byte]

theorem returns {s : RawSection} (h : s.contents.length < 2 ^ 32) : RawSection.codec.Returns s :=
  fun rest => read_renamed_iff.mpr ⟨_, (byte_returns s.id).pair (blob_returns h) rest, rfl⟩

theorem length_of_read {s : RawSection} (h : RawSection.codec.read bs = some (s, rest)) :
    s.contents.length < 2 ^ 32 := by
  obtain ⟨p, hp, rfl⟩ := read_renamed_iff.mp h
  obtain ⟨mid, -, hcontents⟩ := read_pair_iff.mp hp
  exact (read_blob_iff.mp hcontents).1

end RawSection
end Inkwell.Wasm
