import Inkwell.Wasm.Types
import Inkwell.Proofs.Codecs
set_option autoImplicit false

/-! The forms of types settle. A value of several spellings comes back in its own one, told by the
byte it starts with. -/

namespace Inkwell.Wasm

open Codec

variable {bs rest : Octets}

theorem settles_typeIndex : typeIndex.Settles id :=
  (settles_signed 33).convert fun i n h => by
    obtain ⟨hpos, hn⟩ := Option.ite_none_right_eq_some.mp h
    obtain rfl := Option.some.inj hn
    exact ⟨Int.toNat_of_nonneg hpos, h⟩

theorem settles_flag : flag.Settles id :=
  settles_byte.convert fun b f h => by
    split at h
    · obtain rfl := Option.some.inj h
      exact ⟨rfl, rfl⟩
    · obtain rfl := Option.some.inj h
      exact ⟨rfl, rfl⟩
    · cases h

/-! ### References -/

theorem AbstractHeap.ofOctet_octet (h : AbstractHeap) : ofOctet? h.octet = some h := by
  cases h <;> rfl

theorem AbstractHeap.octet_eq {b : UInt8} {h : AbstractHeap} (hb : ofOctet? b = some h) :
    h.octet = b := by
  unfold ofOctet? at hb
  split at hb <;> cases hb <;> rfl

theorem AbstractHeap.octet_range (h : AbstractHeap) : 64 < h.octet.toNat ∧ h.octet.toNat < 128 := by
  cases h <;> decide

theorem AbstractHeap.ofOctet_none {b : UInt8} (hb : b.toNat < 64 ∨ 128 ≤ b.toNat) :
    ofOctet? b = Option.none := by
  cases h : ofOctet? b with
  | none => rfl
  | some heap =>
    have hrange := heap.octet_range
    rw [octet_eq h] at hrange
    omega

namespace HeapType

theorem settles_codec : codec.Settles id := by
  refine settles_peek fun b => ?_
  cases hb : AbstractHeap.ofOctet? b with
  | some heap =>
    intro bs h rest hread
    simp only [hb] at hread
    obtain ⟨a, ha, hh⟩ := read_convert_iff.mp hread
    obtain rfl := Option.some.inj hh
    obtain ⟨rfl, rfl⟩ := Prod.mk.inj (Option.some.inj ha)
    refine ⟨by simp [HeapType.octets]; omega, heap.octet, [], rfl, fun rest => ?_⟩
    simp only [heap.ofOctet_octet]
    rfl
  | none =>
    refine heads_renamed (by simp only [hb]; rfl) settles_typeIndex fun bs i rest _ => ?_
    obtain ⟨b', tail, hwrite, hrange⟩ := Leb.head_signed i
    exact ⟨b', tail, hwrite, hwrite, by simp only [AbstractHeap.ofOctet_none hrange, hb]⟩

end HeapType

namespace RefType

theorem afterLead_octet (h : AbstractHeap) : afterLead h.octet = .nothing ⟨true, .abstract h⟩ := by
  cases h <;> rfl

theorem afterLead_nullable :
    afterLead 0x63 = HeapType.codec.convert (fun h => some ⟨true, h⟩) heap := rfl

theorem afterLead_cases (b : UInt8) : b = 0x63 ∨ b = 0x64 ∨
    (∃ r, afterLead b = .nothing r ∧ lead r = b) ∨ afterLead b = .reject := by
  unfold afterLead
  split
  · exact .inl rfl
  · exact .inr (.inl rfl)
  · split
    · next h hb => exact .inr (.inr (.inl ⟨_, rfl, AbstractHeap.octet_eq hb⟩))
    · exact .inr (.inr (.inr rfl))

theorem retags_nullable : Retags byte lead afterLead 0x63 := by
  have hbody : (HeapType.codec.convert (fun h => some ⟨true, h⟩) heap).Settles id :=
    HeapType.settles_codec.renamed fun _ => rfl
  rw [← afterLead_nullable] at hbody
  intro bs r rest hread
  rw [afterLead_nullable] at hread
  obtain ⟨h, hh, rfl⟩ := read_renamed_iff.mp hread
  cases h with
  | abstract h =>
    have hsize := HeapType.settles_codec.size hh
    rw [show lead ⟨true, .abstract h⟩ = h.octet from rfl, afterLead_octet]
    refine ⟨?_, byte_returns _, fun _ => rfl⟩
    simp only [length_byte, nothing, List.length_nil]
    omega
  | concrete i => exact retag_same hbody (byte_returns _) hread rfl

theorem retags (b : UInt8) : Retags byte lead afterLead b := by
  obtain rfl | rfl | ⟨r, hb, hr⟩ | hb := afterLead_cases b
  · exact retags_nullable
  · exact retags_renamed rfl HeapType.settles_codec (byte_returns _) (fun _ => rfl) fun _ => rfl
  · exact retags_nothing hb hr
  · exact retags_reject hb

theorem settles_codec : codec.Settles id := settles_byte.tagged fun _ b _ _ => retags b

end RefType
namespace ValType

theorem afterLead_cases (b : UInt8) : (∃ t, afterLead b = .nothing t ∧ lead t = b) ∨
    afterLead b = (RefType.afterLead b).convert (fun r => some (.ref r)) refOf := by
  unfold afterLead
  split
  · exact .inl ⟨.i32, rfl, rfl⟩
  · exact .inl ⟨.i64, rfl, rfl⟩
  · exact .inl ⟨.f32, rfl, rfl⟩
  · exact .inl ⟨.f64, rfl, rfl⟩
  · exact .inl ⟨.v128, rfl, rfl⟩
  · exact .inr rfl

theorem afterLead_ref (r : RefType) : afterLead r.lead =
    (RefType.afterLead r.lead).convert (fun r => some (.ref r)) refOf := by
  obtain ⟨nullable, heap⟩ := r
  cases nullable with
  | false => rfl
  | true =>
    cases heap with
    | abstract h => cases h <;> rfl
    | concrete i => rfl

theorem retags (b : UInt8) : Retags byte lead afterLead b := by
  obtain ⟨t, hb, ht⟩ | hb := afterLead_cases b
  · exact retags_nothing hb ht
  · exact (RefType.retags b).renamed (fun _ => rfl) (fun _ => rfl) afterLead_ref hb

theorem settles_codec : codec.Settles id := settles_byte.tagged fun _ b _ _ => retags b

end ValType

/-! ### Defined types -/

namespace StorageType

theorem afterLead_cases (b : UInt8) : (∃ s, afterLead b = .nothing s ∧ lead s = b) ∨
    afterLead b = (ValType.afterLead b).convert (fun t => some (.val t)) fun s =>
      match s with
      | .val t => t
      | .packed _ => .i32 := by
  unfold afterLead
  split
  · exact .inl ⟨.packed .i8, rfl, rfl⟩
  · exact .inl ⟨.packed .i16, rfl, rfl⟩
  · exact .inr rfl

theorem afterLead_val (t : ValType) : afterLead t.lead =
    (ValType.afterLead t.lead).convert (fun t => some (.val t)) fun s =>
      match s with
      | .val t => t
      | .packed _ => .i32 := by
  cases t with
  | ref r =>
    obtain ⟨nullable, heap⟩ := r
    cases nullable with
    | false => rfl
    | true =>
      cases heap with
      | abstract h => cases h <;> rfl
      | concrete i => rfl
  | _ => rfl

theorem retags (b : UInt8) : Retags byte lead afterLead b := by
  obtain ⟨s, hb, hs⟩ | hb := afterLead_cases b
  · exact retags_nothing hb hs
  · exact (ValType.retags b).renamed (fun _ => rfl) (fun _ => rfl) afterLead_val hb

theorem settles_codec : codec.Settles id := settles_byte.tagged fun _ b _ _ => retags b

end StorageType

theorem FieldType.settles_codec : FieldType.codec.Settles id :=
  (StorageType.settles_codec.pair settles_flag).renamed fun _ => rfl

theorem FuncType.settles_codec : FuncType.codec.Settles id :=
  ((ValType.settles_codec.listWithin_id 1000).pair
    (ValType.settles_codec.listWithin_id 1000)).renamed fun _ => rfl

namespace CompositeType

theorem retags (b : UInt8) : Retags byte lead afterLead b := by
  by_cases hfunc : b = 0x60
  · subst hfunc
    exact retags_renamed rfl FuncType.settles_codec (byte_returns _) (fun _ => rfl) fun _ => rfl
  by_cases hstruct : b = 0x5f
  · subst hstruct
    exact retags_renamed rfl (FieldType.settles_codec.listWithin_id _) (byte_returns _)
      (fun _ => rfl) fun _ => rfl
  by_cases harray : b = 0x5e
  · subst harray
    exact retags_renamed rfl FieldType.settles_codec (byte_returns _) (fun _ => rfl) fun _ => rfl
  · refine retags_reject ?_
    unfold afterLead
    split <;> first | rfl | contradiction

theorem settles_codec : codec.Settles id := settles_byte.tagged fun _ b _ _ => retags b

end CompositeType

namespace SubType

theorem afterLead_lead (c : CompositeType) : afterLead c.lead =
    (CompositeType.afterLead c.lead).convert (fun c => some ⟨true, none, c⟩) composite := by
  cases c <;> rfl

theorem read_extended_iff {final : Bool} {t : SubType} :
    (extended final).read bs = some (t, rest) ↔
      ∃ p, ((u32.listWithin 1).pair CompositeType.codec).read bs = some (p, rest) ∧
        ⟨final, p.1.head?, p.2⟩ = t := read_renamed_iff

theorem settles_extended (final : Bool) : (extended final).Settles id := by
  refine ((settles_u32.listWithin_id 1).pair CompositeType.settles_codec).convert_where
    (p := fun p => p.1.length ≤ 1) ?_ ?_
  · rintro bs ⟨supers, c⟩ rest hread
    obtain ⟨mid, hsupers, -⟩ := read_pair_iff.mp hread
    exact length_le_of_read settles_u32 hsupers
  · rintro ⟨supers, c⟩ t hfew ht
    obtain rfl := Option.some.inj ht
    match supers, hfew with
    | [], _ => exact ⟨rfl, rfl⟩
    | [s], _ => exact ⟨rfl, rfl⟩

theorem retags_final : Retags byte lead afterLead 0x4f := by
  intro bs t rest hread
  obtain ⟨⟨supers, c⟩, hpair, rfl⟩ := read_extended_iff.mp hread
  cases supers with
  | cons s supers => exact retag_same (settles_extended true) (byte_returns _) hread rfl
  | nil =>
    obtain ⟨mid, hsupers, hc⟩ := read_pair_iff.mp hpair
    obtain ⟨b, mid', hb, hafter⟩ := read_tagged_iff.mp hc
    have hsize := (settles_u32.listWithin_id 1).size hsupers
    have hlead := settles_byte.size hb
    obtain ⟨hbody, -, hback⟩ := CompositeType.retags b hafter
    rw [length_byte] at hlead
    simp only [length_byte] at hbody
    rw [show lead ⟨true, [].head?, c⟩ = c.lead from rfl, afterLead_lead]
    refine ⟨?_, byte_returns _, hback.renamed rfl⟩
    simp only [length_byte]
    change 1 + ((CompositeType.afterLead c.lead).write c).length + _ ≤ _
    omega

theorem retags (b : UInt8) : Retags byte lead afterLead b := by
  by_cases hfinal : b = 0x4f
  · subst hfinal
    exact retags_final
  by_cases hopen : b = 0x50
  · subst hopen
    refine retags_same (settles_extended false) (byte_returns _) fun bs t rest hread => ?_
    obtain ⟨p, -, rfl⟩ := read_extended_iff.mp hread
    rfl
  · refine (CompositeType.retags b).renamed (fun _ => rfl) (fun _ => rfl) afterLead_lead ?_
    unfold afterLead
    split <;> first | rfl | contradiction

theorem settles_codec : codec.Settles id := settles_byte.tagged fun _ b _ _ => retags b

end SubType

namespace RecGroup

theorem afterLead_lead (t : SubType) : afterLead t.lead =
    (SubType.afterLead t.lead).convert (fun t => some (.single t)) fun g =>
      g.members.head?.getD ⟨true, none, .func ⟨[], []⟩⟩ := by
  obtain ⟨final, super, c⟩ := t
  cases final <;> cases super <;> cases c <;> rfl

theorem retags (b : UInt8) : Retags byte lead afterLead b := by
  by_cases hgroup : b = 0x4e
  · subst hgroup
    exact retags_renamed rfl (SubType.settles_codec.listWithin_id _) (byte_returns _)
      (fun _ => rfl) fun _ => rfl
  · refine (SubType.retags b).renamed (fun _ => rfl) (fun _ => rfl) afterLead_lead ?_
    unfold afterLead
    split <;> first | rfl | contradiction

theorem settles_codec : codec.Settles id := settles_byte.tagged fun _ b _ _ => retags b

end RecGroup

/-! ### Limits -/

namespace Limits

def number : IndexWidth → Codec Nat
  | .narrow => u32
  | .wide => u64

theorem body_unbounded (width : IndexWidth) : body width false =
    (number width).convert (fun n => some ⟨width, n, none⟩) initial := by
  cases width <;> rfl

theorem body_bounded (width : IndexWidth) : body width true =
    ((number width).pair (number width)).convert (fun p => some ⟨width, p.1, some p.2⟩) fun l =>
      (l.initial, l.maximum.getD 0) := by
  cases width <;> rfl

theorem settles_number (width : IndexWidth) : (number width).Settles id := by
  cases width with
  | narrow => exact settles_u32
  | wide => exact settles_u64

theorem settles_body (width : IndexWidth) (bounded : Bool) : (body width bounded).Settles id := by
  have hnumber := settles_number width
  cases bounded with
  | false =>
    rw [body_unbounded]
    exact hnumber.renamed fun _ => rfl
  | true =>
    rw [body_bounded]
    exact (hnumber.pair hnumber).renamed fun _ => rfl

theorem of_body {width : IndexWidth} {bounded : Bool} {l : Limits}
    (h : (body width bounded).read bs = some (l, rest)) :
    l.width = width ∧ l.maximum.isSome = bounded := by
  cases bounded with
  | false =>
    rw [body_unbounded] at h
    obtain ⟨n, -, rfl⟩ := read_renamed_iff.mp h
    exact ⟨rfl, rfl⟩
  | true =>
    rw [body_bounded] at h
    obtain ⟨p, -, rfl⟩ := read_renamed_iff.mp h
    exact ⟨rfl, rfl⟩

theorem flags_eq : ∀ b : UInt8, (b &&& 0xfa == 0) = true →
    (if widthOf b = .wide then 4 else 0) ||| (if isBounded b = true then 1 else 0) = b :=
  forall_byte (by decide +kernel)

theorem flags_shared_eq : ∀ b : UInt8, (b &&& 0xf8 == 0) = true →
    (if widthOf b = .wide then 4 else 0) ||| (if isBounded b = true then 1 else 0) |||
      (if b &&& 2 = 0 then 0 else 2) = b :=
  forall_byte (by decide +kernel)

end Limits

theorem TableType.settles_limits : TableType.limitsCodec.Settles id := by
  refine (settles_byte.guarded _).tagged fun bs b mid hb => ?_
  obtain ⟨-, hflags⟩ := read_guarded_iff.mp hb
  refine retags_same (Limits.settles_body _ _) ((settles_byte.guarded _).back hb) ?_
  intro bs l rest hread
  obtain ⟨hwidth, hbounded⟩ := Limits.of_body hread
  rw [Limits.widthBit, Limits.maximumBit, hwidth, hbounded]
  exact Limits.flags_eq b hflags

theorem TableType.settles_codec : TableType.codec.Settles id :=
  (RefType.settles_codec.pair TableType.settles_limits).renamed fun _ => rfl

theorem MemoryType.settles_codec : MemoryType.codec.Settles id := by
  refine (settles_byte.guarded _).tagged fun bs b mid hb => ?_
  obtain ⟨-, hflags⟩ := read_guarded_iff.mp hb
  refine retags_same ((Limits.settles_body _ _).renamed fun _ => rfl)
    ((settles_byte.guarded _).back hb) ?_
  intro bs m rest hread
  obtain ⟨l, hl, rfl⟩ := read_renamed_iff.mp hread
  obtain ⟨hwidth, hbounded⟩ := Limits.of_body hl
  rw [Limits.widthBit, Limits.maximumBit, MemoryType.sharedBit, hwidth, hbounded]
  refine Eq.trans ?_ (Limits.flags_shared_eq b hflags)
  by_cases hshared : b &&& 2 = 0 <;> simp [hshared]

theorem GlobalType.settles_codec : GlobalType.codec.Settles id :=
  (ValType.settles_codec.pair settles_flag).renamed fun _ => rfl

end Inkwell.Wasm
