import Inkwell.Wasm.Instruction
import Inkwell.Proofs.TypeForms
set_option autoImplicit false

/-! The forms of instructions settle, and those of initializers, which end with the first `end`. -/

namespace Inkwell.Wasm

open Codec

variable {bs rest : Octets}

/-! ### Immediates -/

namespace ValType

theorem isLead_range : ∀ b : UInt8, b.toNat < 64 ∨ 128 ≤ b.toNat → isLead b = false ∧ b ≠ 0x40 :=
  forall_byte (by decide +kernel)

theorem isLead_lead (t : ValType) : isLead t.lead = true ∧ t.lead ≠ 0x40 := by
  cases t with
  | ref r =>
    obtain ⟨nullable, heap⟩ := r
    cases nullable with
    | false => exact ⟨rfl, show (0x64 : UInt8) ≠ 0x40 by decide⟩
    | true =>
      cases heap with
      | abstract h => cases h <;> decide
      | concrete i => exact ⟨rfl, show (0x63 : UInt8) ≠ 0x40 by decide⟩
  | _ => decide

end ValType

namespace BlockType

theorem settles_codec : codec.Settles id := by
  refine settles_peek fun b => ?_
  by_cases hempty : b = 0x40
  · subst hempty
    intro bs t rest hread
    change (byte.convert (fun _ => some empty) fun _ => 0x40).read _ = _ at hread
    obtain ⟨a, ha, rfl⟩ := read_renamed_iff.mp hread
    obtain ⟨rfl, rfl⟩ := Prod.mk.inj (Option.some.inj ha)
    exact ⟨by simp [BlockType.octets]; omega, 0x40, [], rfl, fun rest => rfl⟩
  by_cases hvalue : ValType.isLead b = true
  · refine heads_renamed (by simp only [if_neg hempty, if_pos hvalue]; rfl) ValType.settles_codec ?_
    intro bs t rest _
    obtain ⟨hlead, hne⟩ := t.isLead_lead
    exact ⟨t.lead, _, rfl, rfl, by simp only [if_neg hempty, if_pos hvalue, if_neg hne, if_pos hlead]⟩
  · refine heads_renamed (by simp only [if_neg hempty, if_neg hvalue]; rfl) settles_typeIndex ?_
    intro bs i rest _
    obtain ⟨b', tail, hwrite, hrange⟩ := Leb.head_signed i
    obtain ⟨hlead, hne⟩ := ValType.isLead_range b' hrange
    exact ⟨b', tail, hwrite, hwrite, by simp [hempty, hvalue, hne, hlead]⟩

end BlockType

namespace MemArg

def bits (m : MemArg) : Nat := if m.memory = 0 then m.align else m.align + 64

def body (n : Nat) : Codec MemArg :=
  if n < 64 then Codec.u64.convert (fun o => some ⟨n, 0, o⟩) offset
  else (Codec.u32.pair Codec.u64).convert (fun p => some ⟨n - 64, p.1, p.2⟩) fun m =>
    (m.memory, m.offset)

theorem body_short {n : Nat} (h : n < 64) :
    body n = Codec.u64.convert (fun o => some ⟨n, 0, o⟩) offset := if_pos h

theorem body_long {n : Nat} (h : ¬n < 64) : body n = (Codec.u32.pair Codec.u64).convert
    (fun p => some ⟨n - 64, p.1, p.2⟩) fun m => (m.memory, m.offset) := if_neg h

theorem settles_body (n : Nat) : (body n).Settles id := by
  by_cases h : n < 64
  · rw [body_short h]
    exact settles_u64.renamed fun _ => rfl
  · rw [body_long h]
    exact (settles_u32.pair_id settles_u64).renamed fun _ => rfl

theorem tag_returns {n : Nat} (h : n < 128) : (u32.guarded (· < 128)).Returns n :=
  (u32_returns (by omega)).guarded (decide_eq_true h)

/-- Memory zero needs no index. -/
theorem retags {n : Nat} (hn : n < 128) : Retags (u32.guarded (· < 128)) bits body n := by
  intro bs m rest hread
  by_cases hshort : n < 64
  · refine retag_same (settles_body n) (tag_returns hn) hread ?_
    rw [body_short hshort] at hread
    obtain ⟨o, -, rfl⟩ := read_renamed_iff.mp hread
    rfl
  · have hlong := hread
    rw [body_long hshort] at hlong
    obtain ⟨⟨i, o⟩, hpair, rfl⟩ := read_renamed_iff.mp hlong
    cases i with
    | succ i =>
      refine retag_same (settles_body n) (tag_returns hn) hread ?_
      change n - 64 + 64 = n
      omega
    | zero =>
      obtain ⟨mid, hi, ho⟩ := read_pair_iff.mp hpair
      have hosize := settles_u64.size ho
      have hisize := settles_u32.size hi
      have htag := length_u32_mono (Nat.sub_le n 64)
      rw [show bits ⟨n - 64, 0, o⟩ = n - 64 from rfl, body_short (by omega)]
      refine ⟨?_, tag_returns (by omega), (settles_u64.back ho).renamed rfl⟩
      simp only [Codec.guarded, Codec.convert, id]
      omega

theorem settles_codec : codec.Settles id := by
  change (tagged (u32.guarded (· < 128)) bits body).Settles id
  exact Settles.tagged (settles_u32.guarded _) fun _ _ _ hn =>
    retags (of_decide_eq_true (read_guarded_iff.mp hn).2)

end MemArg

theorem settles_byteNumber : byteNumber.Settles id :=
  settles_byte.renamed fun _ => UInt8.ofNat_toNat

namespace Handler

theorem leads : ∀ b : UInt8, (b < 2 → (if decide (b = 1) then 1 else 0) = b) ∧
    (¬b < 2 → b < 4 → (if decide (b = 3) then 3 else 2) = b) :=
  forall_byte (by decide +kernel)

theorem settles_codec : codec.Settles id := by
  refine settles_byte.tagged fun bs b mid _ => ?_
  obtain ⟨htagged, hall⟩ := leads b
  by_cases hone : b < 2
  · exact retags_renamed (if_pos hone) (settles_u32.pair_id settles_u32) (byte_returns _)
      (fun _ => rfl) fun _ => htagged hone
  by_cases hany : b < 4
  · exact retags_renamed ((if_neg hone).trans (if_pos hany)) settles_u32 (byte_returns _)
      (fun _ => rfl) fun _ => hall hone hany
  · exact retags_reject ((if_neg hone).trans (if_neg hany))

end Handler

namespace CastArg

theorem flags_eq : ∀ b : UInt8, decide (b < 4) = true →
    (if b &&& 1 != 0 then 1 else 0) ||| (if b &&& 2 != 0 then 2 else 0) = b :=
  forall_byte (by decide +kernel)

theorem settles_codec : codec.Settles id := by
  refine (settles_byte.guarded _).tagged fun bs b mid hb => ?_
  obtain ⟨-, hbound⟩ := read_guarded_iff.mp hb
  exact retags_renamed rfl ((settles_u32.pair HeapType.settles_codec).pair HeapType.settles_codec)
    ((settles_byte.guarded _).back hb) (fun _ => rfl) fun _ => flags_eq b hbound

end CastArg

theorem Immediate.settles_codec (shape : Shape) : (Immediate.codec shape).Settles id := by
  unfold Immediate.codec
  cases shape with
  | none => exact settles_nothing _
  | block => exact BlockType.settles_codec.renamed fun _ => rfl
  | index => exact settles_u32.renamed fun _ => rfl
  | pair => exact (settles_u32.pair_id settles_u32).renamed fun _ => rfl
  | labels => exact ((settles_u32.listWithin_id _).pair_id settles_u32).renamed fun _ => rfl
  | memory => exact MemArg.settles_codec.renamed fun _ => rfl
  | memoryLane =>
    exact (MemArg.settles_codec.pair_id settles_byteNumber).renamed fun _ => rfl
  | lane => exact settles_byteNumber.renamed fun _ => rfl
  | int32 => exact (settles_signed 32).renamed fun _ => rfl
  | int64 => exact (settles_signed 64).renamed fun _ => rfl
  | octets n => exact (settles_octets n).renamed fun _ => rfl
  | types => exact (ValType.settles_codec.listWithin_id _).renamed fun _ => rfl
  | heap => exact HeapType.settles_codec.renamed fun _ => rfl
  | cast => exact CastArg.settles_codec.renamed fun _ => rfl
  | handlers =>
    exact (BlockType.settles_codec.pair_id (Handler.settles_codec.listWithin_id _)).renamed fun _ => rfl
  | zero =>
    refine settles_byte.convert fun b arg h => ?_
    obtain ⟨rfl, harg⟩ := Option.ite_none_right_eq_some.mp h
    obtain rfl := Option.some.inj harg
    exact ⟨rfl, rfl⟩

/-! ### Instructions -/

theorem Opcode.isPage_ne_zero : ∀ b : UInt8, isPage b = true → b.toNat ≠ 0 :=
  forall_byte (by decide +kernel)

theorem Opcode.settles_codec : Opcode.codec.Settles id := by
  refine settles_byte.tagged fun bs b mid _ => ?_
  by_cases hpage : isPage b = true
  · refine retags_renamed (if_pos hpage) settles_u32 (byte_returns _) (fun _ => rfl) fun n => ?_
    simp only [if_neg (isPage_ne_zero b hpage), UInt8.ofNat_toNat]
  · refine retags_nothing (if_neg hpage) ?_
    simp only [if_true, UInt8.ofNat_toNat]

namespace Instruction

theorem settles_codec : codec.Settles id := by
  refine Opcode.settles_codec.tagged fun bs op mid hop => ?_
  cases hfamily : op.family? with
  | none => exact retags_reject (by simp only [hfamily])
  | some f =>
    exact retags_renamed (by simp only [hfamily]; rfl) (Immediate.settles_codec f.shape)
      (Opcode.settles_codec.back hop) (fun _ => rfl) fun _ => rfl

theorem write_ne_nil (i : Instruction) : codec.write i ≠ [] := by
  simp [codec, Opcode.codec, tagged, byte]

theorem readUntilFinish_eq_some {fuel : Nat} {acc is : List Instruction}
    (h : readUntilFinish fuel acc bs = some (is, rest)) : ∃ new, is = acc.reverse ++ new ∧
      (new.flatMap codec.write).length + 1 + rest.length ≤ bs.length ∧
      ∀ i ∈ new, codec.Returns i ∧ i.isFinish = false := by
  induction fuel generalizing acc bs with
  | zero => cases h
  | succ fuel ih =>
    obtain ⟨⟨i, mid⟩, hi, hrest⟩ := Option.bind_eq_some_iff.mp h
    obtain ⟨hsize, hback⟩ := settles_codec hi
    dsimp only [id] at hrest hsize hback
    split at hrest
    · obtain ⟨rfl, rfl⟩ := Prod.mk.inj (Option.some.inj hrest)
      have hpos := List.length_pos_iff.mpr (write_ne_nil i)
      exact ⟨[], by simp, by simp; omega, nofun⟩
    · next hfinish =>
      obtain ⟨new, rfl, hsizes, hbacks⟩ := ih hrest
      refine ⟨i :: new, by simp, ?_, List.forall_mem_cons.mpr ⟨⟨hback, ?_⟩, hbacks⟩⟩
      · simp only [List.flatMap_cons, List.length_append]
        omega
      · simpa using hfinish

theorem read_finish (rest : Octets) : codec.read (0x0b :: rest) = some (finish, rest) := by
  rfl

theorem readUntilFinish_returns {fuel : Nat} {acc is : List Instruction}
    (h : ∀ i ∈ is, codec.Returns i ∧ i.isFinish = false) (hfuel : is.length < fuel)
    (rest : Octets) : readUntilFinish fuel acc (is.flatMap codec.write ++ 0x0b :: rest) =
      some (acc.reverse ++ is, rest) := by
  induction is generalizing fuel acc with
  | nil =>
    obtain ⟨fuel, rfl⟩ := Nat.exists_eq_succ_of_ne_zero (n := fuel) (by omega)
    simp [readUntilFinish, read_finish, isFinish, finish]
  | cons i is ih =>
    obtain ⟨⟨hi, hopen⟩, his⟩ := List.forall_mem_cons.mp h
    rw [List.length_cons] at hfuel
    obtain ⟨fuel, rfl⟩ := Nat.exists_eq_succ_of_ne_zero (n := fuel) (by omega)
    rw [List.flatMap_cons, List.append_assoc, readUntilFinish, hi]
    simp [hopen, ih his (by omega : is.length < fuel)]

end Instruction

theorem length_le_flatMap (is : List Instruction) :
    is.length ≤ (is.flatMap Instruction.codec.write).length := by
  induction is with
  | nil => simp
  | cons i is ih =>
    have hpos := List.length_pos_iff.mpr i.write_ne_nil
    simp only [List.flatMap_cons, List.length_cons, List.length_append]
    omega

theorem Initializer.settles_codec : Initializer.codec.Settles id := by
  intro bs is rest h
  obtain ⟨new, rfl, hsize, hback⟩ := Instruction.readUntilFinish_eq_some h
  have hwrite : Initializer.codec.write is = is.flatMap Instruction.codec.write ++ [0x0b] := rfl
  simp only [id, hwrite]
  refine ⟨by rw [List.length_append]; exact hsize, fun rest => ?_⟩
  have hcount := length_le_flatMap is
  change Instruction.readUntilFinish _ [] (is.flatMap Instruction.codec.write ++ [0x0b] ++ rest) = _
  rw [List.append_assoc, List.singleton_append, Instruction.readUntilFinish_returns hback]
  · rfl
  · simp only [hwrite, List.length_append, List.length_singleton]
    omega

end Inkwell.Wasm
