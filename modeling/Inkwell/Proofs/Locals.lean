import Inkwell.Wasm.Canonical
import Inkwell.Proofs.TypeForms
import Mathlib.Algebra.Order.BigOperators.Group.List
import Mathlib.Data.List.Chain
set_option autoImplicit false

/-! Groups of locals, merged: they declare the same locals, take no more room, and merging them again
changes nothing. -/

namespace Inkwell.Wasm

open Codec

variable {l : Nat × ValType} {ls : List (Nat × ValType)}

def joinLocals (l : Nat × ValType) : List (Nat × ValType) → List (Nat × ValType)
  | [] => if l.1 = 0 then [] else [l]
  | (k, u) :: rest =>
    if l.1 = 0 then (k, u) :: rest
    else if l.2 = u then (l.1 + k, l.2) :: rest
    else l :: (k, u) :: rest

theorem mergeLocals_cons (l : Nat × ValType) (ls : List (Nat × ValType)) :
    mergeLocals (l :: ls) = joinLocals l (mergeLocals ls) := by
  obtain ⟨n, t⟩ := l
  cases n with
  | zero => cases h : mergeLocals ls <;> simp [mergeLocals, joinLocals, h]
  | succ n => cases h : mergeLocals ls <;> simp [mergeLocals, joinLocals, h]

theorem joinLocals_cases (l : Nat × ValType) (ls : List (Nat × ValType)) :
    (l.1 = 0 ∧ joinLocals l ls = ls) ∨
    (l.1 ≠ 0 ∧ ∃ k rest, ls = (k, l.2) :: rest ∧ joinLocals l ls = (l.1 + k, l.2) :: rest) ∨
    (l.1 ≠ 0 ∧ (∀ first ∈ ls.head?, l.2 ≠ first.2) ∧ joinLocals l ls = l :: ls) := by
  by_cases hzero : l.1 = 0
  · exact .inl ⟨hzero, by cases ls <;> simp [joinLocals, hzero]⟩
  cases ls with
  | nil => exact .inr (.inr ⟨hzero, nofun, by simp [joinLocals, hzero]⟩)
  | cons first rest =>
    obtain ⟨k, u⟩ := first
    by_cases htype : l.2 = u
    · subst htype
      exact .inr (.inl ⟨hzero, k, rest, rfl, by simp [joinLocals, hzero]⟩)
    · exact .inr (.inr ⟨hzero, by simpa using htype, by simp [joinLocals, hzero, htype]⟩)

/-! ### What is declared -/

theorem sum_joinLocals : ((joinLocals l ls).map (·.1)).sum = l.1 + (ls.map (·.1)).sum := by
  obtain ⟨hzero, h⟩ | ⟨-, k, rest, rfl, h⟩ | ⟨-, -, h⟩ := joinLocals_cases l ls
  · simp [h, hzero]
  · simp [h, Nat.add_assoc]
  · simp [h]

theorem sum_mergeLocals (ls : List (Nat × ValType)) :
    ((mergeLocals ls).map (·.1)).sum = (ls.map (·.1)).sum := by
  induction ls with
  | nil => rfl
  | cons l ls ih => rw [mergeLocals_cons, sum_joinLocals, ih, List.map_cons, List.sum_cons]

theorem slots_joinLocals : ((joinLocals l ls).flatMap fun l => List.replicate l.1 l.2) =
    List.replicate l.1 l.2 ++ ls.flatMap fun l => List.replicate l.1 l.2 := by
  obtain ⟨hzero, h⟩ | ⟨-, k, rest, rfl, h⟩ | ⟨-, -, h⟩ := joinLocals_cases l ls
  · simp [h, hzero]
  · rw [h, List.flatMap_cons, List.flatMap_cons, List.replicate_add, List.append_assoc]
  · simp [h]

theorem slots_mergeLocals (ls : List (Nat × ValType)) :
    ((mergeLocals ls).flatMap fun l => List.replicate l.1 l.2) =
      ls.flatMap fun l => List.replicate l.1 l.2 := by
  induction ls with
  | nil => rfl
  | cons l ls ih => rw [mergeLocals_cons, slots_joinLocals, ih, List.flatMap_cons]

theorem types_joinLocals {p : ValType → Prop} (hl : p l.2) (hls : ∀ g ∈ ls, p g.2) :
    ∀ g ∈ joinLocals l ls, p g.2 := by
  obtain ⟨-, h⟩ | ⟨-, k, rest, rfl, h⟩ | ⟨-, -, h⟩ := joinLocals_cases l ls
  · rwa [h]
  · rw [h]
    exact List.forall_mem_cons.mpr ⟨hl, (List.forall_mem_cons.mp hls).2⟩
  · rw [h]
    exact List.forall_mem_cons.mpr ⟨hl, hls⟩

theorem types_mergeLocals {p : ValType → Prop} (h : ∀ g ∈ ls, p g.2) :
    ∀ g ∈ mergeLocals ls, p g.2 := by
  induction ls with
  | nil => exact h
  | cons l ls ih =>
    obtain ⟨hl, hls⟩ := List.forall_mem_cons.mp h
    rw [mergeLocals_cons]
    exact types_joinLocals hl (ih hls)

/-! ### Merging twice -/

def Merged (ls : List (Nat × ValType)) : Prop :=
  (∀ l ∈ ls, l.1 ≠ 0) ∧ ls.IsChain fun a b => a.2 ≠ b.2

theorem Merged.join (h : Merged ls) : Merged (joinLocals l ls) := by
  obtain ⟨-, heq⟩ | ⟨hne, k, rest, rfl, heq⟩ | ⟨hne, hfirst, heq⟩ := joinLocals_cases l ls
  · rwa [heq]
  · obtain ⟨hnonzero, hchain⟩ := h
    rw [heq]
    refine ⟨List.forall_mem_cons.mpr ⟨?_, (List.forall_mem_cons.mp hnonzero).2⟩, ?_⟩
    · dsimp only
      omega
    · rw [List.isChain_cons] at hchain ⊢
      exact hchain
  · obtain ⟨hnonzero, hchain⟩ := h
    rw [heq]
    exact ⟨List.forall_mem_cons.mpr ⟨hne, hnonzero⟩, List.isChain_cons.mpr ⟨hfirst, hchain⟩⟩

theorem merged_mergeLocals (ls : List (Nat × ValType)) : Merged (mergeLocals ls) := by
  induction ls with
  | nil => exact ⟨nofun, List.isChain_nil⟩
  | cons l ls ih =>
    rw [mergeLocals_cons]
    exact ih.join

theorem Merged.merge (h : Merged ls) : mergeLocals ls = ls := by
  induction ls with
  | nil => rfl
  | cons l ls ih =>
    obtain ⟨hnonzero, hchain⟩ := h
    obtain ⟨hl, hls⟩ := List.forall_mem_cons.mp hnonzero
    obtain ⟨hfirst, hrest⟩ := List.isChain_cons.mp hchain
    rw [mergeLocals_cons, ih ⟨hls, hrest⟩]
    obtain ⟨hzero, -⟩ | ⟨-, k, rest, rfl, -⟩ | ⟨-, -, heq⟩ := joinLocals_cases l ls
    · exact absurd hzero hl
    · exact absurd rfl (hfirst (k, l.2) rfl)
    · exact heq

theorem mergeLocals_mergeLocals (ls : List (Nat × ValType)) :
    mergeLocals (mergeLocals ls) = mergeLocals ls := (merged_mergeLocals ls).merge

/-! ### Written locals -/

theorem length_joinLocals (l : Nat × ValType) (ls : List (Nat × ValType)) :
    (joinLocals l ls).length ≤ ls.length + 1 := by
  obtain ⟨-, h⟩ | ⟨-, k, rest, rfl, h⟩ | ⟨-, -, h⟩ := joinLocals_cases l ls <;> simp [h]

theorem length_mergeLocals (ls : List (Nat × ValType)) : (mergeLocals ls).length ≤ ls.length := by
  induction ls with
  | nil => exact Nat.le_refl _
  | cons l ls ih =>
    have hjoin := length_joinLocals l (mergeLocals ls)
    rw [mergeLocals_cons, List.length_cons]
    omega

def localsRoom (ls : List (Nat × ValType)) : Nat := (ls.flatMap (u32.pair ValType.codec).write).length

theorem localsRoom_cons (l : Nat × ValType) (ls : List (Nat × ValType)) : localsRoom (l :: ls) =
    (u32.write l.1).length + (ValType.codec.write l.2).length + localsRoom ls := by
  rw [localsRoom, List.flatMap_cons, List.length_append, length_pair]
  rfl

theorem localsRoom_joinLocals (l : Nat × ValType) (ls : List (Nat × ValType)) :
    localsRoom (joinLocals l ls) ≤ localsRoom (l :: ls) := by
  obtain ⟨-, h⟩ | ⟨-, k, rest, rfl, h⟩ | ⟨-, -, h⟩ := joinLocals_cases l ls
  · rw [h, localsRoom_cons]
    omega
  · have hsum : (u32.write (l.1 + k)).length ≤ (u32.write l.1).length + (u32.write k).length :=
      Leb.length_unsigned_add l.1 k
    simp only [h, localsRoom_cons]
    omega
  · rw [h]

theorem localsRoom_mergeLocals (ls : List (Nat × ValType)) :
    localsRoom (mergeLocals ls) ≤ localsRoom ls := by
  induction ls with
  | nil => exact Nat.le_refl _
  | cons l ls ih =>
    have hjoin := localsRoom_joinLocals l (mergeLocals ls)
    rw [localsRoom_cons] at hjoin
    rw [mergeLocals_cons, localsRoom_cons]
    omega

/-- Merged when the number of locals can be written. -/
def settledLocals (ls : List (Nat × ValType)) : List (Nat × ValType) :=
  if (ls.map (·.1)).sum < 2 ^ 32 then mergeLocals ls else ls

theorem count_le_sum {g : Nat × ValType} (h : g ∈ ls) : g.1 ≤ (ls.map (·.1)).sum :=
  List.le_sum_of_mem (List.mem_map_of_mem h)

theorem settles_locals : (u32.pair ValType.codec).list.Settles settledLocals := by
  intro bs ls rest hread
  have hgroup := settles_u32.pair_id ValType.settles_codec
  unfold settledLocals
  split
  · next hsum =>
    have hsize := hgroup.list_id.size hread
    have hfew := length_lt_of_list hgroup hread
    have hmerged := length_mergeLocals ls
    have hroom := localsRoom_mergeLocals ls
    have hcount := length_u32_mono hmerged
    have htypes : ∀ g ∈ ls, ValType.codec.Returns g.2 := forall_of_list (fun bs g rest hg => by
      obtain ⟨mid, -, ht⟩ := read_pair_iff.mp hg
      exact ValType.settles_codec.back ht) hread
    refine ⟨?_, listWithin_returns (by omega) (by omega) fun g hg => ?_⟩
    · simp only [localsRoom, list, listWithin, List.length_append] at hsize hroom ⊢
      omega
    · have hle := count_le_sum hg
      rw [sum_mergeLocals] at hle
      exact (u32_returns (by omega)).pair (types_mergeLocals htypes g hg)
  · exact hgroup.list_id hread

end Inkwell.Wasm
