import Inkwell.Proofs.Recency
import Mathlib.Data.Finset.Card
set_option autoImplicit false

/-! The modules used in a block are a window on its history: of the distinct ones by their latest use,
as many as the window is wide. -/

namespace Inkwell

section Latest

variable {κ : Type} [DecidableEq κ] {k : κ} {us : List κ} {n : Nat}

theorem length_eraseDups (us : List κ) : us.eraseDups.length = us.toFinset.card := by
  rw [← List.toFinset_card_of_nodup (nodup_eraseDups us)]
  congr 1
  ext k
  simp

/-- A key is among the last ones if fewer others were used since its latest use. -/
theorem mem_take_eraseDups : k ∈ us.eraseDups.take n ↔
    ∃ since before, us = since ++ k :: before ∧ k ∉ since ∧ since.toFinset.card < n := by
  have hplace : ∀ since before : List κ, k ∉ since → (since ++ k :: before).eraseDups =
      since.eraseDups ++ k :: (before.eraseDups.filter (· ≠ k)).filter (· ∉ since) := by
    intro since before hnew
    rw [eraseDups_append, eraseDups_cons_filter, List.filter_cons_of_pos (by simpa using hnew)]
  constructor
  · intro h
    obtain ⟨since, before, rfl, hnew⟩ :=
      List.eq_append_cons_of_mem (List.mem_eraseDups.mp (List.mem_of_mem_take h))
    refine ⟨since, before, rfl, hnew, ?_⟩
    by_contra hmany
    rw [hplace since before hnew, List.take_append_of_le_length
      (by rw [length_eraseDups]; exact Nat.not_lt.mp hmany)] at h
    exact hnew (List.mem_eraseDups.mp (List.mem_of_mem_take h))
  · rintro ⟨since, before, rfl, hnew, hfew⟩
    rw [← length_eraseDups] at hfew
    obtain ⟨j, hj⟩ := Nat.exists_eq_add_of_lt hfew
    have hroom : n - since.eraseDups.length = j + 1 := by omega
    rw [hplace since before hnew, List.take_append, hroom, List.take_succ_cons]
    exact List.mem_append_right _ List.mem_cons_self

end Latest

namespace Recent

variable {r : Recent} {us : List Word} {retain : Nat}

/-- The window on a history, latest first. -/
def Shows (retain : Nat) (us : List Word) (r : Recent) : Prop := r.modules = us.eraseDups.take retain

theorem Shows.touch (h : r.Shows retain us) (m : Word) :
    (r.touch m retain).2.Shows retain (m :: us) := by
  have hnodup : r.modules.Nodup := h ▸ (nodup_eraseDups us).take
  have hlength : r.modules.length ≤ retain := h ▸ List.length_take_le _ _
  unfold Shows
  rw [eraseDups_cons_filter, ← take_use (nodup_eraseDups us), ← h]
  unfold Recent.touch
  by_cases hm : m ∈ r.modules
  · have hshorter : (r.modules.filter (· ≠ m)).length < r.modules.length :=
      List.length_filter_lt_length_iff_exists.mpr ⟨m, hm, by simp⟩
    have hfits : (m :: r.modules.filter (· ≠ m)).length ≤ retain := hshorter.trans_le hlength
    rw [if_pos (by simpa using hm), List.take_of_length_le hfits, hnodup.erase_eq_filter]
    refine congrArg (m :: ·) (List.filter_congr fun v _ => ?_)
    rw [Bool.eq_iff_iff]
    simp
  · rw [if_neg (by simpa using hm), filter_of_new hm]
    cases retain with
    | zero => simp [List.length_eq_zero_iff.mp (Nat.le_zero.mp hlength)]
    | succ n =>
      rw [if_neg (Nat.succ_ne_zero n)]
      dsimp only
      split
      · next hfull =>
        rw [List.dropLast_eq_take]
        congr 1
        simp only [List.length_cons] at hfull ⊢
        omega
      · next hroom => rw [List.take_of_length_le (Nat.not_lt.mp hroom)]

end Recent

inductive BlockStep where
  | touch (module : Word)
  | start
  | evict (module : Word)
  deriving DecidableEq, Repr

namespace BlockStep

def next (block retain : Nat) : BlockStep → Cache → Cache
  | .touch m, c => (c.touchRecent block m retain).2
  | .start, c => c.startBlock block
  | .evict m, c => (c.evict m).2

def touched? : BlockStep → Option Word
  | .touch m => some m
  | _ => none

end BlockStep

namespace Cache

variable {c : Cache} {block retain : Nat} {us : List Word}

def throughBlock (block retain : Nat) (c : Cache) (ts : List BlockStep) : Cache :=
  ts.foldl (fun c t => t.next block retain c) c

def touches (ts : List BlockStep) : List Word := (ts.filterMap BlockStep.touched?).reverse

/-- The window on what was touched in the block that it is for. -/
structure InBlock (block retain : Nat) (us : List Word) (c : Cache) : Prop where
  block : c.recent.block = some block
  shows : c.recent.Shows retain us

theorem enter_self (h : c.recent.block = some block) : c.recent.enter block = c.recent := if_pos h

theorem enter_other {other : Nat} (h : c.recent.block ≠ some other) :
    c.recent.enter other = ⟨some other, []⟩ := if_neg h

theorem inBlock_startBlock (h : c.recent.block ≠ some block) :
    (c.startBlock block).InBlock block retain [] := by
  have hrecent : (c.startBlock block).recent = ⟨some block, []⟩ := enter_other h
  constructor <;> rw [hrecent]
  exact List.take_nil.symm

theorem InBlock.next (h : c.InBlock block retain us) (t : BlockStep) :
    (t.next block retain c).InBlock block retain (t.touched?.toList ++ us) := by
  cases t with
  | touch m =>
    have hrecent : ((BlockStep.touch m).next block retain c).recent =
        (c.recent.touch m retain).2 := by
      change ((c.recent.enter block).touch m retain).2 = _
      rw [enter_self h.block]
    constructor <;> rw [hrecent]
    · exact (Recent.block_touch m retain c.recent).trans h.block
    · exact h.shows.touch m
  | start =>
    have hrecent : (BlockStep.start.next block retain c).recent = c.recent := enter_self h.block
    constructor <;> rw [hrecent]
    · exact h.block
    · exact h.shows
  | evict m => exact ⟨h.block, h.shows⟩

theorem inBlock_through (h : c.recent.block ≠ some block) (ts : List BlockStep) :
    ((c.startBlock block).throughBlock block retain ts).InBlock block retain (touches ts) := by
  induction ts using List.reverseRecOn with
  | nil => exact inBlock_startBlock h
  | append_singleton ts t ih =>
    have htouches : touches (ts ++ [t]) = t.touched?.toList ++ touches ts := by
      unfold touches
      cases ht : t.touched? <;> simp [ht]
    rw [throughBlock, List.foldl_concat, htouches]
    exact ih.next t

/-- The modules used in a block are an exact window on what was touched there, with one width from the
entering of the block on. A touch finds its module if that was touched before, and fewer others since
than the window is wide; a module is recent if it is among the last ones, as many distinct ones as the
window is wide. A block can be entered by a touch as well. Entering another one forgets everything, and
removing an artifact changes nothing. -/
theorem block_window (h : c.recent.block ≠ some block) (retain : Nat) (ts : List BlockStep) :
    let c' := (c.startBlock block).throughBlock block retain ts
    (∀ m, (c'.touchRecent block m retain).1 = true ↔ ∃ since before,
      touches ts = since ++ m :: before ∧ m ∉ since ∧ since.toFinset.card < retain) ∧
    (∀ m, c'.isRecent m = true ↔ m ∈ (touches ts).eraseDups.take retain) ∧
    (∀ m, c.touchRecent block m retain = (c.startBlock block).touchRecent block m retain) ∧
    (∀ other, other ≠ block → (c'.startBlock other).recent = ⟨some other, []⟩ ∧
      ∀ m width, (c'.touchRecent other m width).1 = false ∧
        (c'.touchRecent other m width).2.recent = ⟨some other, [m].take width⟩) ∧
    (∀ m, (c'.evict m).2.recent = c'.recent) := by
  intro c'
  have hc : c'.InBlock block retain (touches ts) := inBlock_through h ts
  refine ⟨fun m => ?_, fun m => ?_, fun m => ?_, fun other hother => ?_, fun m => rfl⟩
  · change ((c'.recent.enter block).touch m retain).1 = true ↔ _
    rw [enter_self hc.block, Recent.touch_fst, hc.shows, List.contains_iff_mem, mem_take_eraseDups]
  · change c'.recent.modules.contains m = true ↔ _
    rw [hc.shows, List.contains_iff_mem]
  · unfold touchRecent startBlock
    rw [Recent.enter_enter]
  · have hentered : c'.recent.enter other = ⟨some other, []⟩ :=
      enter_other (by rw [hc.block]; exact fun h => hother (Option.some.inj h).symm)
    refine ⟨hentered, fun m width => ?_⟩
    change ((c'.recent.enter other).touch m width).1 = false ∧
      ((c'.recent.enter other).touch m width).2 = _
    rw [hentered]
    cases width with
    | zero => exact ⟨rfl, rfl⟩
    | succ n => exact ⟨rfl, by simp [Recent.touch]⟩

/-- With a window of one, the module touched first is found again only while no other is touched. -/
theorem block_window_narrow : (ofCapacity 0).recent.block ≠ some 7 ∧
    let c := ((ofCapacity 0).startBlock 7).throughBlock 7 1
    ((c [.touch 1, .touch 1]).touchRecent 7 1 1).1 = true ∧
      (c [.touch 1, .touch 2]).isRecent 1 = false := by
  have hfresh : (ofCapacity 0).recent.block ≠ some 7 := nofun
  obtain ⟨htouch, -⟩ := block_window hfresh 1 [.touch 1, .touch 1]
  obtain ⟨-, hrecent, -⟩ := block_window hfresh 1 [.touch 1, .touch 2]
  refine ⟨hfresh, (htouch 1).mpr ⟨[], [1], rfl, by simp, by simp⟩, ?_⟩
  rw [← Bool.not_eq_true, hrecent 1]
  decide

end Cache
end Inkwell
