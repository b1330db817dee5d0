import Inkwell.Proofs.Window
set_option autoImplicit false

/-! The modules used in a block when each use asks for a width of its own. A use makes room for the
module that it takes in and for no more, so that a narrower use than those before it finds too many
modules and leaves too many. -/

namespace Inkwell

namespace Recent

variable {r : Recent} {m : Word} {retain : Nat}

theorem length_touch (m : Word) (retain : Nat) (r : Recent) : (r.touch m retain).2.modules.length =
    if m ∈ r.modules ∨ retain = 0 then r.modules.length
    else min (r.modules.length + 1) (max retain r.modules.length) := by
  unfold touch
  by_cases hm : m ∈ r.modules
  · have hpos := List.length_pos_of_mem hm
    rw [if_pos (by simpa using hm), if_pos (.inl hm)]
    simp only [List.length_cons, List.length_erase_of_mem hm]
    omega
  · rw [if_neg (by simpa using hm)]
    by_cases hzero : retain = 0
    · rw [if_pos hzero, if_pos (.inr hzero)]
    · rw [if_neg hzero, if_neg (by simp [hm, hzero])]
      dsimp only
      split
      · next hfull =>
        simp only [List.length_dropLast, List.length_cons] at hfull ⊢
        omega
      · next hroom =>
        simp only [List.length_cons] at hroom ⊢
        omega

theorem length_touch_le (m : Word) (retain : Nat) (r : Recent) :
    (r.touch m retain).2.modules.length ≤ max retain r.modules.length := by
  rw [length_touch]
  split <;> omega

/-- The width of a use is kept to afterwards just if it was before. -/
theorem length_touch_le_iff :
    (r.touch m retain).2.modules.length ≤ retain ↔ r.modules.length ≤ retain := by
  rw [length_touch]
  split <;> omega

theorem nodup_touch (m : Word) (retain : Nat) (h : r.modules.Nodup) :
    (r.touch m retain).2.modules.Nodup := by
  unfold touch
  split
  · exact List.nodup_cons.mpr ⟨h.not_mem_erase, h.erase m⟩
  · next hm =>
    have hnew : (m :: r.modules).Nodup := List.nodup_cons.mpr ⟨by simpa using hm, h⟩
    split
    · exact h
    dsimp only
    split
    · exact hnew.sublist (List.dropLast_sublist _)
    · exact hnew

theorem nodup_enter (block : Nat) (h : r.modules.Nodup) : (r.enter block).modules.Nodup := by
  unfold enter
  split
  · exact h
  · exact List.nodup_nil

end Recent

/-- What is asked of the modules used in a block, each time with a width of its own. -/
inductive WidthStep where
  | touch (block : Nat) (module : Word) (retain : Nat)
  | start (block : Nat)
  deriving DecidableEq, Repr

namespace WidthStep

def block : WidthStep → Nat
  | .touch b _ _ => b
  | .start b => b

def width? : WidthStep → Option Nat
  | .touch _ _ retain => some retain
  | .start _ => none

def next : WidthStep → Cache → Cache
  | .touch b m retain, c => (c.touchRecent b m retain).2
  | .start b, c => c.startBlock b

end WidthStep

namespace Cache

variable {c : Cache} {ts : List WidthStep} {block : Nat}

def throughWidths (c : Cache) (ts : List WidthStep) : Cache := ts.foldl (fun c t => t.next c) c

def widths (block : Nat) (ts : List WidthStep) : List Nat :=
  (ts.reverse.takeWhile (·.block = block)).filterMap WidthStep.width?

theorem widths_snoc (block : Nat) (ts : List WidthStep) (t : WidthStep) :
    widths block (ts ++ [t]) =
      if t.block = block then t.width?.toList ++ widths block ts else [] := by
  unfold widths
  rw [List.reverse_append, List.reverse_singleton, List.singleton_append, List.takeWhile_cons]
  by_cases hblock : t.block = block
  · simp only [hblock, decide_true, if_true, List.filterMap_cons]
    cases t.width? <;> rfl
  · simp [hblock]

/-- Of the modules used in the block that is entered there are no more than the widest use since then
asked for. -/
structure Held (ts : List WidthStep) (c : Cache) : Prop where
  nodup : c.recent.modules.Nodup
  bounded : ∀ block n, (∀ w ∈ widths block ts, w ≤ n) → (c.recent.enter block).modules.length ≤ n

theorem recent_next (t : WidthStep) (c : Cache) : (t.next c).recent = match t with
    | .touch b m retain => ((c.recent.enter b).touch m retain).2
    | .start b => c.recent.enter b := by
  cases t <;> rfl

theorem block_next (t : WidthStep) (c : Cache) : (t.next c).recent.block = some t.block := by
  rw [recent_next]
  cases t with
  | touch b m retain => exact (Recent.block_touch m retain _).trans (Recent.block_enter b _)
  | start b => exact Recent.block_enter b _

theorem length_next (t : WidthStep) {c : Cache} {n : Nat} (hwidth : ∀ w ∈ t.width?, w ≤ n)
    (h : (c.recent.enter t.block).modules.length ≤ n) : (t.next c).recent.modules.length ≤ n := by
  rw [recent_next]
  cases t with
  | touch b m retain =>
    have hretain : retain ≤ n := hwidth retain rfl
    exact (Recent.length_touch_le m retain _).trans (Nat.max_le.mpr ⟨hretain, h⟩)
  | start b => exact h

theorem Held.next (h : c.Held ts) (t : WidthStep) : (t.next c).Held (ts ++ [t]) where
  nodup := by
    rw [recent_next]
    cases t with
    | touch b m retain => exact Recent.nodup_touch m retain (Recent.nodup_enter b h.nodup)
    | start b => exact Recent.nodup_enter b h.nodup
  bounded := by
    intro block n hn
    rw [widths_snoc] at hn
    by_cases hblock : t.block = block
    · subst hblock
      rw [if_pos rfl] at hn
      rw [enter_self (block_next t c)]
      refine length_next t (fun w hw => ?_) (h.bounded _ n fun w hw => ?_)
      · exact hn w (List.mem_append_left _ (Option.mem_toList.mpr hw))
      · exact hn w (List.mem_append_right _ hw)
    · have hother : (t.next c).recent.block ≠ some block := by
        rw [block_next]
        exact fun heq => hblock (Option.some.inj heq)
      rw [enter_other hother]
      exact Nat.zero_le n

theorem held_ofCapacity (n : Nat) : (ofCapacity n).Held [] :=
  ⟨List.nodup_nil, fun _ n _ => by rw [enter_other (fun h => by cases h)]; exact Nat.zero_le n⟩

theorem held_through (h : c.Held []) (ts : List WidthStep) : (c.throughWidths ts).Held ts := by
  induction ts using List.reverseRecOn with
  | nil => exact h
  | append_singleton ts t ih =>
    rw [throughWidths, List.foldl_concat]
    exact ih.next t

/-- Whatever was asked of the modules used in a block, a use leaves no more of them than the widest
one since the block was entered asked for. It keeps to its own width if none of the others asked for
more, and just if there were no more modules than that when it came. -/
theorem widest_holds (capacity : Nat) (ts : List WidthStep) (block : Nat) (m : Word) (retain : Nat) :
    let c := (ofCapacity capacity).throughWidths ts
    let held := (c.touchRecent block m retain).2.recent.modules
    held.Nodup ∧
      (∀ n, retain ≤ n → (∀ w ∈ widths block ts, w ≤ n) → held.length ≤ n) ∧
      ((∀ w ∈ widths block ts, w ≤ retain) → held.length ≤ retain) ∧
      (held.length ≤ retain ↔ (c.startBlock block).recent.modules.length ≤ retain) := by
  intro c held
  have hc : c.Held ts := held_through (held_ofCapacity capacity) ts
  have hbound : ∀ n, retain ≤ n → (∀ w ∈ widths block ts, w ≤ n) → held.length ≤ n := by
    intro n hretain hn
    refine length_next (.touch block m retain) (fun w hw => ?_) (hc.bounded block n hn)
    exact Option.some.inj hw ▸ hretain
  exact ⟨(hc.next (.touch block m retain)).nodup, hbound, hbound retain (Nat.le_refl retain),
    Recent.length_touch_le_iff⟩

/-- Three modules are used with room for two, and two of them are left. -/
theorem widest_holds_two : let ts : List WidthStep := [.touch 7 1 2, .touch 7 2 2]
    (∀ w ∈ widths 7 ts, w ≤ 2) ∧
      (((ofCapacity 4).throughWidths ts).touchRecent 7 3 2).2.recent.modules.length ≤ 2 := by
  intro ts
  have hnarrow : ∀ w ∈ widths 7 ts, w ≤ 2 := by decide
  obtain ⟨-, -, hfits, -⟩ := widest_holds 4 ts 7 3 2
  exact ⟨hnarrow, hfits hnarrow⟩

/-- A use that asks for room for one module leaves two, as there was room for two before it. -/
theorem narrow_holds_two : ¬ ∀ (ts : List WidthStep) (block : Nat) (m : Word) (retain : Nat),
    (((ofCapacity 1024).throughWidths ts).touchRecent block m retain).2.recent.modules.length ≤
      retain := by
  intro h
  exact absurd (h [.touch 1 1 2, .touch 1 2 2] 1 3 1) (by decide)

end Cache
end Inkwell
