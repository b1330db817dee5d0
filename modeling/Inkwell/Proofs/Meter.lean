import Inkwell.Runner
set_option autoImplicit false

/-! What the operations of a meter can do to it, and how much gas the ink that is left buys back. -/

namespace Inkwell

namespace InkPrice

variable {p : InkPrice} {gas ink used : Nat}

theorem rate_pos (p : InkPrice) : 0 < p.rate := Nat.le_max_right _ _

theorem toGas_mono (h : ink ≤ used) : p.toGas ink ≤ p.toGas used := Nat.div_le_div_right h

theorem toGas_toInk_le (p : InkPrice) (gas : Nat) : p.toGas (p.toInk gas) ≤ gas := by
  have hclamped : p.toInk gas ≤ gas * p.rate := Nat.min_le_left _ _
  refine Nat.le_trans (toGas_mono hclamped) (Nat.le_of_eq ?_)
  exact Nat.mul_div_cancel gas p.rate_pos

theorem toInk_eq (h : gas * p.rate ≤ max64) : p.toInk gas = gas * p.rate := clamp64_eq h

theorem toGasCeil_le (h : used ≤ gas * p.rate) : p.toGasCeil used ≤ gas := by
  refine Nat.le_of_lt_succ ((Nat.div_lt_iff_lt_mul p.rate_pos).mpr ?_)
  have hpos := p.rate_pos
  rw [Nat.succ_mul]
  omega

theorem toGas_sub (h : used ≤ gas * p.rate) :
    p.toGas (gas * p.rate - used) = gas - p.toGasCeil used := by
  have hpos := p.rate_pos
  have hceil := toGasCeil_le h
  unfold toGas toGasCeil ceilDiv at *
  generalize p.rate = d at *
  have hround := Nat.div_add_mod (used + d - 1) d
  have hrest := Nat.mod_lt (used + d - 1) hpos
  generalize (used + d - 1) / d = n at *
  obtain ⟨k, rfl⟩ := Nat.exists_eq_add_of_le hceil
  have hback : (n + k) * d - used = d * k + (d - 1 - (used + d - 1) % d) := by
    rw [Nat.add_mul, Nat.mul_comm n, Nat.mul_comm k]
    omega
  rw [hback, Nat.mul_add_div hpos, Nat.div_eq_of_lt (by omega)]
  omega

end InkPrice

namespace Meter

/-- Ink may be spent; what it is priced at and how much there was stay. -/
structure Spends (m m' : Meter) : Prop where
  price : m'.price = m.price
  inkLimit : m'.inkLimit = m.inkLimit
  inkLeft : m'.inkLeft ≤ m.inkLeft

namespace Spends

variable {m m' m'' : Meter}

theorem refl (m : Meter) : Spends m m := ⟨rfl, rfl, Nat.le_refl _⟩

theorem trans (h : Spends m m') (h' : Spends m' m'') : Spends m m'' :=
  ⟨h'.price.trans h.price, h'.inkLimit.trans h.inkLimit, Nat.le_trans h'.inkLeft h.inkLeft⟩

end Spends

variable {m : Meter}

theorem buyInk_cases (m : Meter) (ink : Nat) :
    ink ≤ m.inkLeft ∧ m.buyInk ink = ({ m with inkLeft := m.inkLeft - ink }, none) ∨
      m.inkLeft < ink ∧ m.buyInk ink = ({ m with inkLeft := 0 }, some .outOfInk) := by
  unfold buyInk
  by_cases h : m.inkLeft < ink
  · exact .inr ⟨h, if_pos h⟩
  · exact .inl ⟨Nat.not_lt.mp h, if_neg h⟩

/-- A meter grows for its price, or there is nothing to grow, or it is refused for its limit or for
its ink. -/
theorem grow_cases (m : Meter) (pages : Nat) :
    let price := m.price.toInk (m.pagePrice.cost pages m.pagesOpen m.pagesEver)
    pages = 0 ∧ m.grow pages = (m, none) ∨
    pages ≠ 0 ∧ m.pageLimit < m.pagesOpen + pages ∧
      m.grow pages = (m, some (.outOfMemory (m.pagesOpen + pages) m.pageLimit)) ∨
    pages ≠ 0 ∧ m.pagesOpen + pages ≤ m.pageLimit ∧ m.inkLeft < price ∧
      m.grow pages = ({ m with inkLeft := 0 }, some .outOfInk) ∨
    pages ≠ 0 ∧ m.pagesOpen + pages ≤ m.pageLimit ∧ price ≤ m.inkLeft ∧
      m.grow pages = ({ m with
        inkLeft := m.inkLeft - price
        pagesOpen := m.pagesOpen + pages
        pagesEver := max m.pagesEver (m.pagesOpen + pages) }, none) := by
  intro price
  unfold grow
  by_cases hpages : pages = 0
  · exact .inl ⟨hpages, if_pos hpages⟩
  rw [if_neg hpages]
  by_cases hlimit : m.pageLimit < m.pagesOpen + pages
  · exact .inr (.inl ⟨hpages, hlimit, if_pos hlimit⟩)
  dsimp only
  rw [if_neg hlimit, buyGas]
  rcases m.buyInk_cases price with ⟨hink, hbought⟩ | ⟨hink, hbought⟩
  · rw [hbought]
    exact .inr (.inr (.inr ⟨hpages, Nat.not_lt.mp hlimit, hink, rfl⟩))
  · rw [hbought]
    exact .inr (.inr (.inl ⟨hpages, Nat.not_lt.mp hlimit, hink, rfl⟩))

theorem enter_cases (m : Meter) (words : Nat) :
    words ≤ m.stackLeft ∧ m.enter words = ({ m with stackLeft := m.stackLeft - words }, none) ∨
      m.stackLeft < words ∧ m.enter words = ({ m with stackLeft := 0 }, some .outOfStack) := by
  unfold enter
  by_cases h : m.stackLeft < words
  · exact .inr ⟨h, if_pos h⟩
  · exact .inl ⟨Nat.not_lt.mp h, if_neg h⟩

theorem spends_buyInk (ink : Nat) : Spends m (m.buyInk ink).1 := by
  rcases m.buyInk_cases ink with ⟨-, h⟩ | ⟨-, h⟩ <;> rw [h]
  · exact ⟨rfl, rfl, Nat.sub_le _ _⟩
  · exact ⟨rfl, rfl, Nat.zero_le _⟩

theorem spends_grow (pages : Nat) : Spends m (m.grow pages).1 := by
  rcases m.grow_cases pages with ⟨-, h⟩ | ⟨-, -, h⟩ | ⟨-, -, -, h⟩ | ⟨-, -, -, h⟩ <;> rw [h]
  · exact .refl m
  · exact .refl m
  · exact ⟨rfl, rfl, Nat.zero_le _⟩
  · exact ⟨rfl, rfl, Nat.sub_le _ _⟩

theorem spends_run (op : Op) : Spends m (m.run op).1 := by
  cases op with
  | requireInk ink => exact .refl m
  | buyInk ink => exact spends_buyInk ink
  | buyGas gas => exact spends_buyInk _
  | grow pages => exact spends_grow pages
  | enter words =>
    change Spends m (m.enter words).1
    rcases m.enter_cases words with ⟨-, h⟩ | ⟨-, h⟩ <;> rw [h] <;> exact ⟨rfl, rfl, Nat.le_refl _⟩
  | exit words => exact ⟨rfl, rfl, Nat.le_refl _⟩

theorem spends_after (m : Meter) (ops : List Op) : Spends m (m.after ops) := by
  induction ops generalizing m with
  | nil => exact .refl m
  | cons op ops ih => exact (spends_run op).trans (ih (m.run op).1)

theorem Spends.gasLeft_le {m' : Meter} {gas : Nat} (h : Spends m m')
    (hleft : m.inkLeft = m.price.toInk gas) : m'.gasLeft ≤ gas := by
  unfold Meter.gasLeft
  rw [h.price]
  exact Nat.le_trans (InkPrice.toGas_mono (hleft ▸ h.inkLeft)) (InkPrice.toGas_toInk_le _ _)

section
variable {m' : Meter} {gas : Nat} (h : Spends m m') (hlimit : m.inkLimit = m.price.toInk gas)
include h hlimit

theorem Spends.inkUsed_le (hfits : gas * m.price.rate ≤ max64) :
    m'.inkUsed ≤ gas * m.price.rate := by
  rw [← InkPrice.toInk_eq hfits, ← hlimit, ← h.inkLimit]
  exact Nat.sub_le _ _

theorem Spends.toGasCeil_inkUsed_le (hfits : gas * m.price.rate ≤ max64) :
    m.price.toGasCeil m'.inkUsed ≤ gas := InkPrice.toGasCeil_le (h.inkUsed_le hlimit hfits)

/-- Where the ink was all that the gas is worth, what is missing is the ink used, rounded up. -/
theorem Spends.gasLeft_eq (hleft : m.inkLeft = m.inkLimit) (hfits : gas * m.price.rate ≤ max64) :
    m'.gasLeft = gas - m.price.toGasCeil m'.inkUsed := by
  have hbound : m'.inkLeft ≤ m'.inkLimit := by
    rw [h.inkLimit, ← hleft]
    exact h.inkLeft
  have hall : m'.inkLimit = gas * m.price.rate := by
    rw [h.inkLimit, hlimit, InkPrice.toInk_eq hfits]
  have hback : m'.inkLeft = gas * m.price.rate - m'.inkUsed := by
    unfold Meter.inkUsed
    omega
  unfold Meter.gasLeft
  rw [h.price, hback]
  exact InkPrice.toGas_sub (h.inkUsed_le hlimit hfits)

end

theorem after_of_mem {ops : List Op} {s : Step} (h : s ∈ m.traceUntilError ops) :
    ∃ done, s.1 = m.after done := by
  induction ops generalizing m with
  | nil => cases h
  | cons op ops ih =>
    unfold traceUntilError at h
    rcases hrun : m.run op with ⟨m', e⟩
    rw [hrun] at h
    have hfirst : m' = m.after [op] := congrArg Prod.fst hrun.symm
    cases e with
    | some e =>
      rw [List.mem_singleton.mp h]
      exact ⟨[op], hfirst⟩
    | none =>
      rcases List.mem_cons.mp h with rfl | h
      · exact ⟨[op], hfirst⟩
      · obtain ⟨done, hdone⟩ := ih h
        refine ⟨op :: done, ?_⟩
        rw [hdone, hfirst]
        rfl

end Meter

theorem Script.metered (s : Script) : s.runner.Metered := by
  intro a e m
  unfold Script.runner
  cases hlast : (s.steps m).getLast? with
  | none => exact ⟨[], rfl⟩
  | some step =>
    obtain ⟨done, hdone⟩ := Meter.after_of_mem (List.mem_of_getLast? hlast)
    obtain ⟨m', e⟩ := step
    refine ⟨done, ?_⟩
    rw [← hdone]
    cases e <;> rfl

end Inkwell
