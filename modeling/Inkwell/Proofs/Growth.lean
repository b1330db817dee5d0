import Inkwell.Proofs.Pages
set_option autoImplicit false

/-! Opening pages in steps: what the steps cost together, against what it costs to open all the pages
at once. Only the ramp below the free pages makes a difference. -/

namespace Inkwell

namespace PageCharge

def mark (x : PageCharge) : Nat := max x.ever x.opened

def pastFree (x : PageCharge) : Bool := x.price.free < x.mark

end PageCharge

namespace PagePrice

/-- Growing step by step, each at the counts of pages that those before it left. -/
def steps (p : PagePrice) (now ever : Nat) : List Nat → List PageCharge
  | [] => []
  | n :: ns =>
    let x : PageCharge := ⟨p, n, now, ever⟩
    x :: steps p x.opened x.mark ns

def stepsCost (p : PagePrice) (now ever : Nat) (ns : List Nat) : Nat :=
  ((p.steps now ever ns).map PageCharge.gas).sum

def crossing? (p : PagePrice) (now ever : Nat) (ns : List Nat) : Option PageCharge :=
  (p.steps now ever ns).find? PageCharge.pastFree

section

variable {p : PagePrice} {now ever n : Nat} {ns : List Nat}

theorem opened_eq (h : now + n ≤ 128) : min (now + n) maxPages = now + n :=
  Nat.min_eq_left (h.trans (by decide))

theorem steps_cons (h : now + n ≤ 128) : p.steps now ever (n :: ns) =
    ⟨p, n, now, ever⟩ :: p.steps (now + n) (max ever (now + n)) ns := by
  simp only [steps, PageCharge.mark, PageCharge.opened, opened_eq h]

theorem stepsCost_cons (h : now + n ≤ 128) : p.stepsCost now ever (n :: ns) =
    p.cost n now ever + p.stepsCost (now + n) (max ever (now + n)) ns := by
  rw [stepsCost, steps_cons h, List.map_cons, List.sum_cons]
  rfl

theorem crossing?_cons (h : now + n ≤ 128) : p.crossing? now ever (n :: ns) =
    if p.free < max ever (now + n) then some ⟨p, n, now, ever⟩
    else p.crossing? (now + n) (max ever (now + n)) ns := by
  rw [crossing?, steps_cons h, List.find?_cons, PageCharge.pastFree, PageCharge.mark,
    PageCharge.opened, opened_eq h]
  by_cases hpast : p.free < max ever (now + n) <;> simp [hpast, crossing?]

theorem cost_of_free (h : now + n ≤ 128) (hfree : max ever (now + n) ≤ p.free) :
    p.cost n now ever = 0 := by
  simp only [cost, opened_eq h, if_pos hfree]

theorem cost_of_pastFree (hp : p.perPage ≤ 65535) (h : now + n ≤ 128) (hever : ever ≤ 128)
    (hpast : p.free < max ever (now + n)) : p.cost n now ever =
      ((now + n - p.free) - (now - p.free)) * p.perPage +
        (rampAt (max ever (now + n)) - rampAt ever) := by
  have hpages : ((now + n - p.free) - (now - p.free)) * p.perPage ≤ 128 * 65535 :=
    Nat.mul_le_mul (by omega) hp
  have hramp : rampAt (max ever (now + n)) ≤ 31873999 := rampAt_le (by omega)
  have hfits : 128 * 65535 + 31873999 ≤ max64 := by decide
  simp only [cost, opened_eq h, if_neg (Nat.not_le.mpr hpast)]
  exact clamp64_eq (by omega)

/-- A growth that goes past the free pages with its first `n` pages costs as much as those and the
rest one after the other. -/
theorem cost_add {k : Nat} (hp : p.perPage ≤ 65535) (h : now + (n + k) ≤ 128) (hever : ever ≤ 128)
    (hpast : p.free < max ever (now + n)) :
    p.cost n now ever + p.cost k (now + n) (max ever (now + n)) = p.cost (n + k) now ever := by
  have hfirst := rampAt_mono (Nat.le_max_left ever (now + n)) (by omega)
  have hsecond := rampAt_mono (Nat.le_max_left (max ever (now + n)) (now + n + k)) (by omega)
  have hmark : max (max ever (now + n)) (now + n + k) = max ever (now + (n + k)) := by omega
  have hpages : ((now + n - p.free) - (now - p.free)) + ((now + n + k - p.free) - (now + n - p.free)) =
      (now + (n + k) - p.free) - (now - p.free) := by omega
  rw [cost_of_pastFree hp (by omega) hever hpast, cost_of_pastFree hp (by omega) (by omega) (by omega),
    cost_of_pastFree hp h hever (by omega), hmark, ← hpages, Nat.add_mul]
  rw [hmark] at hsecond
  omega

/-- A growth that stays within the free pages with its first `n` pages costs as much as the rest does,
and what the ramp rises over the first ones. -/
theorem cost_after_free {k : Nat} (hp : p.perPage ≤ 65535) (h : now + (n + k) ≤ 128) (hever : ever ≤ 128)
    (hfree : max ever (now + n) ≤ p.free) (hpast : p.free < max ever (now + (n + k))) :
    p.cost k (now + n) (max ever (now + n)) + (rampAt (max ever (now + n)) - rampAt ever) =
      p.cost (n + k) now ever := by
  have hfirst := rampAt_mono (Nat.le_max_left ever (now + n)) (by omega)
  have hsecond := rampAt_mono (Nat.le_max_left (max ever (now + n)) (now + n + k)) (by omega)
  have hmark : max (max ever (now + n)) (now + n + k) = max ever (now + (n + k)) := by omega
  have hpages : (now + n + k - p.free) - (now + n - p.free) =
      (now + (n + k) - p.free) - (now - p.free) := by omega
  rw [cost_of_pastFree hp (by omega) (by omega) (by omega), cost_of_pastFree hp h hever hpast, hmark,
    hpages]
  rw [hmark] at hsecond
  omega

theorem cost_zero (hp : p.perPage ≤ 65535) (hnow : now ≤ ever) (hever : ever ≤ 128) :
    p.cost 0 now ever = 0 := by
  by_cases hpast : p.free < max ever (now + 0)
  · have hmark : max ever (now + 0) = ever := by omega
    rw [cost_of_pastFree hp (by omega) hever hpast, hmark]
    simp
  · exact cost_of_free (by omega) (Nat.not_lt.mp hpast)

theorem stepsCost_of_pastFree (hp : p.perPage ≤ 65535) (hnow : now ≤ ever) (hever : ever ≤ 128)
    (hsum : now + ns.sum ≤ 128) (hpast : p.free < ever) :
    p.stepsCost now ever ns = p.cost ns.sum now ever := by
  induction ns generalizing now ever with
  | nil => exact (cost_zero hp hnow hever).symm
  | cons n ns ih =>
    rw [List.sum_cons] at hsum ⊢
    rw [stepsCost_cons (by omega), ih (by omega) (by omega) (by omega) (by omega)]
    exact cost_add hp hsum hever (by omega)

theorem stepsCost_of_none (hsum : now + ns.sum ≤ 128) (h : p.crossing? now ever ns = none) :
    p.stepsCost now ever ns = 0 ∧ (ns ≠ [] → max ever (now + ns.sum) ≤ p.free) := by
  induction ns generalizing now ever with
  | nil => exact ⟨rfl, fun hns => absurd rfl hns⟩
  | cons n ns ih =>
    rw [List.sum_cons] at hsum ⊢
    rw [crossing?_cons (by omega)] at h
    by_cases hpast : p.free < max ever (now + n)
    · rw [if_pos hpast] at h
      cases h
    rw [if_neg hpast] at h
    obtain ⟨hrest, hmark⟩ := ih (by omega) h
    rw [stepsCost_cons (by omega), cost_of_free (by omega) (by omega), hrest]
    refine ⟨rfl, fun _ => ?_⟩
    cases ns with
    | nil => simpa using Nat.not_lt.mp hpast
    | cons k ns =>
      have hrest := hmark nofun
      omega

/-- Steps leave out what the ramp rises up to the mark at which they go past the free pages. -/
theorem stepsCost_of_crossing {x : PageCharge} (hp : p.perPage ≤ 65535) (hnow : now ≤ ever)
    (hever : ever ≤ 128) (hsum : now + ns.sum ≤ 128) (h : p.crossing? now ever ns = some x) :
    ever ≤ x.ever ∧ x.ever ≤ max ever p.free ∧ x.ever ≤ 128 ∧ p.free < max ever (now + ns.sum) ∧
      p.stepsCost now ever ns + (rampAt x.ever - rampAt ever) = p.cost ns.sum now ever := by
  induction ns generalizing now ever with
  | nil => cases h
  | cons n ns ih =>
    rw [List.sum_cons] at hsum ⊢
    rw [crossing?_cons (by omega)] at h
    rw [stepsCost_cons (by omega)]
    by_cases hpast : p.free < max ever (now + n)
    · rw [if_pos hpast] at h
      obtain rfl := Option.some.inj h
      have hcost := cost_add (k := ns.sum) hp hsum hever hpast
      rw [stepsCost_of_pastFree hp (by omega) (by omega) (by omega) hpast, hcost]
      dsimp only
      omega
    · rw [if_neg hpast] at h
      have hfree : max ever (now + n) ≤ p.free := Nat.not_lt.mp hpast
      obtain ⟨hbefore, hbound, hramp, hreached, hcost⟩ := ih (by omega) (by omega) (by omega) h
      have hfirst := rampAt_mono (Nat.le_max_left ever (now + n)) (by omega)
      have hsecond := rampAt_mono hbefore hramp
      have hwhole := cost_after_free hp hsum hever hfree (by omega)
      rw [cost_of_free (by omega) hfree]
      omega

end

/-- Growing in steps, from any counts of pages on the ramp and under any price. The steps together cost
what the growth costs at once, less what the ramp rises up to the mark at which they first go past the
free pages. So steps never cost more, and they cost the same where no more pages are free than the ramp
is level for, or where the free pages were passed before. -/
theorem growth_in_steps (free perPage : UInt16) {now ever : Nat} (ns : List Nat) (hnow : now ≤ ever)
    (hever : ever ≤ 128) (hsum : now + ns.sum ≤ 128) :
    let p : PagePrice := ⟨free.toNat, perPage.toNat⟩
    (p.crossing? now ever ns = none → p.stepsCost now ever ns = p.cost ns.sum now ever) ∧
    (∀ x, p.crossing? now ever ns = some x → rampAt ever ≤ rampAt x.ever ∧
      p.stepsCost now ever ns + (rampAt x.ever - rampAt ever) = p.cost ns.sum now ever) ∧
    p.stepsCost now ever ns ≤ p.cost ns.sum now ever ∧
    (p.free ≤ 5 ∨ p.free < ever → p.stepsCost now ever ns = p.cost ns.sum now ever) := by
  intro p
  have hp : p.perPage ≤ 65535 := Nat.le_of_lt_succ perPage.toNat_lt
  cases hcrossing : p.crossing? now ever ns with
  | none =>
    obtain ⟨hcost, hfree⟩ := stepsCost_of_none hsum hcrossing
    have hsame : p.stepsCost now ever ns = p.cost ns.sum now ever := by
      rw [hcost]
      cases ns with
      | nil => exact (cost_zero hp hnow hever).symm
      | cons n ns => exact (cost_of_free hsum (hfree nofun)).symm
    exact ⟨fun _ => hsame, nofun, Nat.le_of_eq hsame, fun _ => hsame⟩
  | some x =>
    obtain ⟨hbefore, hbound, hramp, -, hcost⟩ := stepsCost_of_crossing hp hnow hever hsum hcrossing
    refine ⟨nofun, ?_, by omega, fun hlevel => ?_⟩
    · rintro _ ⟨⟩
      exact ⟨rampAt_mono hbefore hramp, hcost⟩
    · have hsame : rampAt x.ever = rampAt ever := by
        by_cases hbelow : ever ≤ p.free
        · rw [rampAt_free (n := ever) (by omega), rampAt_free (by omega)]
        · have hfirst : x.ever = ever := by omega
          rw [hfirst]
      omega

/-- With ten free pages, eight pages twice are cheaper than sixteen by what the ramp rises to eight. -/
theorem growth_in_steps_twice : 0 ≤ 0 ∧ 0 ≤ 128 ∧ 0 + [8, 8].sum ≤ 128 ∧
    (PagePrice.mk 10 1000).stepsCost 0 0 [8, 8] + 1 = (PagePrice.mk 10 1000).cost 16 0 0 := by
  have hcost := (growth_in_steps 10 1000 [8, 8] (Nat.le_refl 0) (by decide) (by decide)).2.1
    ⟨⟨10, 1000⟩, 8, 8, 8⟩ rfl
  exact ⟨by decide, by decide, by decide, hcost.2⟩

end PagePrice
end Inkwell
