import Inkwell.Proofs.Pages
set_option autoImplicit false

/-! Meters under any operations, in any order and whatever fails on the way: what bounds them, what
they have been paid, and how frames give back what they took. -/

namespace Inkwell.Meter

variable {m m' m'' : Meter} {op : Op} {ops : List Op}

/-- One operation or many: ink is only spent, pages are only opened, and what a meter was started with
stays. -/
structure Uses (m m' : Meter) : Prop extends Spends m m' where
  maxStack : m'.maxStack = m.maxStack
  pageLimit : m'.pageLimit = m.pageLimit
  pagePrice : m'.pagePrice = m.pagePrice
  pagesOpen : m.pagesOpen ≤ m'.pagesOpen
  pagesEver : m.pagesEver ≤ m'.pagesEver

theorem Uses.refl (m : Meter) : Uses m m :=
  ⟨.refl m, rfl, rfl, rfl, Nat.le_refl _, Nat.le_refl _⟩

theorem Uses.trans (h : Uses m m') (h' : Uses m' m'') : Uses m m'' where
  toSpends := h.toSpends.trans h'.toSpends
  maxStack := h'.maxStack.trans h.maxStack
  pageLimit := h'.pageLimit.trans h.pageLimit
  pagePrice := h'.pagePrice.trans h.pagePrice
  pagesOpen := h.pagesOpen.trans h'.pagesOpen
  pagesEver := h.pagesEver.trans h'.pagesEver

/-- A meter within its budget. Pages that were open at its start may be more than it allows. -/
structure Sound (opened : Nat) (m : Meter) : Prop where
  inkLeft : m.inkLeft ≤ m.inkLimit
  stackLeft : m.stackLeft ≤ m.maxStack
  pagesOpen : m.pagesOpen ≤ m.pagesEver
  limited : m.pagesOpen ≤ max opened m.pageLimit

/-! ### Steps -/

def price? (m : Meter) : Op → Option Nat
  | .buyInk ink => some ink
  | .buyGas gas => some (m.price.toInk gas)
  | .grow pages =>
    if pages = 0 ∨ m.pageLimit < m.pagesOpen + pages then none
    else some (m.price.toInk (m.pagePrice.cost pages m.pagesOpen m.pagesEver))
  | _ => none

theorem uses_run (op : Op) : Uses m (m.run op).1 := by
  have hrefl := Uses.refl m
  have hbuy : ∀ ink, Uses m (m.buyInk ink).1 := fun ink => by
    rcases m.buyInk_cases ink with ⟨-, h⟩ | ⟨-, h⟩ <;> rw [h]
    · exact { hrefl with inkLeft := Nat.sub_le _ _ }
    · exact { hrefl with inkLeft := Nat.zero_le _ }
  cases op with
  | requireInk ink => exact hrefl
  | buyInk ink => exact hbuy ink
  | buyGas gas => exact hbuy _
  | grow pages =>
    change Uses m (m.grow pages).1
    rcases m.grow_cases pages with ⟨-, h⟩ | ⟨-, -, h⟩ | ⟨-, -, -, h⟩ | ⟨-, -, -, h⟩ <;> rw [h]
    · exact hrefl
    · exact hrefl
    · exact { hrefl with inkLeft := Nat.zero_le _ }
    · exact { hrefl with
        inkLeft := Nat.sub_le _ _
        pagesOpen := Nat.le_add_right _ _
        pagesEver := Nat.le_max_left _ _ }
  | enter words =>
    change Uses m (m.enter words).1
    rcases m.enter_cases words with ⟨-, h⟩ | ⟨-, h⟩ <;> rw [h] <;> exact { hrefl with }
  | exit words => exact { hrefl with }

theorem Sound.run {opened : Nat} (h : m.Sound opened) (op : Op) : (m.run op).1.Sound opened := by
  have hbuy : ∀ ink, (m.buyInk ink).1.Sound opened := fun ink => by
    rcases m.buyInk_cases ink with ⟨-, hbought⟩ | ⟨-, hbought⟩ <;> rw [hbought]
    · exact { h with inkLeft := (Nat.sub_le _ _).trans h.inkLeft }
    · exact { h with inkLeft := Nat.zero_le _ }
  cases op with
  | requireInk ink => exact h
  | buyInk ink => exact hbuy ink
  | buyGas gas => exact hbuy _
  | grow pages =>
    change (m.grow pages).1.Sound opened
    rcases m.grow_cases pages with ⟨-, hgrown⟩ | ⟨-, -, hgrown⟩ | ⟨-, -, -, hgrown⟩ |
      ⟨-, hlimit, -, hgrown⟩ <;> rw [hgrown]
    · exact h
    · exact h
    · exact { h with inkLeft := Nat.zero_le _ }
    · exact { h with
        inkLeft := (Nat.sub_le _ _).trans h.inkLeft
        pagesOpen := Nat.le_max_right _ _
        limited := hlimit.trans (Nat.le_max_right _ _) }
  | enter words =>
    change (m.enter words).1.Sound opened
    rcases m.enter_cases words with ⟨-, hentered⟩ | ⟨-, hentered⟩ <;> rw [hentered]
    · exact { h with stackLeft := (Nat.sub_le _ _).trans h.stackLeft }
    · exact { h with stackLeft := Nat.zero_le _ }
  | exit words => exact { h with stackLeft := Nat.min_le_right _ _ }

theorem inkLeft_of_free (h : m.price? op = none) : (m.run op).1.inkLeft = m.inkLeft := by
  cases op with
  | requireInk ink => rfl
  | buyInk ink => cases h
  | buyGas gas => cases h
  | grow pages =>
    change (m.grow pages).1.inkLeft = m.inkLeft
    simp only [price?, ite_eq_left_iff, reduceCtorEq, imp_false, not_not] at h
    rcases m.grow_cases pages with ⟨-, hgrown⟩ | ⟨-, -, hgrown⟩ | ⟨hpages, hlimit, -, -⟩ |
      ⟨hpages, hlimit, -, -⟩
    · rw [hgrown]
    · rw [hgrown]
    · omega
    · omega
  | enter words =>
    change (m.enter words).1.inkLeft = m.inkLeft
    rcases m.enter_cases words with ⟨-, hentered⟩ | ⟨-, hentered⟩ <;> rw [hentered]
  | exit words => rfl

theorem inkLeft_of_price {n : Nat} (h : m.price? op = some n) :
    (m.run op).2 = none ∧ n ≤ m.inkLeft ∧ (m.run op).1.inkLeft = m.inkLeft - n ∨
      (m.run op).2 = some .outOfInk ∧ (m.run op).1.inkLeft = 0 := by
  have hbuy : ∀ ink, (m.buyInk ink).2 = none ∧ ink ≤ m.inkLeft ∧
      (m.buyInk ink).1.inkLeft = m.inkLeft - ink ∨
        (m.buyInk ink).2 = some .outOfInk ∧ (m.buyInk ink).1.inkLeft = 0 := fun ink => by
    rcases m.buyInk_cases ink with ⟨hink, hbought⟩ | ⟨-, hbought⟩ <;> rw [hbought]
    · exact .inl ⟨rfl, hink, rfl⟩
    · exact .inr ⟨rfl, rfl⟩
  cases op with
  | buyInk ink => exact Option.some.inj h ▸ hbuy ink
  | buyGas gas => exact Option.some.inj h ▸ hbuy _
  | grow pages =>
    change (m.grow pages).2 = none ∧ _ ∧ (m.grow pages).1.inkLeft = _ ∨
      (m.grow pages).2 = _ ∧ (m.grow pages).1.inkLeft = _
    simp only [price?, Option.ite_none_left_eq_some, not_or, Nat.not_lt, Option.some.injEq] at h
    obtain ⟨⟨hpages, hlimit⟩, rfl⟩ := h
    rcases m.grow_cases pages with ⟨hnone, -⟩ | ⟨-, hover, -⟩ | ⟨-, -, -, hgrown⟩ |
      ⟨-, -, hink, hgrown⟩
    · exact absurd hnone hpages
    · omega
    · rw [hgrown]
      exact .inr ⟨rfl, rfl⟩
    · rw [hgrown]
      exact .inl ⟨rfl, hink, rfl⟩
  | requireInk ink => cases h
  | enter words => cases h
  | exit words => cases h

/-! ### Runs -/

theorem after_append (m : Meter) (done ops : List Op) :
    m.after (done ++ ops) = (m.after done).after ops := List.foldl_append

theorem uses_after (ops : List Op) : Uses m (m.after ops) := by
  induction ops generalizing m with
  | nil => exact .refl m
  | cons op ops ih => exact (uses_run op).trans ih

theorem Sound.after {opened : Nat} (h : m.Sound opened) (ops : List Op) :
    (m.after ops).Sound opened := by
  induction ops generalizing m with
  | nil => exact h
  | cons op ops ih => exact ih (h.run op)

/-- All operations of a kind succeed, each at the meter that those before it leave. -/
def Succeeds (kind : Meter → Op → Prop) (m : Meter) (ops : List Op) : Prop :=
  ∀ done op rest, ops = done ++ op :: rest → kind (m.after done) op →
    ((m.after done).run op).2 = none

section

variable {kind : Meter → Op → Prop}

theorem succeeds_nil : m.Succeeds kind [] := fun done op rest hops => by simp at hops

theorem Succeeds.append {done : List Op} (h : m.Succeeds kind (done ++ ops)) :
    m.Succeeds kind done ∧ (m.after done).Succeeds kind ops := by
  refine ⟨fun before op rest hops => h before op (rest ++ ops) (by simp [hops]), ?_⟩
  intro before op rest hops hkind
  have hsucceeds := h (done ++ before) op rest (by simp [hops])
  rw [after_append] at hsucceeds
  exact hsucceeds hkind

theorem Succeeds.head (h : m.Succeeds kind (op :: ops)) (hkind : kind m op) : (m.run op).2 = none :=
  h [] op ops rfl hkind

theorem Succeeds.tail (h : m.Succeeds kind (op :: ops)) : (m.run op).1.Succeeds kind ops := by
  have happend : m.Succeeds kind ([op] ++ ops) := h
  exact happend.append.2

theorem succeeds_cons (hop : kind m op → (m.run op).2 = none)
    (hops : (m.run op).1.Succeeds kind ops) : m.Succeeds kind (op :: ops) := by
  intro done op' rest hsplit hkind
  cases done with
  | nil =>
    obtain ⟨rfl, -⟩ := List.cons.inj hsplit
    exact hop hkind
  | cons op'' done =>
    obtain ⟨rfl, rfl⟩ := List.cons.inj hsplit
    exact hops done op' rest rfl hkind

end

def Buys (m : Meter) (op : Op) : Prop := (m.price? op).isSome

def paid (m : Meter) : List Op → List Nat
  | [] => []
  | op :: ops => (if (m.run op).2 = none then (m.price? op).toList else []) ++ paid (m.run op).1 ops

/-- Nothing is spent but on purchases. -/
theorem inkLeft_after (h : m.Succeeds Buys ops) :
    (m.after ops).inkLeft + (m.paid ops).sum = m.inkLeft := by
  induction ops generalizing m with
  | nil => rfl
  | cons op ops ih =>
    have hrest : ((m.run op).1.after ops).inkLeft + _ = _ := ih h.tail
    change ((m.run op).1.after ops).inkLeft + _ = _
    rw [paid, List.sum_append]
    cases hprice : m.price? op with
    | none =>
      have hsame := inkLeft_of_free hprice
      simp only [Option.toList_none, ite_self, List.sum_nil]
      omega
    | some n =>
      have hsuccess := h.head (by rw [Buys, hprice]; rfl)
      rcases inkLeft_of_price hprice with ⟨-, henough, hink⟩ | ⟨hfailed, -⟩
      · simp only [if_pos hsuccess, Option.toList_some, List.sum_singleton]
        omega
      · rw [hsuccess] at hfailed
        cases hfailed

theorem inkLeft_after_failed (h : ¬ m.Succeeds Buys ops) : (m.after ops).inkLeft = 0 := by
  induction ops generalizing m with
  | nil => exact absurd succeeds_nil h
  | cons op ops ih =>
    by_cases hop : m.Buys op → (m.run op).2 = none
    · exact ih fun hrest => h (succeeds_cons hop hrest)
    · obtain ⟨hbuys, hfailed⟩ := Classical.not_imp.mp hop
      obtain ⟨n, hprice⟩ := Option.isSome_iff_exists.mp hbuys
      rcases inkLeft_of_price hprice with ⟨hsuccess, -⟩ | ⟨-, hnone⟩
      · exact absurd hsuccess hfailed
      · exact Nat.le_zero.mp (((uses_after ops).inkLeft).trans (Nat.le_of_eq hnone))

/-! ### Frames -/

def Op.isFrame : Op → Bool
  | .enter _ | .exit _ => true
  | _ => false

def Enters (_ : Meter) (op : Op) : Prop := ∃ words, op = .enter words

/-- Every frame is left with as many words as it was entered with. -/
inductive Nested : List Op → Prop
  | nil : Nested []
  | other {op : Op} {ops : List Op} : op.isFrame = false → Nested ops → Nested (op :: ops)
  | frame {words : Nat} {body ops : List Op} :
      Nested body → Nested ops → Nested (.enter words :: (body ++ .exit words :: ops))

theorem stackLeft_run (h : op.isFrame = false) : (m.run op).1.stackLeft = m.stackLeft := by
  have hbuy : ∀ ink, (m.buyInk ink).1.stackLeft = m.stackLeft := fun ink => by
    rcases m.buyInk_cases ink with ⟨-, h⟩ | ⟨-, h⟩ <;> rw [h]
  cases op with
  | requireInk ink => rfl
  | buyInk ink => exact hbuy ink
  | buyGas gas => exact hbuy _
  | grow pages =>
    change (m.grow pages).1.stackLeft = m.stackLeft
    rcases m.grow_cases pages with ⟨-, h⟩ | ⟨-, -, h⟩ | ⟨-, -, -, h⟩ | ⟨-, -, -, h⟩ <;> rw [h]
  | enter words => cases h
  | exit words => cases h

theorem stackLeft_enter {words : Nat} (h : (m.run (.enter words)).2 = none) :
    words ≤ m.stackLeft ∧ (m.run (.enter words)).1.stackLeft = m.stackLeft - words := by
  change (m.enter words).2 = none at h
  change _ ∧ (m.enter words).1.stackLeft = _
  rcases m.enter_cases words with ⟨henough, hentered⟩ | ⟨-, hentered⟩ <;> rw [hentered] at h ⊢
  · exact ⟨henough, rfl⟩
  · cases h

theorem stackLeft_nested (h : Nested ops) (hm : m.stackLeft ≤ m.maxStack)
    (henters : m.Succeeds Enters ops) : (m.after ops).stackLeft = m.stackLeft := by
  induction h generalizing m with
  | nil => rfl
  | @other op ops hop _ ih =>
    have hsame := stackLeft_run (m := m) hop
    have hmax := (uses_run (m := m) op).maxStack
    exact (ih (by rw [hsame, hmax]; exact hm) henters.tail).trans hsame
  | @frame words body ops _ _ ihbody ihops =>
    obtain ⟨henough, hentered⟩ := stackLeft_enter (henters.head ⟨words, rfl⟩)
    obtain ⟨hbody, hrest⟩ := henters.tail.append
    generalize hinside : (m.run (.enter words)).1 = inside at hentered hbody hrest
    have hmax : inside.maxStack = m.maxStack := hinside ▸ (uses_run (.enter words)).maxStack
    have hback := ihbody (by omega) hbody
    have hstill := (uses_after (m := inside) body).maxStack
    have hleft : ((inside.after body).run (.exit words)).1.stackLeft = m.stackLeft := by
      change min ((inside.after body).stackLeft + words) (inside.after body).maxStack = _
      omega
    have hlast := (uses_run (m := inside.after body) (.exit words)).maxStack
    have hops := ihops (by omega) hrest.tail
    change ((m.run (.enter words)).1.after (body ++ .exit words :: ops)).stackLeft = _
    rw [hinside, after_append]
    exact hops.trans hleft

/-! ### The meter as a whole -/

theorem sound_start (p : Params) (ink : Nat) {opened ever : Nat} (h : opened ≤ ever) :
    (start p ink opened ever).Sound opened :=
  ⟨Nat.le_refl _, Nat.le_refl _, h, Nat.le_max_left _ _⟩

/-- A growth that is refused changes nothing, or costs all the ink and opens nothing. -/
structure Refuses (m : Meter) (pages : Nat) : Prop where
  memory : ∀ opened limit, (m.grow pages).2 = some (.outOfMemory opened limit) → (m.grow pages).1 = m
  ink : (m.grow pages).2 = some .outOfInk → (m.grow pages).1 = { m with inkLeft := 0 }

theorem refuses (m : Meter) (pages : Nat) : m.Refuses pages := by
  rcases m.grow_cases pages with ⟨-, h⟩ | ⟨-, -, h⟩ | ⟨-, -, -, h⟩ | ⟨-, -, -, h⟩ <;>
    constructor <;> simp [h]

/-- A meter after any operations, some of which may have failed. It stays within its budget: ink and
stack up to what it started with, no more pages open than there were at most, and no more than its
limit unless they were open before. Each further operation spends ink and opens pages or leaves them,
looking at the ink changes nothing, and a growth within the limit has room in sixteen bits. Until a
purchase fails, the ink used is what the purchases were paid; afterwards there is none left. Frames
that are all entered give back the stack that they took. -/
theorem budgets_kept (p : Params) (ink : Nat) {opened ever : Nat} (hopened : opened ≤ ever)
    (ops : List Op) :
    let first := start p ink opened ever
    let m := first.after ops
    Uses first m ∧ m.Sound opened ∧
    (∀ op, Uses m (m.run op).1) ∧
    (∀ n, (m.run (.requireInk n)).1 = m) ∧
    (∀ n, m.Refuses n ∧ (n ≠ 0 → (m.grow n).2 = none →
      (m.grow n).1.pagesOpen = m.pagesOpen + n ∧ m.pagesOpen + n < 2 ^ 16)) ∧
    (first.Succeeds Buys ops → m.inkUsed = (first.paid ops).sum) ∧
    (¬ first.Succeeds Buys ops → m.inkLeft = 0) ∧
    (∀ frames, Nested frames → m.Succeeds Enters frames →
      (m.after frames).stackLeft = m.stackLeft) := by
  intro first m
  have huses : Uses first m := uses_after ops
  have hsound : m.Sound opened := (sound_start p ink hopened).after ops
  refine ⟨huses, hsound, uses_run, fun n => rfl, fun n => ⟨m.refuses n, fun hn hgrown => ?_⟩,
    fun hpaid => ?_, inkLeft_after_failed, fun frames hframes => stackLeft_nested hframes hsound.stackLeft⟩
  · obtain ⟨hlimit, -, hafter⟩ := grow_of_success hn hgrown
    have hnarrow : first.pageLimit < 2 ^ 16 := p.pageLimit.toNat_lt
    rw [huses.pageLimit] at hlimit
    rw [hafter]
    exact ⟨rfl, by omega⟩
  · have hleft : m.inkLeft + (first.paid ops).sum = first.inkLeft := inkLeft_after hpaid
    have hstart : first.inkLeft = first.inkLimit := rfl
    have hlimit := huses.inkLimit
    unfold inkUsed
    omega

theorem budgets_kept_small : 2 ≤ 2 ∧
    let m := (start {} 100 2 2).after [.buyInk 40, .requireInk 61]
    m.inkUsed = 40 ∧ (m.after [.enter 8, .exit 8]).stackLeft = m.stackLeft := by
  refine ⟨Nat.le_refl 2, ?_⟩
  obtain ⟨-, -, -, -, -, hpaid, -, hframes⟩ :=
    budgets_kept {} 100 (Nat.le_refl 2) [.buyInk 40, .requireInk 61]
  refine ⟨hpaid ?_, hframes _ (.frame .nil .nil) ?_⟩
  · exact succeeds_cons (fun _ => rfl) (succeeds_cons nofun succeeds_nil)
  · exact succeeds_cons (fun _ => rfl) (succeeds_cons nofun succeeds_nil)

end Inkwell.Meter
