import Inkwell.Proofs.Entries
import Inkwell.Proofs.Meter
set_option autoImplicit false

/-! Pages across a transaction: what is charged for opening them, by the entries of calls and by the
programs as they grow, follows the most pages ever open. -/

namespace Inkwell

structure PageCharge where
  price : PagePrice
  pages : Nat
  now : Nat
  ever : Nat

namespace PageCharge

variable {x : PageCharge}

def opened (x : PageCharge) : Nat := min (x.now + x.pages) PagePrice.maxPages

def gas (x : PageCharge) : Nat := x.price.cost x.pages x.now x.ever

/-- The price of the newly opened pages that are not free, page by page. -/
def linear (x : PageCharge) : Nat :=
  ((x.opened - x.price.free) - (x.now - x.price.free)) * x.price.perPage

def exponential (x : PageCharge) : Nat := x.gas - x.linear

def Narrow (x : PageCharge) : Prop := x.price.perPage ≤ 65535

theorem linear_le_max64 (h : x.Narrow) : x.linear ≤ max64 := by
  have hpages : (x.opened - x.price.free) - (x.now - x.price.free) ≤ 65535 := by
    have hopened : x.opened ≤ 65535 := Nat.min_le_right _ _
    omega
  exact (Nat.mul_le_mul hpages h).trans (by decide)

theorem linear_le_gas (h : x.Narrow) : x.linear ≤ x.gas := by
  have hmax := linear_le_max64 h
  unfold gas PagePrice.cost
  dsimp only
  split
  · have hnone : (x.opened - x.price.free) - (x.now - x.price.free) = 0 := by
      unfold opened
      omega
    unfold linear
    rw [hnone, Nat.zero_mul]
  · change x.linear ≤ clamp64 (x.linear + _)
    unfold clamp64
    omega

end PageCharge

/-! ### The ramp -/

theorem rampAt_mono {m n : Nat} (h : m ≤ n) (hn : n ≤ 128) : rampAt m ≤ rampAt n := by
  have hall : ∀ n ≤ 128, ∀ m ≤ n, rampAt m ≤ rampAt n := by decide +kernel
  exact hall n hn m h

theorem rampAt_le {n : Nat} (hn : n ≤ 128) : rampAt n ≤ 31873999 := rampAt_mono hn (Nat.le_refl _)

theorem rampAt_free {n : Nat} (hn : n ≤ 5) : rampAt n = 1 := by
  have hall : ∀ n ≤ 5, rampAt n = 1 := by decide
  exact hall n hn

/-- On the ramp, and with no more free pages than it is level for, what a charge has beyond the price
of its pages is what the ramp rises. -/
theorem PageCharge.rampAt_exponential {x : PageCharge} (h : x.Narrow) (hfree : x.price.free ≤ 5)
    (hmost : max x.ever x.opened ≤ 128) :
    rampAt x.ever + x.exponential = rampAt (max x.ever x.opened) := by
  have hrise : rampAt x.ever ≤ rampAt (max x.ever x.opened) :=
    rampAt_mono (Nat.le_max_left _ _) hmost
  have hbound : rampAt (max x.ever x.opened) ≤ 31873999 := rampAt_le hmost
  have hpages : x.linear ≤ 128 * 65535 := Nat.mul_le_mul (by omega) h
  by_cases hcovered : max x.ever x.opened ≤ x.price.free
  · have hgas : x.gas = 0 := if_pos hcovered
    unfold exponential
    rw [hgas, Nat.zero_sub, rampAt_free (n := x.ever) (by omega), rampAt_free (by omega)]
  · have hgas : x.gas = clamp64 (x.linear + (rampAt (max x.ever x.opened) - rampAt x.ever)) :=
      if_neg hcovered
    have hfits : 128 * 65535 + 31873999 ≤ max64 := by decide
    unfold exponential
    rw [hgas, clamp64_eq (by omega)]
    omega

/-- Charges one after the other, each for the pages that there were at most by then. -/
inductive Mounts : Nat → List PageCharge → Nat → Prop
  | nil {ever : Nat} : Mounts ever [] ever
  | cons {x : PageCharge} {cs : List PageCharge} {ever' : Nat} :
      Mounts (max x.ever x.opened) cs ever' → Mounts x.ever (x :: cs) ever'

namespace Mounts

variable {ever ever' ever'' : Nat} {cs cs' : List PageCharge}

theorem le (h : Mounts ever cs ever') : ever ≤ ever' := by
  induction h with
  | nil => exact Nat.le_refl _
  | cons _ ih => exact (Nat.le_max_left _ _).trans ih

theorem append (h : Mounts ever cs ever') (h' : Mounts ever' cs' ever'') :
    Mounts ever (cs ++ cs') ever'' := by
  induction h with
  | nil => exact h'
  | cons _ ih => exact .cons (ih h')

/-- Nothing is paid twice for having had so many pages open, and nothing is left unpaid. -/
theorem rampAt_sum (h : Mounts ever cs ever')
    (hcs : ∀ x ∈ cs, x.Narrow ∧ x.price.free ≤ 5) (hever : ever' ≤ 128) :
    rampAt ever + (cs.map PageCharge.exponential).sum = rampAt ever' := by
  induction h with
  | nil => rfl
  | @cons x cs ever' h ih =>
    obtain ⟨hx, hcs⟩ := List.forall_mem_cons.mp hcs
    have hfirst := PageCharge.rampAt_exponential hx.1 hx.2 (h.le.trans hever)
    have hrest := ih hcs hever
    rw [List.map_cons, List.sum_cons]
    omega

end Mounts

/-! ### At the meter -/

namespace Meter

variable {m : Meter}

def pageCharge (m : Meter) (pages : Nat) : PageCharge :=
  ⟨m.pagePrice, pages, m.pagesOpen, m.pagesEver⟩

def pageCharges (m : Meter) : List Op → List PageCharge
  | [] => []
  | .grow pages :: ops =>
    let rest := pageCharges (m.grow pages).1 ops
    if pages ≠ 0 ∧ (m.grow pages).2 = none then m.pageCharge pages :: rest else rest
  | op :: ops => pageCharges (m.run op).1 ops

/-- Pages are open up to the limit, and no more than there were at most. -/
structure Paged (m : Meter) : Prop where
  limit : m.pageLimit ≤ PagePrice.maxPages
  ever : m.pagesOpen ≤ m.pagesEver

structure SamePages (m m' : Meter) : Prop where
  price : m'.pagePrice = m.pagePrice
  limit : m'.pageLimit = m.pageLimit
  pagesOpen : m'.pagesOpen = m.pagesOpen
  pagesEver : m'.pagesEver = m.pagesEver

theorem SamePages.paged {m' : Meter} (h : m.SamePages m') (hm : m.Paged) : m'.Paged :=
  ⟨h.limit ▸ hm.limit, h.pagesOpen ▸ h.pagesEver ▸ hm.ever⟩

theorem samePages_buyInk (ink : Nat) : m.SamePages (m.buyInk ink).1 := by
  rcases m.buyInk_cases ink with ⟨-, h⟩ | ⟨-, h⟩ <;> rw [h] <;> exact ⟨rfl, rfl, rfl, rfl⟩

theorem grow_of_success {pages : Nat} (hpages : pages ≠ 0) (h : (m.grow pages).2 = none) :
    m.pagesOpen + pages ≤ m.pageLimit ∧ m.price.toInk (m.pageCharge pages).gas ≤ m.inkLeft ∧
      (m.grow pages).1 = { m with
        inkLeft := m.inkLeft - m.price.toInk (m.pageCharge pages).gas
        pagesOpen := m.pagesOpen + pages
        pagesEver := max m.pagesEver (m.pagesOpen + pages) } := by
  rcases m.grow_cases pages with ⟨hnone, -⟩ | ⟨-, -, hover⟩ | ⟨-, -, -, hpoor⟩ |
    ⟨-, hlimit, hink, hgrown⟩
  · exact absurd hnone hpages
  · rw [hover] at h
    cases h
  · rw [hpoor] at h
    cases h
  · exact ⟨hlimit, hink, congrArg Prod.fst hgrown⟩

theorem samePages_grow {pages : Nat} (h : ¬ (pages ≠ 0 ∧ (m.grow pages).2 = none)) :
    m.SamePages (m.grow pages).1 := by
  rcases m.grow_cases pages with ⟨-, hsame⟩ | ⟨-, -, hsame⟩ | ⟨-, -, -, hpoor⟩ |
    ⟨hpages, -, -, hgrown⟩
  · rw [hsame]
    exact ⟨rfl, rfl, rfl, rfl⟩
  · rw [hsame]
    exact ⟨rfl, rfl, rfl, rfl⟩
  · rw [hpoor]
    exact ⟨rfl, rfl, rfl, rfl⟩
  · exact absurd ⟨hpages, by rw [hgrown]⟩ h

theorem samePages_run {op : Op} (h : ∀ pages, op ≠ .grow pages) : m.SamePages (m.run op).1 := by
  cases op with
  | requireInk ink => exact ⟨rfl, rfl, rfl, rfl⟩
  | buyInk ink => exact samePages_buyInk ink
  | buyGas gas => exact samePages_buyInk _
  | grow pages => exact absurd rfl (h pages)
  | enter words =>
    change m.SamePages (m.enter words).1
    rcases m.enter_cases words with ⟨-, h⟩ | ⟨-, h⟩ <;> rw [h] <;> exact ⟨rfl, rfl, rfl, rfl⟩
  | exit words => exact ⟨rfl, rfl, rfl, rfl⟩

/-- What a run of operations pays for pages, however it uses the meter besides. -/
theorem mounts_pageCharges (ops : List Op) (hm : m.Paged) :
    Mounts m.pagesEver (m.pageCharges ops) (m.after ops).pagesEver ∧
      ∀ x ∈ m.pageCharges ops, x.price = m.pagePrice := by
  induction ops generalizing m with
  | nil => exact ⟨.nil, fun x hx => by cases hx⟩
  | cons op ops ih =>
    have hsame : ∀ {m' : Meter}, m.SamePages m' →
        Mounts m.pagesEver (m'.pageCharges ops) (m'.after ops).pagesEver ∧
          ∀ x ∈ m'.pageCharges ops, x.price = m.pagePrice := by
      intro m' h
      obtain ⟨hmounts, hprice⟩ := ih (h.paged hm)
      rw [h.pagesEver] at hmounts
      exact ⟨hmounts, fun x hx => (hprice x hx).trans h.price⟩
    cases op with
    | grow pages =>
      change Mounts _ _ ((m.grow pages).1.after ops).pagesEver ∧ _
      unfold pageCharges
      dsimp only
      by_cases hgrown : pages ≠ 0 ∧ (m.grow pages).2 = none
      · obtain ⟨hlimit, -, hafter⟩ := grow_of_success hgrown.1 hgrown.2
        have hopened : (m.pageCharge pages).opened = m.pagesOpen + pages :=
          Nat.min_eq_left (hlimit.trans hm.limit)
        have hpaged : (m.grow pages).1.Paged := by
          rw [hafter]
          exact ⟨hm.limit, Nat.le_max_right _ _⟩
        obtain ⟨hmounts, hprice⟩ := ih hpaged
        have hever : (m.grow pages).1.pagesEver =
            max (m.pageCharge pages).ever (m.pageCharge pages).opened := by
          rw [hafter, hopened]
          rfl
        rw [if_pos hgrown]
        rw [hever] at hmounts
        refine ⟨.cons hmounts, List.forall_mem_cons.mpr ⟨rfl, fun x hx => ?_⟩⟩
        rw [hprice x hx, hafter]
      · rw [if_neg hgrown]
        exact hsame (samePages_grow hgrown)
    | requireInk ink => exact hsame (samePages_run (by simp))
    | buyInk ink => exact hsame (samePages_run (by simp))
    | buyGas gas => exact hsame (samePages_run (by simp))
    | enter words => exact hsame (samePages_run (by simp))
    | exit words => exact hsame (samePages_run (by simp))

end Meter

/-! ### In calls -/

def Call.Equipped.pages (x : Call.Equipped) (w : World) : PageCharge :=
  ⟨w.ledger.view.params.pagePrice, x.record.footprint.toNat, w.transaction.pagesOpen,
    w.transaction.pagesEver⟩

structure Made where
  runner : Runner
  call : Call
  world : World

namespace Made

variable {m : Made} {x : Call.Equipped} {cs : List PageCharge}

def after (m : Made) : World := ((Call.run m.runner m.call).run m.world).2

theorem after_eq (m : Made) : m.after = ((Call.run m.runner m.call).run m.world).2 := rfl

def meter (m : Made) (x : Call.Equipped) : Meter :=
  Call.startMeter m.world.transaction m.world.ledger.view.params x.record
    (m.call.gas - x.gas m.world)

def ends (m : Made) (x : Call.Equipped) : Outcome × Meter :=
  m.runner x.artifact (Call.environment m.world m.call) (m.meter x)

/-- The call gets to the runner: its entry is priced, and there is gas for the price. -/
def Reaches (m : Made) (x : Call.Equipped) : Prop :=
  ∃ wasm w', m.call.Priced m.world wasm x w' ∧ x.gas m.world ≤ m.call.gas

/-- What a call is charged for pages, if its runner does nothing to the meter but run operations. -/
def Charges (m : Made) (cs : List PageCharge) : Prop :=
  (∀ x, ¬ m.Reaches x) ∧ cs = [] ∨ ∃ x ops, m.Reaches x ∧ (m.ends x).2 = (m.meter x).after ops ∧
    cs = x.pages m.world :: (m.meter x).pageCharges ops

/-- How a call leaves the counts of pages. -/
structure Counts (m : Made) : Prop where
  pagesOpen : m.after.transaction.pagesOpen = m.world.transaction.pagesOpen
  pagesEver_le : m.world.transaction.pagesEver ≤ m.after.transaction.pagesEver
  unreached : (∀ x, ¬ m.Reaches x) → m.after.starts = m.world.starts ∧
    m.after.transaction = m.world.transaction
  /-- The entry is charged with its pages, and the runner is handed what is left. -/
  started : ∀ x, m.Reaches x →
    m.after.starts =
      ⟨x.artifact, Call.environment m.world m.call, m.meter x⟩ :: m.world.starts ∧
    (m.meter x).inkLeft = (m.meter x).price.toInk (m.call.gas - clamp64 ((x.pages m.world).gas +
      m.world.ledger.view.params.startGas x.record.initCost x.record.cachedCost
        (x.record.pinned || x.warm)))
  pagesEver : ∀ x, m.Reaches x →
    m.after.transaction.pagesEver = max (m.meter x).pagesEver (m.ends x).2.pagesEver
  /-- The mark is that of the meter, if that was only used. -/
  metered : ∀ x ops, m.Reaches x → (m.ends x).2 = (m.meter x).after ops →
    m.after.transaction.pagesEver = (m.ends x).2.pagesEver

theorem narrow_pagePrice (p : Params) : p.pagePrice.perPage ≤ 65535 := by
  have hgas : p.pageGas.toNat < 65536 := p.pageGas.toNat_lt
  change p.pageGas.toNat ≤ 65535
  omega

theorem paged_meter (m : Made) (x : Call.Equipped) : (m.meter x).Paged := by
  have hlimit : m.world.ledger.view.params.pageLimit.toNat < 65536 := UInt16.toNat_lt _
  refine ⟨?_, Nat.le_max_right _ _⟩
  change m.world.ledger.view.params.pageLimit.toNat ≤ 65535
  omega

theorem pagesEver_meter (m : Made) (x : Call.Equipped) :
    (m.meter x).pagesEver = max (x.pages m.world).ever (x.pages m.world).opened := rfl

theorem transaction_after (h : m.Reaches x) : m.after.transaction =
    ((m.world.transaction.addPages x.record.footprint.toNat).setPages
      (m.ends x).2.pagesEver).setPages m.world.transaction.pagesOpen := by
  obtain ⟨wasm, w', hpriced, hgas⟩ := h
  exact hpriced.transaction_run hgas m.runner

theorem pagesEver_after (h : m.Reaches x)
    (hopen : m.world.transaction.pagesOpen ≤ m.world.transaction.pagesEver) :
    m.after.transaction.pagesEver = max (m.meter x).pagesEver (m.ends x).2.pagesEver := by
  rw [transaction_after h, pagesEver_meter]
  change max (max (max m.world.transaction.pagesEver (x.pages m.world).opened)
    (m.ends x).2.pagesEver) m.world.transaction.pagesOpen = _
  change _ = max (max m.world.transaction.pagesEver (x.pages m.world).opened) (m.ends x).2.pagesEver
  omega

theorem reaches_or (m : Made) : (∃ x, m.Reaches x) ∨
    m.after.starts = m.world.starts ∧ m.after.transaction = m.world.transaction := by
  rcases Call.run_reached m.runner m.call m.world with ⟨wasm, x, w', hpriced, hgas⟩ | hstays
  · exact .inl ⟨x, wasm, w', hpriced, hgas⟩
  · exact .inr hstays

theorem counts (m : Made)
    (hopen : m.world.transaction.pagesOpen ≤ m.world.transaction.pagesEver) : m.Counts where
  pagesOpen := by
    rcases m.reaches_or with ⟨x, h⟩ | ⟨-, hstays⟩
    · rw [transaction_after h]
      rfl
    · rw [hstays]
  pagesEver_le := by
    rcases m.reaches_or with ⟨x, h⟩ | ⟨-, hstays⟩
    · rw [pagesEver_after h hopen, pagesEver_meter]
      exact (Nat.le_max_left _ _).trans (Nat.le_max_left _ _)
    · rw [hstays]
  unreached hnone := by
    rcases m.reaches_or with ⟨x, h⟩ | hstays
    · exact absurd h (hnone x)
    · exact hstays
  started x h := by
    obtain ⟨wasm, w', hpriced, hgas⟩ := h
    exact ⟨hpriced.started hgas m.runner, rfl⟩
  pagesEver x h := pagesEver_after h hopen
  metered x ops h hops := by
    have hgrown := (Meter.mounts_pageCharges ops (m.paged_meter x)).1.le
    rw [pagesEver_after h hopen, hops]
    exact Nat.max_eq_right hgrown

/-- The charges of a call mount from the mark before it to the mark after it. -/
theorem Charges.mounts (h : m.Charges cs)
    (hopen : m.world.transaction.pagesOpen ≤ m.world.transaction.pagesEver) :
    Mounts m.world.transaction.pagesEver cs m.after.transaction.pagesEver ∧
      ∀ x ∈ cs, x.price = m.world.ledger.view.params.pagePrice := by
  have hcounts := m.counts hopen
  rcases h with ⟨hnone, rfl⟩ | ⟨x, ops, hreaches, hops, rfl⟩
  · rw [(hcounts.unreached hnone).2]
    exact ⟨.nil, fun x hx => by cases hx⟩
  · obtain ⟨hmounts, hprice⟩ := Meter.mounts_pageCharges ops (m.paged_meter x)
    rw [hcounts.metered x ops hreaches hops, hops]
    exact ⟨.cons (x := x.pages m.world) hmounts, List.forall_mem_cons.mpr ⟨rfl, hprice⟩⟩

theorem exists_charges (m : Made) (hm : m.runner.Metered) : ∃ cs, m.Charges cs := by
  by_cases h : ∃ x, m.Reaches x
  · obtain ⟨x, hx⟩ := h
    obtain ⟨ops, hops⟩ := hm x.artifact (Call.environment m.world m.call) (m.meter x)
    exact ⟨_, .inr ⟨x, ops, hx, hops, rfl⟩⟩
  · exact ⟨[], .inl ⟨fun x hx => h ⟨x, hx⟩, rfl⟩⟩

theorem exists_forall₂_charges {ms : List Made} (hms : ∀ m ∈ ms, m.runner.Metered) :
    ∃ css, List.Forall₂ Charges ms css := by
  induction ms with
  | nil => exact ⟨[], .nil⟩
  | cons m ms ih =>
    obtain ⟨hm, hms⟩ := List.forall_mem_cons.mp hms
    obtain ⟨cs, hcs⟩ := m.exists_charges hm
    obtain ⟨css, hcss⟩ := ih hms
    exact ⟨cs :: css, .cons hcs hcss⟩

end Made

/-- Calls one after the other in one transaction, from its counts of pages before to those after.
Between them anything may happen that leaves these counts alone. -/
inductive Series : Transaction → List Made → Transaction → Prop
  | nil {t : Transaction} : Series t [] t
  | cons {t t' : Transaction} {m : Made} {ms : List Made} :
      m.world.transaction.pagesOpen = t.pagesOpen → m.world.transaction.pagesEver = t.pagesEver →
      Series m.after.transaction ms t' → Series t (m :: ms) t'

namespace Series

variable {t t' : Transaction} {ms : List Made}

theorem counts (h : Series t ms t') (hopen : t.pagesOpen ≤ t.pagesEver) :
    t'.pagesOpen = t.pagesOpen ∧ t.pagesEver ≤ t'.pagesEver ∧ ∀ m ∈ ms, m.Counts := by
  induction h with
  | nil => exact ⟨rfl, Nat.le_refl _, fun m hm => by cases hm⟩
  | @cons t t' m ms hnow hever h ih =>
    have hm : m.Counts := m.counts (by rw [hnow, hever]; exact hopen)
    have hle := hm.pagesEver_le
    rw [hever] at hle
    obtain ⟨hback, hmore, hms⟩ := ih (by rw [hm.pagesOpen, hnow]; exact hopen.trans hle)
    exact ⟨hback.trans (hm.pagesOpen.trans hnow), hle.trans hmore, List.forall_mem_cons.mpr ⟨hm, hms⟩⟩

theorem mounts {css : List (List PageCharge)} (h : Series t ms t')
    (hcs : List.Forall₂ Made.Charges ms css) (hopen : t.pagesOpen ≤ t.pagesEver) :
    Mounts t.pagesEver css.flatten t'.pagesEver ∧ ∀ x ∈ css.flatten, ∃ m ∈ ms,
      x.price = m.world.ledger.view.params.pagePrice := by
  induction h generalizing css with
  | nil =>
    cases hcs
    exact ⟨.nil, fun x hx => by cases hx⟩
  | @cons t t' m ms hnow hever h ih =>
    obtain _ | @⟨_, cs, _, css, hfirst, hrest⟩ := hcs
    have hworld : m.world.transaction.pagesOpen ≤ m.world.transaction.pagesEver := by
      rw [hnow, hever]
      exact hopen
    obtain ⟨hmounts, hprice⟩ := hfirst.mounts hworld
    have hcounts := m.counts hworld
    obtain ⟨hmore, hprices⟩ := ih hrest
      (by rw [hcounts.pagesOpen]; exact hworld.trans hcounts.pagesEver_le)
    rw [← hever]
    refine ⟨hmounts.append hmore, fun x hx => ?_⟩
    rcases List.mem_append.mp hx with hx | hx
    · exact ⟨m, List.mem_cons_self, hprice x hx⟩
    · obtain ⟨m', hm', hx⟩ := hprices x hx
      exact ⟨m', List.mem_cons_of_mem _ hm', hx⟩

/-- Pages across a transaction, whatever the runners do and however the calls end. Each call leaves
as many pages open as it found, and the mark of the most pages ever open only rises, to where the
meter of its runner ended. As long as that mark is on the ramp and no more pages are free than the
ramp is level for, what is charged beyond the price of single pages, by entries and by growing
memories together, is what the ramp has risen by. -/
theorem pages_paid (h : Series t ms t') (hopen : t.pagesOpen ≤ t.pagesEver) :
    t'.pagesOpen = t.pagesOpen ∧ t.pagesEver ≤ t'.pagesEver ∧ (∀ m ∈ ms, m.Counts) ∧
    ((∀ m ∈ ms, m.runner.Metered) → ∃ css, List.Forall₂ Made.Charges ms css) ∧
    ∀ css, List.Forall₂ Made.Charges ms css →
      (∀ m ∈ ms, m.world.ledger.view.params.freePages.toNat ≤ 5) → t'.pagesEver ≤ 128 →
      (∀ x ∈ css.flatten, x.linear ≤ x.gas) ∧
        rampAt t.pagesEver + (css.flatten.map PageCharge.exponential).sum = rampAt t'.pagesEver := by
  obtain ⟨hback, hmore, hcounts⟩ := h.counts hopen
  refine ⟨hback, hmore, hcounts, Made.exists_forall₂_charges, fun css hcs hfree hmark => ?_⟩
  obtain ⟨hmounts, hprices⟩ := h.mounts hcs hopen
  have hall : ∀ x ∈ css.flatten, x.Narrow ∧ x.price.free ≤ 5 := by
    intro x hx
    obtain ⟨m, hm, hprice⟩ := hprices x hx
    unfold PageCharge.Narrow
    rw [hprice]
    exact ⟨Made.narrow_pagePrice _, hfree m hm⟩
  exact ⟨fun x hx => PageCharge.linear_le_gas (hall x hx).1, hmounts.rampAt_sum hall hmark⟩

/-- A call of the small program, which grows by some pages beyond its own. -/
def growing (n : Nat) (t : Transaction) : Made :=
  ⟨Script.runner { ops := [.grow n] }, ⟨1, 1, 2, 0, [], false, 100000⟩,
    { World.recorded with transaction := t }⟩

theorem world_growing (n : Nat) (t : Transaction) : (growing n t).world.transaction = t := rfl

theorem gas_growing (n : Nat) (t : Transaction) : (growing n t).call.gas = 100000 := rfl

theorem runner_growing (n : Nat) (t : Transaction) (a : Artifact) (e : Environment) (m : Meter) :
    ((growing n t).runner a e m).2 = (m.grow n).1 := by
  have hsteps : Script.steps { ops := [.grow n] } m = [m.grow n] := by
    have hrun : m.run (.grow n) = m.grow n := rfl
    unfold Script.steps Meter.traceUntilError
    rw [hrun]
    rcases m.grow n with ⟨m', e⟩
    cases e <;> rfl
  change (Script.runner { ops := [.grow n] } a e m).2 = _
  unfold Script.runner
  rw [hsteps]
  rcases m.grow n with ⟨m', e'⟩
  cases e' <;> rfl

theorem tierGas_growing {n pages : Nat} (hpages : pages ≤ 8) :
    (growing n { pagesEver := pages }).world.tierGas Ledger.smallRecord false = 9585 := by
  have hall : ∀ pages ≤ 8, Entry.gas {
      footprint := 1, initCost := 17, cachedCost := 0
      pagesOpen := 0, pagesEver := pages, cached := false } {} = 9585 := by decide
  unfold World.tierGas
  rw [World.params_of_recorded Ledger.recorded_self]
  exact hall pages hpages

theorem transaction_growing {n pages : Nat} (hpages : pages ≤ 8) :
    (growing n { pagesEver := pages }).after.transaction =
      ((({ pagesEver := pages } : Transaction).addPages Ledger.smallRecord.footprint.toNat).setPages
        ((Call.startMeter { pagesEver := pages } {} Ledger.smallRecord 90415).grow
          n).1.pagesEver).setPages 0 := by
  obtain ⟨a, -, hload⟩ := World.load_recorded true
  have hnow : World.recorded.now ≤ 31536001 := by decide
  obtain ⟨w', hpriced, -⟩ := World.priced_recorded (w := (growing n { pagesEver := pages }).world)
    (c := (growing n { pagesEver := pages }).call) Ledger.recorded_self hnow rfl hload
  have hgas := hpriced.gas_eq
  have hcold : (Ledger.smallRecord.pinned ||
      (growing n { pagesEver := pages }).world.warm (keccak smallModule)) = false := rfl
  rw [hcold, tierGas_growing hpages] at hgas
  have hafter := hpriced.transaction_run (hgas.trans_le (by rw [gas_growing]; decide))
    (growing n { pagesEver := pages }).runner
  have hleft : 100000 - 9585 = 90415 := by decide
  rw [hgas, gas_growing, hleft, World.params_of_recorded (w := (growing n { pagesEver := pages }).world)
    Ledger.recorded_self, runner_growing, world_growing] at hafter
  rw [Made.after_eq]
  exact hafter

theorem transaction_grown : (growing 7 {}).after.transaction = { pagesEver := 8 } := by
  refine (transaction_growing (Nat.zero_le 8)).trans ?_
  decide +kernel

theorem transaction_regrown :
    (growing 9 (growing 7 {}).after.transaction).after.transaction = { pagesEver := 10 } := by
  rw [transaction_grown]
  refine (transaction_growing (Nat.le_refl 8)).trans ?_
  decide +kernel

/-- A program grows to eight pages, and in the next call to ten. Together both calls pay for the ramp up
to ten. -/
theorem pages_paid_regrown :
    let ms := [growing 7 {}, growing 9 (growing 7 {}).after.transaction]
    Series {} ms { pagesEver := 10 } ∧ ({} : Transaction).pagesOpen ≤ ({} : Transaction).pagesEver ∧
      ∃ css, List.Forall₂ Made.Charges ms css ∧
        rampAt 0 + (css.flatten.map PageCharge.exponential).sum = rampAt 10 := by
  intro ms
  have hseries : Series {} ms { pagesEver := 10 } := by
    have hopen := congrArg Transaction.pagesOpen (world_growing 9 (growing 7 {}).after.transaction)
    have hever := congrArg Transaction.pagesEver (world_growing 9 (growing 7 {}).after.transaction)
    refine .cons rfl rfl (.cons hopen hever ?_)
    rw [transaction_regrown]
    exact .nil
  obtain ⟨-, -, -, hcharges, hpaid⟩ := pages_paid hseries (Nat.le_refl 0)
  have hfree : ∀ t n, (growing n t).world.ledger.view.params.freePages.toNat ≤ 5 := by
    intro t n
    change World.recorded.ledger.view.params.freePages.toNat ≤ 5
    rw [World.params_of_recorded Ledger.recorded_self]
    decide
  obtain ⟨css, hcss⟩ := hcharges
    (List.forall_mem_cons.mpr ⟨Script.metered _, List.forall_mem_singleton.mpr (Script.metered _)⟩)
  obtain ⟨-, hsum⟩ := hpaid css hcss
    (List.forall_mem_cons.mpr ⟨hfree _ _, List.forall_mem_singleton.mpr (hfree _ _)⟩) (by decide)
  exact ⟨hseries, Nat.le_refl 0, css, hcss, hsum⟩

end Series
end Inkwell
