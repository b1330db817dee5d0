import Inkwell.Proofs.Sales
set_option autoImplicit false

/-! How long programs live: a record expires on the latest of the days that were paid for since the
program was activated, whatever else happens meanwhile. -/

namespace Inkwell

theorem toNat_ofNat_of_le {n : Nat} (h : n ≤ max64) : (UInt64.ofNat n).toNat = n := by
  have hlt : n < 2 ^ 64 := Nat.lt_of_le_of_lt h (by decide)
  rw [UInt64.toNat_ofNat', Nat.mod_eq_of_lt hlt]

namespace Sale

def follow (h : Word) (es : List Sale) (e : Sale) : List Sale :=
  if e.codeHash = h then (if e.activates then [e] else es ++ [e]) else es

/-- What was sold for a code hash since its latest activation, and that activation first. -/
def since (h : Word) (es : List Sale) : List Sale := es.foldl (follow h) []

variable {h : Word} {es : List Sale} {e : Sale}

theorem since_append (h : Word) (es : List Sale) (e : Sale) :
    since h (es ++ [e]) = follow h (since h es) e := List.foldl_concat _ _ _ _

theorem since_of_ne (hne : h ≠ e.codeHash) : since h (es ++ [e]) = since h es := by
  rw [since_append, follow, if_neg hne.symm]

theorem since_activation (he : e.activates = true) : since e.codeHash (es ++ [e]) = [e] := by
  rw [since_append, follow, if_pos rfl, if_pos he]

theorem since_keepalive (he : e.activates = false) :
    since e.codeHash (es ++ [e]) = since e.codeHash es ++ [e] := by
  rw [since_append, follow, if_pos rfl, if_neg (by simp [he])]

theorem deadline_le (e : Sale) : e.deadline ≤ max64 := clamp64_le _

theorem toNat_deadline (e : Sale) : (UInt64.ofNat e.deadline).toNat = e.deadline :=
  toNat_ofNat_of_le e.deadline_le

theorem time_le_deadline (e : Sale) : (UInt64.ofNat e.time).toNat ≤ e.deadline := by
  have hword := (UInt64.ofNat e.time).toNat_lt
  have htime : (UInt64.ofNat e.time).toNat ≤ e.time := Nat.mod_le _ _
  unfold deadline Record.deadline clamp64 max64
  omega

end Sale

/-- A record tells of its activation, of the latest deadline that was paid for from then on, and of
the deadline that was paid for last when the program was kept alive. -/
structure Record.Lives (r : Record) (a : Sale) (ks : List Sale) : Prop where
  activates : a.activates = true
  keepalives : ∀ k ∈ ks, k.activates = false
  activatedAt : r.activatedAt = UInt64.ofNat a.time
  expiresAt : r.expiresAt.toNat = (ks.map Sale.deadline).foldl max a.deadline
  keepaliveUntil : r.keepaliveUntil.toNat = ((ks.map Sale.deadline).getLast?).getD 0

namespace Record

variable {r : Record} {a k : Sale} {ks : List Sale}

theorem lives_activation (ha : a.activates = true) (hat : r.activatedAt = UInt64.ofNat a.time)
    (hexpires : r.expiresAt = UInt64.ofNat a.deadline) (huntil : r.keepaliveUntil = 0) :
    r.Lives a [] where
  activates := ha
  keepalives := by simp
  activatedAt := hat
  expiresAt := by rw [hexpires, a.toNat_deadline, List.map_nil, List.foldl_nil]
  keepaliveUntil := by rw [huntil]; rfl

theorem toNat_expiresAt_keptAlive (r : Record) (p : Params) (now : Nat) (fee : Word) :
    (r.keptAlive p now fee).expiresAt.toNat = r.extended now p.keepaliveDays :=
  toNat_ofNat_of_le (Nat.max_le.mpr ⟨Nat.le_sub_one_of_lt r.expiresAt.toNat_lt, clamp64_le _⟩)

/-- A keepalive takes the later of two deadlines. -/
theorem Lives.keptAlive {p : Params} (hr : r.Lives a ks) (hk : k.activates = false)
    (hdays : k.days = p.keepaliveDays) : (r.keptAlive p k.time k.fee).Lives a (ks ++ [k]) := by
  have hdeadline : deadline k.time p.keepaliveDays = k.deadline := by rw [Sale.deadline, hdays]
  refine ⟨hr.activates, fun x hx => ?_, hr.activatedAt, ?_, ?_⟩
  · rcases List.mem_append.mp hx with hx | hx
    · exact hr.keepalives x hx
    · rw [List.mem_singleton.mp hx, hk]
  · rw [toNat_expiresAt_keptAlive, extended, hdeadline, hr.expiresAt, List.map_append,
      List.foldl_append, List.map_singleton, List.foldl_cons, List.foldl_nil]
  · change (UInt64.ofNat (deadline k.time p.keepaliveDays)).toNat = _
    rw [hdeadline, k.toNat_deadline, List.map_append, List.map_singleton, List.getLast?_concat,
      Option.getD_some]

theorem Lives.pinned (hr : r.Lives a ks) (pinned : Bool) : ({ r with pinned } : Record).Lives a ks :=
  ⟨hr.activates, hr.keepalives, hr.activatedAt, hr.expiresAt, hr.keepaliveUntil⟩

theorem le_foldl_max {n m : Nat} {ns : List Nat} (h : m ≤ n ∨ m ∈ ns) : m ≤ ns.foldl max n := by
  induction ns generalizing n with
  | nil => simpa using h
  | cons x ns ih =>
    refine ih ?_
    rcases h with h | h
    · exact .inl (Nat.le_trans h (Nat.le_max_left _ _))
    · rcases List.mem_cons.mp h with rfl | h
      · exact .inl (Nat.le_max_right _ _)
      · exact .inr h

/-- No record expires before it was activated, or before what it was kept alive for last. -/
theorem Lives.ordered (hr : r.Lives a ks) :
    r.activatedAt ≤ r.expiresAt ∧ r.keepaliveUntil ≤ r.expiresAt := by
  rw [UInt64.le_iff_toNat_le, UInt64.le_iff_toNat_le, hr.activatedAt, hr.expiresAt, hr.keepaliveUntil]
  refine ⟨Nat.le_trans a.time_le_deadline (le_foldl_max (.inl (Nat.le_refl _))), ?_⟩
  cases hlast : (ks.map Sale.deadline).getLast? with
  | none => exact Nat.zero_le _
  | some n => exact le_foldl_max (.inr (List.mem_of_getLast? hlast))

end Record

namespace View

variable {hash : Word → Prop} {v u : View} {h : Word} {r r' : Record} {es : List Sale}
  {o : Option Sale}

/-- The record of a code hash tells of what was sold for it since it was activated, and there is none
while it never was. -/
def Lives (v : View) (h : Word) : List Sale → Prop
  | [] => v.record? h = none
  | a :: ks => ∃ r, v.record? h = some r ∧ r.Lives a ks

theorem Lives.of_record (hlives : v.Lives h es) (hsame : u.record? h = v.record? h) : u.Lives h es := by
  cases es with
  | nil => exact hsame.trans hlives
  | cons a ks =>
    obtain ⟨r, hr, hlasts⟩ := hlives
    exact ⟨r, hsame.trans hr, hlasts⟩

theorem Lives.of_some (hlives : v.Lives h es) (hr : v.record? h = some r) :
    ∃ a ks, es = a :: ks ∧ r.Lives a ks := by
  cases es with
  | nil =>
    rw [show v.record? h = none from hlives] at hr
    cases hr
  | cons a ks =>
    obtain ⟨r', hr', hlasts⟩ := hlives
    obtain rfl := Option.some.inj (hr'.symm.trans hr)
    exact ⟨a, ks, rfl, hlasts⟩

theorem Renewed.lives (hrenewed : v.Renewed hash u o)
    (hlives : ∀ h, hash h → v.Lives h (Sale.since h es)) :
    ∀ h, hash h → u.Lives h (Sale.since h (es ++ o.toList)) := by
  cases hrenewed with
  | same hsame =>
    intro h hh
    rw [Option.toList_none, List.append_nil]
    exact (hlives h hh).of_record (hsame h hh)
  | @flipped h₀ r pinned hh₀ hr hflipped hspared =>
    intro h hh
    rw [Option.toList_none, List.append_nil]
    by_cases heq : h = h₀
    · subst heq
      obtain ⟨a, ks, hsince, hlasts⟩ := (hlives h hh).of_some hr
      rw [hsince]
      exact ⟨_, hflipped, hlasts.pinned pinned⟩
    · exact (hlives h hh).of_record (hspared h hh heq)
  | @activated e r he hh₀ hr _ _ hat hexpires huntil _ hspared =>
    intro h hh
    rw [Option.toList_some]
    by_cases heq : h = e.codeHash
    · subst heq
      rw [Sale.since_activation he]
      exact ⟨r, hr, Record.lives_activation he hat hexpires huntil⟩
    · rw [Sale.since_of_ne heq]
      exact (hlives h hh).of_record (hspared h hh heq)
  | @keptAlive e r he hh₀ hr hdays hkept hspared =>
    intro h hh
    rw [Option.toList_some]
    by_cases heq : h = e.codeHash
    · subst heq
      obtain ⟨a, ks, hsince, hlasts⟩ := (hlives _ hh).of_some hr.record
      rw [Sale.since_keepalive he, hsince]
      exact ⟨_, hkept, hlasts.keptAlive he hdays⟩
    · rw [Sale.since_of_ne heq]
      exact (hlives h hh).of_record (hspared h hh heq)

theorem Renewed.expiresAt_le (hrenewed : v.Renewed hash u o) (hh : hash h)
    (hkeeps : ∀ e ∈ o, e.codeHash = h → e.activates = false) (hr : v.record? h = some r)
    (hr' : u.record? h = some r') : r.expiresAt ≤ r'.expiresAt := by
  have hsame : u.record? h = v.record? h → r.expiresAt ≤ r'.expiresAt := by
    intro hsame
    rw [hsame, hr] at hr'
    rw [Option.some.inj hr']
    exact UInt64.le_refl _
  cases hrenewed with
  | same hstays => exact hsame (hstays h hh)
  | @flipped h₀ r₀ pinned _ hr₀ hflipped hspared =>
    by_cases heq : h = h₀
    · subst heq
      rw [hr] at hr₀
      rw [hflipped] at hr'
      rw [← Option.some.inj hr', Option.some.inj hr₀]
      exact UInt64.le_refl _
    · exact hsame (hspared h hh heq)
  | @activated e r₀ he _ _ _ _ _ _ _ _ hspared =>
    by_cases heq : h = e.codeHash
    · rw [hkeeps e rfl heq.symm] at he
      cases he
    · exact hsame (hspared h hh heq)
  | @keptAlive e r₀ he _ hr₀ _ hkept hspared =>
    by_cases heq : h = e.codeHash
    · subst heq
      rw [hr₀.record] at hr
      rw [hkept] at hr'
      obtain rfl := Option.some.inj hr
      rw [← Option.some.inj hr', UInt64.le_iff_toNat_le, Record.toNat_expiresAt_keptAlive]
      exact Nat.le_max_left _ _
    · exact hsame (hspared h hh heq)

end View

namespace World

variable {hash : Word → Prop} {w : World} {ts : List Turn}

section
variable (hA : Layout.Apart hash) (hw : w.Hashed hash) (hts : ∀ t ∈ ts, t.Allowed hash)
  (hcache : w.cache.Genuine fun _ => True) (hcompiled : ∀ t ∈ ts, t.Compiled)
  (hnone : ∀ h, hash h → w.ledger.view.record? h = none)
include hA hw hts hcache hcompiled hnone

/-- The records tell of what was sold in a run, and of some code. -/
theorem lives_after : ∃ es, w.Sold ts es ∧ (w.after ts).ledger.view.Sized hash ∧
    ∀ h, hash h → (w.after ts).ledger.view.Lives h (Sale.since h es) := by
  induction ts using List.reverseRecOn with
  | nil =>
    refine ⟨[], .start, fun h hh r hr => ?_, hnone⟩
    rw [show (w.after []).ledger.view.record? h = none from hnone h hh] at hr
    cases hr
  | append_singleton ts t ih =>
    have hts' : ∀ t ∈ ts, t.Allowed hash := fun t ht => hts t (List.mem_append_left _ ht)
    have hcompiled' : ∀ t ∈ ts, t.Compiled := fun t ht => hcompiled t (List.mem_append_left _ ht)
    obtain ⟨es, hes, hsized, hlives⟩ := ih hts' hcompiled'
    obtain ⟨o, hsells, -, hrenews⟩ := Turn.sells_step hA (hashed_after hts' hw) (hts t (by simp))
    have hrenewed := hrenews (genuine_after hcompiled' hcache) hsized
    rw [after_snoc]
    exact ⟨es ++ o.toList, hes.turn hsells, hrenewed.sized hsized, hrenewed.lives hlives⟩

/-- In every run from a state with no records: between one activation of a program and the next its
record expires on the latest day that was paid for. So it is not activated or kept alive past that
day. What a turn sells it renews a record for, only an activation may bring the day forward, and
every other record stays as it was. -/
theorem lifetimes_kept :
    (∃ es, w.Sold ts es ∧ ∀ h, hash h → (w.after ts).ledger.view.Lives h (Sale.since h es)) ∧
      (∀ h, hash h → ∀ r, (w.after ts).ledger.view.record? h = some r →
        r.activatedAt ≤ r.expiresAt ∧ r.keepaliveUntil ≤ r.expiresAt) ∧
      ∀ ts₁ t ts₂, ts = ts₁ ++ t :: ts₂ → ∃ o,
        let v := (w.after ts₁).ledger.view
        let u := (w.after (ts₁ ++ [t])).ledger.view
        t.Sells (w.after ts₁) u o ∧ v.Renewed hash u o ∧
          ∀ h, hash h → (∀ e ∈ o, e.codeHash = h → e.activates = false) → ∀ r r',
            v.record? h = some r → u.record? h = some r' → r.expiresAt ≤ r'.expiresAt := by
  refine ⟨?_, fun h hh r hr => ?_, fun ts₁ t ts₂ hsplit => ?_⟩
  · obtain ⟨es, hes, -, hlives⟩ := lives_after hA hw hts hcache hcompiled hnone
    exact ⟨es, hes, hlives⟩
  · obtain ⟨es, -, -, hlives⟩ := lives_after hA hw hts hcache hcompiled hnone
    obtain ⟨a, ks, -, hlasts⟩ := (hlives h hh).of_some hr
    exact hlasts.ordered
  · subst hsplit
    have hts₁ : ∀ t ∈ ts₁, t.Allowed hash := fun t ht => hts t (List.mem_append_left _ ht)
    have hcompiled₁ : ∀ t ∈ ts₁, t.Compiled := fun t ht => hcompiled t (List.mem_append_left _ ht)
    obtain ⟨es, -, hsized, -⟩ := lives_after hA hw hts₁ hcache hcompiled₁ hnone
    obtain ⟨o, hsells, -, hrenews⟩ := Turn.sells_step hA (hashed_after hts₁ hw) (hts t (by simp))
    have hrenewed := hrenews (genuine_after hcompiled₁ hcache) hsized
    refine ⟨o, ?_⟩
    dsimp only
    rw [after_snoc]
    exact ⟨hsells, hrenewed, fun h hh hkeeps r r' => hrenewed.expiresAt_le hh hkeeps⟩

end

theorem compiled_served : ∀ t ∈ served, t.Compiled := by
  have hrequest : ∀ (time : Word) (c : Call), ∀ t ∈ request time c, t.Compiled := by
    intro time c t ht k heq
    rcases List.mem_pair.mp ht with rfl | rfl <;> cases heq
  simp only [served, List.forall_mem_append, List.forall_mem_singleton]
  refine ⟨⟨⟨⟨fun k heq => ?_, hrequest _ _⟩, hrequest _ _⟩, hrequest _ _⟩, hrequest _ _⟩
  cases heq

/-- The small package lives for a year, and from its last second on for another month. -/
theorem lifetimes_kept_served :
    let w := furnished 9
    let r : Record := { Ledger.smallRecord with
      expiresAt := 34214400, keepaliveUntil := 34214400, dataFee := firstFee + secondFee }
    w.Goes served ∧
      (w.after ([managing] ++ activating)).ledger.view.record? smallHash =
        some { Ledger.smallRecord with dataFee := firstFee } ∧
      (w.after served).ledger.view.record? smallHash = some r ∧
      (∃ a k, w.Sold served [a, k] ∧ a.toBill = ⟨smallHash, firstFee, true⟩ ∧
        k.toBill = ⟨smallHash, secondFee, false⟩ ∧ r.Lives a [k]) ∧
      r.activatedAt ≤ r.expiresAt ∧ r.keepaliveUntil ≤ r.expiresAt := by
  intro w r
  obtain ⟨hgoes, h₁, -, -, hserves⟩ := goes_served
  have hrecord : (w.after served).ledger.view.record? smallHash = some r :=
    hserves.record.trans (congrArg some renewedRecord_eq)
  obtain ⟨⟨es, hsold, hlives⟩, hordered, -⟩ := lifetimes_kept Layout.apart_smallHash
    (hashed_furnished 9) allowed_served (Cache.genuine_ofCapacity 1) compiled_served
    fun h _ => record_furnished 9 h
  have hbills := bills_served (hsold.billed Layout.apart_smallHash (hashed_furnished 9) allowed_served
    (healthy_furnished 9).bounded)
  obtain ⟨a, es, rfl, ha, hes⟩ := List.map_eq_cons_iff.mp hbills
  obtain ⟨k, es, rfl, hk, hes⟩ := List.map_eq_cons_iff.mp hes
  obtain rfl := List.map_eq_nil_iff.mp hes
  have hsince : Sale.since smallHash [a, k] = [a, k] := by
    have hfirst : a.codeHash = smallHash ∧ a.activates = true :=
      ⟨congrArg Bill.codeHash ha, congrArg Bill.activates ha⟩
    have hnext : k.codeHash = smallHash ∧ k.activates = false :=
      ⟨congrArg Bill.codeHash hk, congrArg Bill.activates hk⟩
    simp [Sale.since, Sale.follow, hfirst, hnext]
  have hlasts := hlives smallHash rfl
  rw [hsince] at hlasts
  obtain ⟨r', hr', hlasts⟩ := hlasts
  obtain rfl := Option.some.inj (hr'.symm.trans hrecord)
  exact ⟨hgoes, h₁.record, hrecord, ⟨a, k, hsold, ha, hk, hlasts⟩, hordered smallHash rfl r hrecord⟩

end World
end Inkwell
