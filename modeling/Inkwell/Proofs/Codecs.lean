import Inkwell.Proofs.Leb
import Mathlib.Data.List.Basic
set_option autoImplicit false

/-! What is read and written again. A binary form settles when whatever it reads it also reads back from
what it writes, which is no longer. Every way to build forms keeps that. -/

namespace Inkwell.Wasm.Codec

variable {α β τ : Type} {c : Codec α} {d : Codec β} {f : α → α} {g : β → β} {a : α} {b : β}
  {bs mid rest : Octets}

/-- A value reads back from its written form, whatever follows. -/
def Returns (c : Codec α) (a : α) : Prop := ∀ rest, c.read (c.write a ++ rest) = some (a, rest)

/-- What is read takes no more room when it is written, with `f` done to it, and then reads back. -/
def Settles (c : Codec α) (f : α → α) : Prop := ∀ ⦃bs a rest⦄, c.read bs = some (a, rest) →
  (c.write (f a)).length + rest.length ≤ bs.length ∧ c.Returns (f a)

/-- The same of forms that fill their input. -/
def SettlesAll (c : Codec α) (f : α → α) : Prop := ∀ ⦃bs a⦄, c.readAll bs = some a →
  (c.write (f a)).length ≤ bs.length ∧ c.readAll (c.write (f a)) = some (f a)

theorem readAll_eq_some : c.readAll bs = some a ↔ c.read bs = some (a, []) := by
  unfold readAll
  split
  · next h => simp [h]
  · next h => exact iff_of_false nofun fun hread => h a hread

theorem Returns.readAll (h : c.Returns a) : c.readAll (c.write a) = some a := by
  have hread := h []
  rw [List.append_nil] at hread
  exact readAll_eq_some.mpr hread

theorem Settles.all (h : c.Settles f) : c.SettlesAll f := by
  intro bs a hread
  obtain ⟨hsize, hback⟩ := h (readAll_eq_some.mp hread)
  exact ⟨by simpa using hsize, hback.readAll⟩

theorem Settles.size (h : c.Settles id) (hread : c.read bs = some (a, rest)) :
    (c.write a).length + rest.length ≤ bs.length := (h hread).1

theorem Settles.back (h : c.Settles id) (hread : c.read bs = some (a, rest)) : c.Returns a :=
  (h hread).2

/-! ### Single values -/

theorem settles_nothing (a : α) : (nothing a).Settles id := by
  rintro bs _ _ ⟨⟩
  exact ⟨Nat.le_of_eq (Nat.zero_add _), fun rest => rfl⟩

theorem settles_byte : byte.Settles id := by
  rintro (_ | ⟨b, bs⟩) a rest h
  · cases h
  · obtain ⟨rfl, rfl⟩ := Prod.mk.inj (Option.some.inj h)
    exact ⟨by simp [byte]; omega, fun rest => rfl⟩

theorem read_octets_iff {n : Nat} {as : Octets} :
    (octets n).read bs = some (as, rest) ↔ bs = as ++ rest ∧ as.length = n := by
  simp only [octets, List.splitAt_eq]
  constructor
  · intro h
    split at h
    · next hlength =>
      obtain ⟨rfl, rfl⟩ := Prod.mk.inj (Option.some.inj h)
      exact ⟨(List.take_append_drop n bs).symm, hlength⟩
    · cases h
  · rintro ⟨rfl, rfl⟩
    simp

theorem settles_octets (n : Nat) : (octets n).Settles id := by
  intro bs as rest h
  obtain ⟨rfl, hlength⟩ := read_octets_iff.mp h
  exact ⟨by simp [octets], fun rest => read_octets_iff.mpr ⟨rfl, hlength⟩⟩

/-! ### Numbers -/

theorem read_unsigned_iff {bits n : Nat} : (Leb.unsigned bits).read bs = some (n, rest) ↔
    n < 2 ^ bits ∧ ∃ gs, Leb.groups ((bits + 6) / 7) bs = some (gs, rest) ∧ Leb.value gs = n := by
  simp only [Leb.unsigned, Option.bind_eq_bind, Option.bind_eq_some_iff, Prod.exists,
    Option.ite_none_right_eq_some, Option.some.injEq, Prod.mk.injEq]
  constructor
  · rintro ⟨gs, _, hgroups, hlt, rfl, rfl⟩
    exact ⟨hlt, gs, hgroups, rfl⟩
  · rintro ⟨hlt, gs, hgroups, rfl⟩
    exact ⟨gs, rest, hgroups, hlt, rfl, rfl⟩

theorem unsigned_returns {bits n : Nat} (hbits : bits ≠ 0) (h : n < 2 ^ bits) :
    (Leb.unsigned bits).Returns n := by
  intro rest
  obtain ⟨k, hk⟩ : ∃ k, (bits + 6) / 7 = k + 1 := ⟨(bits + 6) / 7 - 1, by omega⟩
  have hfits : n < 128 ^ (k + 1) := by
    have hpow : 2 ^ bits ≤ 2 ^ (7 * (k + 1)) := Nat.pow_le_pow_right (by decide) (by omega)
    rw [Nat.pow_mul] at hpow
    exact h.trans_le hpow
  obtain ⟨gs, hgroups, hvalue⟩ := Leb.groups_unsigned hfits rest
  exact read_unsigned_iff.mpr ⟨h, gs, by rw [hk]; exact hgroups, hvalue⟩

theorem settles_unsigned (bits : Nat) : (Leb.unsigned bits).Settles id := by
  intro bs n rest h
  obtain ⟨hlt, gs, hgroups, rfl⟩ := read_unsigned_iff.mp h
  obtain ⟨hne, hfew, hlength, hsmall⟩ := Leb.groups_eq_some hgroups
  have hpos := List.length_pos_iff.mpr hne
  refine ⟨?_, unsigned_returns (by omega) hlt⟩
  have hsize : (Leb.unsignedOctets (Leb.value gs)).length ≤ gs.length :=
    Leb.length_unsigned_le (Leb.value_lt hsmall) (by simpa using hne)
  change (Leb.unsignedOctets (Leb.value gs)).length + _ ≤ _
  omega

theorem read_signed_iff {bits : Nat} {i : Int} : (Leb.signed bits).read bs = some (i, rest) ↔
    (-(2 ^ (bits - 1) : Int) ≤ i ∧ i < 2 ^ (bits - 1)) ∧ ∃ gs,
      Leb.groups ((bits + 6) / 7) bs = some (gs, rest) ∧
        Int.bmod (Leb.value gs) (128 ^ gs.length) = i := by
  simp only [Leb.signed, Option.bind_eq_bind, Option.bind_eq_some_iff, Prod.exists,
    Option.ite_none_right_eq_some, Option.some.injEq, Prod.mk.injEq]
  constructor
  · rintro ⟨gs, _, hgroups, hrange, rfl, rfl⟩
    exact ⟨hrange, gs, hgroups, rfl⟩
  · rintro ⟨hrange, gs, hgroups, rfl⟩
    exact ⟨gs, rest, hgroups, hrange, rfl, rfl⟩

theorem settles_signed (bits : Nat) : (Leb.signed bits).Settles id := by
  intro bs i rest h
  obtain ⟨hrange, gs, hgroups, hvalue⟩ := read_signed_iff.mp h
  obtain ⟨hne, hfew, hlength, -⟩ := Leb.groups_eq_some hgroups
  obtain ⟨k, hk⟩ := Nat.exists_eq_succ_of_ne_zero (List.length_pos_iff.mpr hne).ne'
  have hfit : Leb.SignedFit k i := by
    rw [← hvalue, hk]
    exact Leb.signedFit_bmod _ k
  refine ⟨?_, fun rest => ?_⟩
  · have hsize := Leb.length_signed hfit
    change (Leb.signedOctets i).length + _ ≤ _
    omega
  · obtain ⟨j, hj⟩ : ∃ j, (bits + 6) / 7 = j + 1 := ⟨(bits + 6) / 7 - 1, by omega⟩
    obtain ⟨gs', hgroups', htells⟩ := Leb.groups_signed (hfit.mono (j := j) (by omega)) rest
    exact read_signed_iff.mpr ⟨hrange, gs', by rw [hj]; exact hgroups', htells.bmod⟩

theorem settles_u32 : u32.Settles id := settles_unsigned 32
theorem settles_u64 : u64.Settles id := settles_unsigned 64

theorem u32_returns {n : Nat} (h : n < 2 ^ 32) : u32.Returns n := unsigned_returns (by decide) h

theorem lt_of_read_u32 {n : Nat} (h : u32.read bs = some (n, rest)) : n < 2 ^ 32 :=
  (read_unsigned_iff.mp h).1

theorem length_u32_mono {m n : Nat} (h : m ≤ n) : (u32.write m).length ≤ (u32.write n).length :=
  Leb.length_unsigned_mono h

/-! ### Ways to build forms -/

theorem read_pair_iff : (c.pair d).read bs = some ((a, b), rest) ↔
    ∃ mid, c.read bs = some (a, mid) ∧ d.read mid = some (b, rest) := by
  simp only [pair, Option.bind_eq_bind, Option.bind_eq_some_iff, Prod.exists, Option.pure_def,
    Option.some.injEq, Prod.mk.injEq]
  constructor
  · rintro ⟨_, mid, ha, _, _, hb, ⟨rfl, rfl⟩, rfl⟩
    exact ⟨mid, ha, hb⟩
  · rintro ⟨mid, ha, hb⟩
    exact ⟨a, mid, ha, b, rest, hb, ⟨rfl, rfl⟩, rfl⟩

theorem length_pair (c : Codec α) (d : Codec β) (a : α) (b : β) :
    ((c.pair d).write (a, b)).length = (c.write a).length + (d.write b).length :=
  List.length_append

theorem Returns.pair (ha : c.Returns a) (hb : d.Returns b) : (c.pair d).Returns (a, b) := by
  intro rest
  have hread := ha (d.write b ++ rest)
  rw [← List.append_assoc] at hread
  exact read_pair_iff.mpr ⟨_, hread, hb rest⟩

theorem Settles.pair (hc : c.Settles f) (hd : d.Settles g) :
    (c.pair d).Settles fun p => (f p.1, g p.2) := by
  rintro bs ⟨a, b⟩ rest h
  obtain ⟨mid, ha, hb⟩ := read_pair_iff.mp h
  obtain ⟨hasize, haback⟩ := hc ha
  obtain ⟨hbsize, hbback⟩ := hd hb
  refine ⟨?_, haback.pair hbback⟩
  dsimp only
  rw [length_pair]
  omega

theorem Settles.pair_id (hc : c.Settles id) (hd : d.Settles id) : (c.pair d).Settles id := hc.pair hd

theorem Settles.pairAll (hc : c.Settles f) (hd : d.SettlesAll g) :
    (c.pair d).SettlesAll fun p => (f p.1, g p.2) := by
  rintro bs ⟨a, b⟩ h
  obtain ⟨mid, ha, hb⟩ := read_pair_iff.mp (readAll_eq_some.mp h)
  obtain ⟨hasize, haback⟩ := hc ha
  obtain ⟨hbsize, hbback⟩ := hd (readAll_eq_some.mpr hb)
  refine ⟨?_, readAll_eq_some.mpr (read_pair_iff.mpr ⟨_, haback _, readAll_eq_some.mp hbback⟩)⟩
  dsimp only
  rw [length_pair]
  omega

theorem read_convert_iff {there : α → Option β} {back : β → α} :
    (c.convert there back).read bs = some (b, rest) ↔
      ∃ a, c.read bs = some (a, rest) ∧ there a = some b := by
  simp only [convert, Option.bind_eq_bind, Option.bind_eq_some_iff, Prod.exists, Option.pure_def,
    Option.some.injEq, Prod.mk.injEq]
  constructor
  · rintro ⟨a, _, ha, _, hb, rfl, rfl⟩
    exact ⟨a, ha, hb⟩
  · rintro ⟨a, ha, hb⟩
    exact ⟨a, rest, ha, b, hb, rfl, rfl⟩

theorem Returns.convert {there : α → Option β} {back : β → α} (h : c.Returns (back b))
    (hb : there (back b) = some b) : (c.convert there back).Returns b :=
  fun rest => read_convert_iff.mpr ⟨_, h rest, hb⟩

/-- A value is seen as another one that it can be told from. -/
theorem Settles.convert_where {there : α → Option β} {back : β → α} {p : α → Prop}
    (hc : c.Settles f) (hp : ∀ ⦃bs a rest⦄, c.read bs = some (a, rest) → p a)
    (h : ∀ a b, p a → there a = some b → back (g b) = f a ∧ there (f a) = some (g b)) :
    (c.convert there back).Settles g := by
  intro bs b rest hread
  obtain ⟨a, ha, hb⟩ := read_convert_iff.mp hread
  obtain ⟨hback, hthere⟩ := h a b (hp ha) hb
  obtain ⟨hsize, hreturns⟩ := hc ha
  rw [← hback] at hsize hreturns hthere
  exact ⟨hsize, hreturns.convert hthere⟩

theorem Settles.convert {there : α → Option β} {back : β → α} (hc : c.Settles f)
    (h : ∀ a b, there a = some b → back (g b) = f a ∧ there (f a) = some (g b)) :
    (c.convert there back).Settles g :=
  hc.convert_where (p := fun _ => True) (fun _ _ _ _ => trivial) fun a b _ => h a b

theorem Settles.guarded (hc : c.Settles id) (ok : α → Bool) : (c.guarded ok).Settles id :=
  hc.convert fun a b h => by
    obtain ⟨hok, hb⟩ := Option.ite_none_right_eq_some.mp h
    obtain rfl := Option.some.inj hb
    exact ⟨rfl, h⟩

theorem read_guarded_iff {ok : α → Bool} :
    (c.guarded ok).read bs = some (a, rest) ↔ c.read bs = some (a, rest) ∧ ok a = true := by
  simp only [guarded, read_convert_iff, Option.ite_none_right_eq_some, Option.some.injEq]
  constructor
  · rintro ⟨_, hread, hok, rfl⟩
    exact ⟨hread, hok⟩
  · rintro ⟨hread, hok⟩
    exact ⟨a, hread, hok, rfl⟩

theorem Returns.guarded {ok : α → Bool} (h : c.Returns a) (hok : ok a = true) :
    (c.guarded ok).Returns a :=
  fun rest => read_guarded_iff.mpr ⟨h rest, hok⟩

theorem Returns.renamed {wrap : α → β} {unwrap : β → α} (h : c.Returns a)
    (ha : unwrap (wrap a) = a) :
    (c.convert (fun a => some (wrap a)) unwrap).Returns (wrap a) := by
  refine Returns.convert ?_ ?_
  · rw [ha]
    exact h
  · rw [ha]

theorem Settles.renamed {wrap : α → β} {unwrap : β → α} (hc : c.Settles id)
    (h : ∀ a, unwrap (wrap a) = a) : (c.convert (fun a => some (wrap a)) unwrap).Settles id :=
  hc.convert fun a _ hb => by
    obtain rfl := Option.some.inj hb
    exact ⟨h a, by rw [id, id]⟩

theorem read_renamed_iff {wrap : α → β} {unwrap : β → α} :
    (c.convert (fun a => some (wrap a)) unwrap).read bs = some (b, rest) ↔
      ∃ a, c.read bs = some (a, rest) ∧ wrap a = b := by
  simp only [read_convert_iff, Option.some.injEq]

theorem SettlesAll.renamed {wrap : α → β} {unwrap : β → α} (hc : c.SettlesAll f)
    (h : ∀ a, unwrap (g (wrap a)) = f a ∧ wrap (f a) = g (wrap a)) :
    (c.convert (fun a => some (wrap a)) unwrap).SettlesAll g := by
  intro bs b hread
  obtain ⟨a, ha, rfl⟩ := read_renamed_iff.mp (readAll_eq_some.mp hread)
  obtain ⟨hsize, hback⟩ := hc (readAll_eq_some.mpr ha)
  obtain ⟨hunwrap, hwrap⟩ := h a
  have hwrite : (c.convert (fun a => some (wrap a)) unwrap).write (g (wrap a)) = c.write (f a) :=
    congrArg c.write hunwrap
  rw [hwrite]
  exact ⟨hsize, readAll_eq_some.mpr (read_renamed_iff.mpr ⟨f a, readAll_eq_some.mp hback, hwrap⟩)⟩

/-! ### Tags -/

section Tagged

variable {tag : Codec τ} {tagOf : α → τ} {body : τ → Codec α} {t : τ}

theorem read_tagged_iff : (tagged tag tagOf body).read bs = some (a, rest) ↔
    ∃ t mid, tag.read bs = some (t, mid) ∧ (body t).read mid = some (a, rest) := by
  simp only [tagged, Option.bind_eq_bind, Option.bind_eq_some_iff, Prod.exists]

/-- What is read behind the tag may have another tag of its own, under which it is no longer. -/
def Retags (tag : Codec τ) (tagOf : α → τ) (body : τ → Codec α) (t : τ) : Prop :=
  ∀ ⦃bs a rest⦄, (body t).read bs = some (a, rest) →
    (tag.write (tagOf a)).length + ((body (tagOf a)).write a).length + rest.length ≤
      (tag.write t).length + bs.length ∧ tag.Returns (tagOf a) ∧ (body (tagOf a)).Returns a

theorem Settles.tagged (htag : tag.Settles id)
    (h : ∀ ⦃bs t mid⦄, tag.read bs = some (t, mid) → Retags tag tagOf body t) :
    (tagged tag tagOf body).Settles id := by
  intro bs a rest hread
  obtain ⟨t, mid, ht, ha⟩ := read_tagged_iff.mp hread
  obtain ⟨hsize, htback, hback⟩ := h ht ha
  have htsize := htag.size ht
  refine ⟨?_, fun rest => ?_⟩
  · simp only [Codec.tagged, id, List.length_append]
    omega
  · refine read_tagged_iff.mpr ⟨tagOf a, _, ?_, hback rest⟩
    have hread := htback ((body (tagOf a)).write a ++ rest)
    rwa [← List.append_assoc] at hread

theorem retag_same (hbody : (body t).Settles id) (htag : tag.Returns t)
    (hread : (body t).read bs = some (a, rest)) (h : tagOf a = t) :
    (tag.write (tagOf a)).length + ((body (tagOf a)).write a).length + rest.length ≤
      (tag.write t).length + bs.length ∧ tag.Returns (tagOf a) ∧ (body (tagOf a)).Returns a := by
  obtain ⟨hsize, hback⟩ := hbody hread
  rw [h]
  simp only [id] at hsize hback
  exact ⟨by omega, htag, hback⟩

theorem retags_same (hbody : (body t).Settles id) (htag : tag.Returns t)
    (h : ∀ ⦃bs a rest⦄, (body t).read bs = some (a, rest) → tagOf a = t) :
    Retags tag tagOf body t :=
  fun _ _ _ hread => retag_same hbody htag hread (h hread)

/-- A tag that stands for one constructor of the values. -/
theorem retags_renamed {wrap : β → α} {unwrap : α → β}
    (ht : body t = d.convert (fun b => some (wrap b)) unwrap) (hd : d.Settles id)
    (htag : tag.Returns t) (hunwrap : ∀ b, unwrap (wrap b) = b) (hwrap : ∀ b, tagOf (wrap b) = t) :
    Retags tag tagOf body t := by
  refine retags_same (by rw [ht]; exact hd.renamed hunwrap) htag fun bs a rest hread => ?_
  rw [ht] at hread
  obtain ⟨b, -, hb⟩ := read_convert_iff.mp hread
  obtain rfl := Option.some.inj hb
  exact hwrap b

theorem retags_reject (ht : body t = reject) : Retags tag tagOf body t := by
  intro bs a rest hread
  rw [ht] at hread
  cases hread

end Tagged

theorem forall_byte {p : UInt8 → Prop} (h : ∀ n : Fin 256, p (UInt8.ofFin n)) (b : UInt8) : p b :=
  h b.toFin

theorem byte_returns (b : UInt8) : byte.Returns b := fun _ => rfl

theorem length_byte (b : UInt8) : (byte.write b).length = 1 := rfl

theorem retags_nothing {lead : α → UInt8} {after : UInt8 → Codec α} {t : UInt8}
    (ht : after t = nothing a) (ha : lead a = t) : Retags byte lead after t :=
  retags_same (by rw [ht]; exact settles_nothing a) (byte_returns t) fun bs a' rest hread => by
    rw [ht] at hread
    obtain ⟨rfl, -⟩ := Prod.mk.inj (Option.some.inj hread)
    exact ha

theorem Retags.renamed {lead : α → UInt8} {after : UInt8 → Codec α} {lead' : β → UInt8}
    {after' : UInt8 → Codec β} {t : UInt8} {wrap : α → β} {unwrap : β → α}
    (h : Retags byte lead after t) (hunwrap : ∀ a, unwrap (wrap a) = a)
    (hlead : ∀ a, lead' (wrap a) = lead a)
    (hafter : ∀ a, after' (lead a) = (after (lead a)).convert (fun a => some (wrap a)) unwrap)
    (ht : after' t = (after t).convert (fun a => some (wrap a)) unwrap) :
    Retags byte lead' after' t := by
  intro bs b rest hread
  rw [ht] at hread
  obtain ⟨a, ha, hb⟩ := read_convert_iff.mp hread
  obtain rfl := Option.some.inj hb
  obtain ⟨hsize, htag, hback⟩ := h ha
  rw [hlead, hafter]
  have hwrite : ((after (lead a)).convert (fun a => some (wrap a)) unwrap).write (wrap a) =
      (after (lead a)).write a := congrArg _ (hunwrap a)
  exact ⟨by rw [hwrite]; exact hsize, htag, hback.renamed (hunwrap a)⟩

/-! ### The first byte in place -/

/-- A value read from a first byte on starts with a byte that tells how it is read again. -/
def Heads (body : UInt8 → Codec α) (write : α → Octets) (b : UInt8) : Prop :=
  ∀ ⦃bs a rest⦄, (body b).read (b :: bs) = some (a, rest) →
    (write a).length + rest.length ≤ bs.length + 1 ∧ ∃ b' tail, write a = b' :: tail ∧
      ∀ rest, (body b').read (b' :: tail ++ rest) = some (a, rest)

theorem settles_peek {body : UInt8 → Codec α} {write : α → Octets}
    (h : ∀ b, Heads body write b) : (peek body write).Settles id := by
  rintro (_ | ⟨b, bs⟩) a rest hread
  · cases hread
  · obtain ⟨hsize, b', tail, hwrite, hback⟩ := h b hread
    refine ⟨hsize, fun rest => ?_⟩
    change (peek body write).read (write a ++ rest) = _
    rw [hwrite]
    exact hback rest

theorem heads_renamed {body : UInt8 → Codec α} {write : α → Octets} {t : UInt8} {wrap : β → α}
    {unwrap : α → β} (ht : body t = d.convert (fun b => some (wrap b)) unwrap) (hd : d.Settles id)
    (h : ∀ ⦃bs b rest⦄, d.read bs = some (b, rest) → ∃ lead tail,
      d.write b = lead :: tail ∧ write (wrap b) = lead :: tail ∧ body lead = body t) :
    Heads body write t := by
  intro bs a rest hread
  rw [ht] at hread
  obtain ⟨b, hb, rfl⟩ := read_renamed_iff.mp hread
  obtain ⟨hsize, hback⟩ := hd hb
  obtain ⟨lead, tail, hown, hwrite, hsame⟩ := h hb
  simp only [id, Returns] at hsize hback
  rw [hown] at hsize hback
  refine ⟨by rw [hwrite]; exact hsize, lead, tail, hwrite, fun rest => ?_⟩
  rw [hsame, ht]
  exact read_renamed_iff.mpr ⟨b, hback rest, rfl⟩

/-! ### Lists -/

theorem readTimes_eq_some {n : Nat} {acc as : List α} (hc : c.Settles f)
    (h : readTimes c n acc bs = some (as, rest)) : ∃ new, as = acc.reverse ++ new ∧
      new.length = n ∧ ((new.map f).flatMap c.write).length + rest.length ≤ bs.length ∧
      ∀ a ∈ new.map f, c.Returns a := by
  induction n generalizing acc bs with
  | zero =>
    obtain ⟨rfl, rfl⟩ := Prod.mk.inj (Option.some.inj h)
    exact ⟨[], by simp⟩
  | succ n ih =>
    obtain ⟨⟨a, mid⟩, ha, hrest⟩ := Option.bind_eq_some_iff.mp h
    obtain ⟨hsize, hback⟩ := hc ha
    obtain ⟨new, rfl, rfl, hsizes, hbacks⟩ := ih hrest
    refine ⟨a :: new, by simp, rfl, ?_, ?_⟩
    · simp only [List.map_cons, List.flatMap_cons, List.length_append]
      omega
    · simpa using ⟨hback, by simpa using hbacks⟩

theorem readTimes_returns {acc as : List α} (h : ∀ a ∈ as, c.Returns a) (rest : Octets) :
    readTimes c as.length acc (as.flatMap c.write ++ rest) = some (acc.reverse ++ as, rest) := by
  induction as generalizing acc with
  | nil => simp [readTimes]
  | cons a as ih =>
    obtain ⟨ha, has⟩ := List.forall_mem_cons.mp h
    rw [List.flatMap_cons, List.append_assoc, List.length_cons, readTimes, ha]
    change readTimes c as.length (a :: acc) (as.flatMap c.write ++ rest) = _
    rw [ih has]
    simp

theorem read_listWithin_iff {limit : Nat} {as : List α} :
    (listWithin limit c).read bs = some (as, rest) ↔
      ∃ n mid, u32.read bs = some (n, mid) ∧ n ≤ limit ∧ readTimes c n [] mid = some (as, rest) := by
  simp only [listWithin, Option.bind_eq_bind, Option.bind_eq_some_iff, Prod.exists,
    Option.ite_none_left_eq_some, Nat.not_lt]

theorem listWithin_returns {limit : Nat} {as : List α} (hlimit : as.length ≤ limit)
    (hfew : as.length < 2 ^ 32) (h : ∀ a ∈ as, c.Returns a) : (listWithin limit c).Returns as := by
  intro rest
  refine read_listWithin_iff.mpr ⟨_, _, ?_, hlimit, readTimes_returns h rest⟩
  have hread := u32_returns hfew (as.flatMap c.write ++ rest)
  rwa [← List.append_assoc] at hread

theorem Settles.listWithin (hc : c.Settles f) (limit : Nat) :
    (listWithin limit c).Settles (List.map f) := by
  intro bs as rest h
  obtain ⟨n, mid, hn, hlimit, has⟩ := read_listWithin_iff.mp h
  obtain ⟨new, rfl, rfl, hsizes, hbacks⟩ := readTimes_eq_some hc has
  have hsize := settles_u32.size hn
  have hfew := lt_of_read_u32 hn
  refine ⟨?_, listWithin_returns (by simpa using hlimit) (by simpa using hfew) hbacks⟩
  simp only [Codec.listWithin, List.length_append, List.length_map]
  omega

theorem Settles.list (hc : c.Settles f) : (list c).Settles (List.map f) := hc.listWithin _

theorem Settles.listWithin_id (hc : c.Settles id) (limit : Nat) :
    (Codec.listWithin limit c).Settles id := by
  have h := hc.listWithin limit
  rwa [List.map_id_fun] at h

theorem Settles.list_id (hc : c.Settles id) : (Codec.list c).Settles id := hc.listWithin_id _

theorem length_le_of_read {limit : Nat} {as : List α} (hc : c.Settles f)
    (h : (Codec.listWithin limit c).read bs = some (as, rest)) : as.length ≤ limit := by
  obtain ⟨n, mid, -, hlimit, has⟩ := read_listWithin_iff.mp h
  obtain ⟨new, rfl, rfl, -⟩ := readTimes_eq_some hc has
  exact hlimit

theorem length_lt_of_list {as : List α} (hc : c.Settles f)
    (h : (Codec.list c).read bs = some (as, rest)) : as.length < 2 ^ 32 := by
  obtain ⟨n, mid, hn, -, has⟩ := read_listWithin_iff.mp h
  obtain ⟨new, rfl, rfl, -⟩ := readTimes_eq_some hc has
  exact lt_of_read_u32 hn

theorem forall_of_readTimes {p : α → Prop} {n : Nat} {acc as : List α}
    (hp : ∀ ⦃bs a rest⦄, c.read bs = some (a, rest) → p a) (hacc : ∀ a ∈ acc, p a)
    (h : readTimes c n acc bs = some (as, rest)) : ∀ a ∈ as, p a := by
  induction n generalizing acc bs with
  | zero =>
    obtain ⟨rfl, rfl⟩ := Prod.mk.inj (Option.some.inj h)
    simpa using hacc
  | succ n ih =>
    obtain ⟨⟨a, mid⟩, ha, hrest⟩ := Option.bind_eq_some_iff.mp h
    exact ih (List.forall_mem_cons.mpr ⟨hp ha, hacc⟩) hrest

theorem forall_of_list {p : α → Prop} {as : List α}
    (hp : ∀ ⦃bs a rest⦄, c.read bs = some (a, rest) → p a)
    (h : (list c).read bs = some (as, rest)) : ∀ a ∈ as, p a := by
  obtain ⟨n, mid, -, -, has⟩ := read_listWithin_iff.mp h
  exact forall_of_readTimes hp (List.forall_mem_nil p) has

/-! ### Up to the end -/

theorem readMany_eq_some {fuel : Nat} {acc as : List α} (hc : c.Settles f)
    (h : readMany c fuel acc bs = some as) : ∃ new, as = acc.reverse ++ new ∧
      ((new.map f).flatMap c.write).length ≤ bs.length ∧ ∀ a ∈ new.map f, c.Returns a := by
  induction fuel generalizing acc bs with
  | zero =>
    cases bs with
    | nil => exact ⟨[], by simpa [readMany] using h.symm⟩
    | cons b bs => cases h
  | succ fuel ih =>
    cases bs with
    | nil => exact ⟨[], by simpa [readMany] using h.symm⟩
    | cons b bs =>
      obtain ⟨⟨a, mid⟩, ha, hrest⟩ := Option.bind_eq_some_iff.mp h
      obtain ⟨hsize, hback⟩ := hc ha
      obtain ⟨new, rfl, hsizes, hbacks⟩ := ih hrest
      refine ⟨a :: new, by simp, ?_, ?_⟩
      · simp only [List.map_cons, List.flatMap_cons, List.length_append]
        omega
      · simpa using ⟨hback, by simpa using hbacks⟩

theorem readMany_returns {fuel : Nat} {acc as : List α} (h : ∀ a ∈ as, c.Returns a)
    (hne : ∀ a, c.write a ≠ []) (hfuel : (as.flatMap c.write).length ≤ fuel) :
    readMany c fuel acc (as.flatMap c.write) = some (acc.reverse ++ as) := by
  induction as generalizing fuel acc with
  | nil => cases fuel <;> simp [readMany]
  | cons a as ih =>
    obtain ⟨ha, has⟩ := List.forall_mem_cons.mp h
    have hpos := List.length_pos_iff.mpr (hne a)
    rw [List.flatMap_cons, List.length_append] at hfuel
    obtain ⟨fuel, rfl⟩ := Nat.exists_eq_succ_of_ne_zero (n := fuel) (by omega)
    obtain ⟨b, bs, hb⟩ := List.exists_cons_of_ne_nil (hne a)
    have hread := ha (as.flatMap c.write)
    rw [List.flatMap_cons]
    rw [hb, List.cons_append] at hread ⊢
    simp only [readMany, hread]
    change readMany c fuel (a :: acc) (as.flatMap c.write) = _
    rw [ih has (by omega)]
    simp

theorem readAll_many_iff {as : List α} :
    (many c).readAll bs = some as ↔ readMany c bs.length [] bs = some as := by
  rw [readAll_eq_some]
  simp [many]

theorem many_returns {as : List α} (h : ∀ a ∈ as, c.Returns a) (hne : ∀ a, c.write a ≠ []) :
    (many c).readAll ((many c).write as) = some as := by
  rw [readAll_many_iff]
  exact readMany_returns h hne (Nat.le_refl _)

theorem Settles.many (hc : c.Settles f) (hne : ∀ a, c.write a ≠ []) :
    (many c).SettlesAll (List.map f) := by
  intro bs as h
  obtain ⟨new, rfl, hsizes, hbacks⟩ := readMany_eq_some hc (readAll_many_iff.mp h)
  exact ⟨hsizes, many_returns hbacks hne⟩

theorem forall_of_readMany {p : α → Prop} {fuel : Nat} {acc as : List α}
    (hp : ∀ ⦃bs a rest⦄, c.read bs = some (a, rest) → p a) (hacc : ∀ a ∈ acc, p a)
    (h : readMany c fuel acc bs = some as) : ∀ a ∈ as, p a := by
  induction fuel generalizing acc bs with
  | zero =>
    cases bs with
    | nil => simpa [← Option.some.inj h] using hacc
    | cons b bs => cases h
  | succ fuel ih =>
    cases bs with
    | nil => simpa [← Option.some.inj h] using hacc
    | cons b bs =>
      obtain ⟨⟨a, mid⟩, ha, hrest⟩ := Option.bind_eq_some_iff.mp h
      exact ih (List.forall_mem_cons.mpr ⟨hp ha, hacc⟩) hrest

/-! ### Counted bytes -/

theorem read_sized_iff : (sized c).read bs = some (a, rest) ↔ ∃ n mid body,
    u32.read bs = some (n, mid) ∧ (octets n).read mid = some (body, rest) ∧
      c.readAll body = some a := by
  simp only [sized, Option.bind_eq_bind, Option.bind_eq_some_iff, Prod.exists, Option.pure_def,
    Option.some.injEq, Prod.mk.injEq]
  constructor
  · rintro ⟨n, mid, hn, body, _, hbody, _, ha, rfl, rfl⟩
    exact ⟨n, mid, body, hn, hbody, ha⟩
  · rintro ⟨n, mid, body, hn, hbody, ha⟩
    exact ⟨n, mid, hn, body, rest, hbody, a, ha, rfl, rfl⟩

theorem SettlesAll.sized (hc : c.SettlesAll f) : (sized c).Settles f := by
  intro bs a rest h
  obtain ⟨n, mid, body, hn, hbody, ha⟩ := read_sized_iff.mp h
  obtain ⟨rfl, rfl⟩ := read_octets_iff.mp hbody
  obtain ⟨hsize, hback⟩ := hc ha
  have hcount := settles_u32.size hn
  have hshorter := length_u32_mono hsize
  have hfits := hsize.trans_lt (lt_of_read_u32 hn)
  refine ⟨?_, fun rest => ?_⟩
  · simp only [Codec.sized, List.length_append] at hcount ⊢
    omega
  · refine read_sized_iff.mpr ⟨_, c.write (f a) ++ rest, _, ?_, read_octets_iff.mpr ⟨rfl, rfl⟩, hback⟩
    have hread := u32_returns hfits (c.write (f a) ++ rest)
    rwa [← List.append_assoc] at hread

theorem read_blob_iff {as : Octets} : blob.read bs = some (as, rest) ↔
    as.length < 2 ^ 32 ∧ u32.read bs = some (as.length, as ++ rest) := by
  simp only [blob, Option.bind_eq_bind, Option.bind_eq_some_iff, Prod.exists, read_octets_iff]
  constructor
  · rintro ⟨n, mid, hn, rfl, rfl⟩
    exact ⟨lt_of_read_u32 hn, hn⟩
  · rintro ⟨-, hn⟩
    exact ⟨_, _, hn, rfl, rfl⟩

theorem blob_returns {as : Octets} (h : as.length < 2 ^ 32) : blob.Returns as := by
  intro rest
  refine read_blob_iff.mpr ⟨h, ?_⟩
  have hread := u32_returns h (as ++ rest)
  rwa [← List.append_assoc] at hread

theorem settles_blob : blob.Settles id := by
  intro bs as rest h
  obtain ⟨hlt, hn⟩ := read_blob_iff.mp h
  have hsize := settles_u32.size hn
  refine ⟨?_, blob_returns hlt⟩
  simp only [blob, id, List.length_append] at hsize ⊢
  omega

theorem settles_name : name.Settles id := settles_blob.guarded _

end Inkwell.Wasm.Codec
