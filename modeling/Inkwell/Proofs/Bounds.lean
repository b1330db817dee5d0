import Inkwell.Clamp
import Inkwell.Proofs.Marks
set_option autoImplicit false

/-! A limit on the size of a module decides whether the module is taken, and never what it is. -/

namespace Inkwell

namespace Brotli

variable {fault : Option Fault} {room : Nat} {bs : Octets} {r : Except Fault Octets}

/-- What may come of reading a stream to its end when there is room for so many bytes. The stream
decides how many it gives at a time, one at least, and it tells of its end or of its fault once all
bytes are read; without room it is not asked again. -/
inductive Drains (fault : Option Fault) : Nat → Octets → Except Fault Octets → Prop
  | full {bs : Octets} : Drains fault 0 bs (.ok [])
  | ended {room : Nat} : fault = none → Drains fault room [] (.ok [])
  | failed {room : Nat} {f : Fault} : 0 < room → fault = some f → Drains fault room [] (.error f)
  | piece {room : Nat} {bs rest : Octets} {r : Except Fault Octets} : bs ≠ [] → bs.length ≤ room →
      Drains fault (room - bs.length) rest r → Drains fault room (bs ++ rest) (r.map (bs ++ ·))

def drained (fault : Option Fault) (room : Nat) (bs : Octets) : Except Fault Octets :=
  if room ≤ bs.length then .ok (bs.take room)
  else match fault with
    | some f => .error f
    | none => .ok bs

theorem drained_append {rest : Octets} (h : bs.length ≤ room) :
    drained fault room (bs ++ rest) = (drained fault (room - bs.length) rest).map (bs ++ ·) := by
  unfold drained
  by_cases hroom : room ≤ (bs ++ rest).length
  · have hrest : room - bs.length ≤ rest.length := by
      rw [List.length_append] at hroom
      omega
    rw [if_pos hroom, if_pos hrest, List.take_append, List.take_of_length_le h]
    rfl
  · have hrest : ¬ room - bs.length ≤ rest.length := by
      rw [List.length_append] at hroom
      omega
    rw [if_neg hroom, if_neg hrest]
    cases fault <;> rfl

theorem drains_iff : Drains fault room bs r ↔ r = drained fault room bs := by
  constructor
  · intro h
    induction h with
    | full => simp [drained]
    | ended hfault => subst hfault; unfold drained; split <;> simp
    | failed hroom hfault => simp [drained, hfault, Nat.pos_iff_ne_zero.mp hroom]
    | piece _ hlength _ ih => rw [ih, drained_append hlength]
  · rintro rfl
    have hlast : ∀ room rest, room = 0 ∨ rest = [] → Drains fault room rest (drained fault room rest) := by
      rintro (_ | room) rest (h | rfl)
      · exact .full
      · exact .full
      · exact absurd h (Nat.succ_ne_zero room)
      · cases hfault : fault with
        | none => exact .ended rfl
        | some f => exact .failed (Nat.succ_pos room) rfl
    by_cases hpiece : bs.take room = []
    · exact hlast room bs (List.take_eq_nil_iff.mp hpiece)
    · -- Whatever fits is read at once, and then there is no room or no byte left.
      have hrest : room - (bs.take room).length = 0 ∨ bs.drop room = [] := by
        rw [List.length_take, List.drop_eq_nil_iff]
        omega
      have hdrains := Drains.piece hpiece (List.length_take_le _ _) (hlast _ _ hrest)
      rwa [← drained_append (List.length_take_le _ _), List.take_append_drop] at hdrains

end Brotli

namespace Package

variable {code body m : Octets} {limit : Nat} {o : Brotli.Outcome} {r : Except Brotli.Fault Octets}

/-- What was read is held against the limit, unless the stream has a fault. -/
def checked (limit : Nat) : Except Brotli.Fault Octets → Except Error Octets
  | .error f => .error (.corrupt f)
  | .ok bs => if limit < bs.length then .error (.tooLarge limit) else .ok bs

/-- A limit is kept to by reading one byte more, as far as there are numbers for that. -/
theorem checked_drained (h : limit < max64 ∨ o.delivered.length < max64) :
    checked limit (Brotli.drained o.fault (clamp64 (limit + 1)) o.delivered) = completeWithin limit o := by
  unfold completeWithin Brotli.drained
  by_cases hlong : limit < o.delivered.length
  · have hroom : clamp64 (limit + 1) = limit + 1 := clamp64_eq (by omega)
    rw [hroom, if_pos (Nat.succ_le_of_lt hlong), if_pos hlong]
    exact if_pos (by rw [List.length_take]; omega)
  · have hroom : ¬ clamp64 (limit + 1) ≤ o.delivered.length := by
      unfold clamp64
      omega
    rw [if_neg hroom, if_neg hlong]
    unfold complete
    cases o.fault with
    | some f => rfl
    | none => exact if_neg hlong

theorem checked_drained_all (h : o.delivered.length < max64) :
    checked max64 (Brotli.drained o.fault max64 o.delivered) = complete o := by
  have hlong : ¬ max64 < o.delivered.length := Nat.lt_asymm h
  have hall : checked max64 (Brotli.drained o.fault max64 o.delivered) = completeWithin max64 o :=
    checked_drained (.inr h)
  rwa [completeWithin, if_neg hlong] at hall

theorem complete_eq_ok_iff : complete o = .ok m ↔ o.fault = none ∧ o.delivered = m := by
  unfold complete
  cases o.fault <;> simp

theorem completeWithin_of_complete (h : complete o = .ok m) : completeWithin limit o =
    if m.length ≤ limit then .ok m else .error (.tooLarge limit) := by
  have hm : o.delivered = m := (complete_eq_ok_iff.mp h).2
  rw [completeWithin, h, hm]
  by_cases hlong : limit < m.length
  · rw [if_pos hlong, if_neg (Nat.not_le.mpr hlong)]
  · rw [if_neg hlong, if_pos (Nat.not_lt.mp hlong)]

theorem complete_of_completeWithin (h : completeWithin limit o = .ok m) : complete o = .ok m := by
  unfold completeWithin at h
  by_cases hlong : limit < o.delivered.length
  · rw [if_pos hlong] at h
    cases h
  · rwa [if_neg hlong] at h

/-! ### Modules in code -/

theorem unpack_of_mark (h : mark <+: code) :
    unpack code = complete (Brotli.decode (code.drop mark.length)) := by
  rw [unpack, body?_of_mark h]
  rfl

theorem module?_of_mark (h : mark <+: code) : module? limit code =
    (completeWithin limit (Brotli.decode (code.drop mark.length))).map some := by
  have hprogram : discriminant <+: code := (List.prefix_append _ _).trans h
  rw [module?, if_pos (isProgram_iff.mpr hprogram), unpackWithin, body?_of_mark h]
  rfl

theorem mark_of_unpack (h : unpack code = .ok m) : mark <+: code := by
  by_contra hmark
  rw [unpack_eq_noMark_iff.mpr hmark] at h
  cases h

theorem mark_of_module? (h : module? limit code = .ok (some m)) : mark <+: code := by
  by_contra hmark
  by_cases hprogram : discriminant <+: code
  · rw [module?_eq_noMark_iff.mpr ⟨hprogram, hmark⟩] at h
    cases h
  · rw [module?_eq_none_iff.mpr hprogram] at h
    cases h

theorem module?_of_unpack (h : unpack code = .ok m) : module? limit code =
    if m.length ≤ limit then .ok (some m) else .error (.tooLarge limit) := by
  have hmark := mark_of_unpack h
  rw [unpack_of_mark hmark] at h
  rw [module?_of_mark hmark, completeWithin_of_complete h]
  by_cases hfits : m.length ≤ limit
  · rw [if_pos hfits, if_pos hfits]
    rfl
  · rw [if_neg hfits, if_neg hfits]
    rfl

theorem unpack_of_module? (h : module? limit code = .ok (some m)) : unpack code = .ok m := by
  have hmark := mark_of_module? h
  rw [module?_of_mark hmark] at h
  rw [unpack_of_mark hmark]
  refine @complete_of_completeWithin m limit _ ?_
  cases hwithin : completeWithin limit (Brotli.decode (code.drop mark.length)) with
  | error e => rw [hwithin] at h; cases h
  | ok wasm => rw [hwithin] at h; cases h; rfl

/-- The limit on modules bounds them and changes none. What code unpacks to is its module if the limit
admits as many bytes, and else is refused as too large; a module that was taken is what the code
unpacks to, and is taken under every limit that admits it. It is so because the limit is kept to by
reading one byte more from a stream that gives the same bytes however many are asked for, and tells
of its end or of its fault behind them. -/
theorem limit_admits (code : Octets) (limit : Nat) :
    (∀ m, unpack code = .ok m → module? limit code =
      if m.length ≤ limit then .ok (some m) else .error (.tooLarge limit)) ∧
    (∀ m, module? limit code = .ok (some m) → m.length ≤ limit ∧ unpack code = .ok m ∧
      ∀ limit', m.length ≤ limit' → module? limit' code = .ok (some m)) ∧
    (∀ r, mark <+: code → let o := Brotli.decode (code.drop mark.length)
      (limit < max64 ∨ o.delivered.length < max64 →
        Brotli.Drains o.fault (clamp64 (limit + 1)) o.delivered r →
        module? limit code = (checked limit r).map some) ∧
      (o.delivered.length < max64 → Brotli.Drains o.fault max64 o.delivered r →
        unpack code = checked max64 r)) := by
  refine ⟨fun m => module?_of_unpack, fun m h => ?_, fun r hmark => ?_⟩
  · have hunpack := unpack_of_module? h
    have hadmits : m.length ≤ limit := by
      by_contra hlong
      rw [module?_of_unpack hunpack, if_neg hlong] at h
      cases h
    exact ⟨hadmits, hunpack, fun limit' hfits => by rw [module?_of_unpack hunpack, if_pos hfits]⟩
  · intro o
    refine ⟨fun hfits hdrains => ?_, fun hfits hdrains => ?_⟩
    · rw [module?_of_mark hmark, Brotli.drains_iff.mp hdrains, checked_drained hfits]
    · rw [unpack_of_mark hmark, Brotli.drains_iff.mp hdrains, checked_drained_all hfits]

/-- A module of three bytes is taken under a limit of three and refused under one of two, as it is when
the third byte is read together with the second. -/
theorem limit_admits_three : let code := pack [1, 2, 3]
    unpack code = .ok [1, 2, 3] ∧ module? 3 code = .ok (some [1, 2, 3]) ∧
      module? 2 code = .error (.tooLarge 2) ∧
      Brotli.Drains none 3 [1, 2, 3] (.ok [1, 2, 3]) ∧
      module? 2 code = (checked 2 (.ok [1, 2, 3])).map some := by
  intro code
  have hdecode : Brotli.decode (code.drop mark.length) = ⟨[1, 2, 3], none⟩ := by decide +kernel
  have hunpack : unpack code = .ok [1, 2, 3] := by
    rw [unpack_of_mark (mark_pack _), hdecode]
    rfl
  have hrest : Brotli.Drains none 2 [2, 3] (.ok [2, 3]) :=
    @Brotli.Drains.piece none 2 [2, 3] [] (.ok []) (by decide) (by decide) .full
  have hdrains : Brotli.Drains none 3 [1, 2, 3] (.ok [1, 2, 3]) :=
    @Brotli.Drains.piece none 3 [1] [2, 3] (.ok [2, 3]) (by decide) (by decide) hrest
  obtain ⟨hthree, htaken, -⟩ := limit_admits code 3
  obtain ⟨htwo, -, hread⟩ := limit_admits code 2
  refine ⟨hunpack, hthree _ hunpack, htwo _ hunpack, hdrains, ?_⟩
  refine (hread _ (mark_pack _)).1 (.inl (by decide)) ?_
  rw [hdecode]
  exact hdrains

end Package
end Inkwell
