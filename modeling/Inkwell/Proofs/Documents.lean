import Inkwell.Document.Printer
import Inkwell.Document.Reader
set_option autoImplicit false

/-! What is printed of a document is read back as the document. -/

namespace Inkwell.Document

/-! ### Numbers -/

section Numbers

variable {rest : List Char} {n : Nat} {c : Char}

def endsNumber : List Char → Bool
  | [] => true
  | c :: _ => !isDigit c && c ≠ '.' && c ≠ 'e' && c ≠ 'E'

theorem isDigit_of_mem_printNat (h : c ∈ printNat n) : isDigit c = true := by
  have hdigit := Nat.isDigit_of_mem_toDigits (by decide) (by decide) h
  simpa [isDigit, Char.isDigit, UInt32.le_iff_toNat_le] using hdigit

theorem digitsValue_printNat (n : Nat) : digitsValue (printNat n) = n := by
  have hfold : digitsValue (printNat n) = Nat.ofDigitChars 10 (printNat n) 0 := by
    unfold digitsValue Nat.ofDigitChars
    congr 1
    funext n c
    rw [Nat.mul_comm]
    rfl
  exact hfold.trans (Nat.ofDigitChars_toDigits (by decide) (by decide))

theorem head?_printNat (h : 0 < n) : (printNat n).head? ≠ some '0' := by
  unfold printNat
  induction n using Nat.strongRecOn with
  | ind n ih =>
    rw [Nat.toDigits_eq_if (by decide)]
    by_cases hsmall : n < 10
    · rw [if_pos hsmall, List.head?_singleton]
      intro hzero
      have hdigit := congrArg Char.toNat (Option.some.inj hzero)
      rw [Nat.toNat_digitChar_of_lt_ten hsmall] at hdigit
      change 48 + n = 48 at hdigit
      omega
    · -- More digits begin as the digits of the quotient do, which is not zero.
      have hfirst := ih (n / 10) (by omega) (by omega)
      obtain ⟨c, cs, hcs⟩ := List.exists_cons_of_ne_nil (Nat.toDigits_ne_nil (n := n / 10) (b := 10))
      rw [hcs] at hfirst
      rw [if_neg hsmall, hcs]
      exact hfirst

theorem exists_printNat (n : Nat) : ∃ c cs, printNat n = c :: cs ∧ isDigit c = true := by
  have hne : printNat n ≠ [] := Nat.toDigits_ne_nil
  obtain ⟨c, cs, hcs⟩ := List.exists_cons_of_ne_nil hne
  exact ⟨c, cs, hcs, isDigit_of_mem_printNat (hcs ▸ List.mem_cons_self)⟩

theorem readDigits_printNat (n : Nat) (h : rest.head?.all (!isDigit ·) = true) :
    readDigits (printNat n ++ rest) = some (printNat n, rest) := by
  have hdigits : ∀ c ∈ printNat n, isDigit c = true := fun _ => isDigit_of_mem_printNat
  have hrest : rest.takeWhile isDigit = [] ∧ rest.dropWhile isDigit = rest := by
    cases rest <;> simp_all
  obtain ⟨c, cs, hcs, -⟩ := exists_printNat n
  unfold readDigits
  rw [List.takeWhile_append_of_pos hdigits, List.dropWhile_append_of_pos hdigits, hrest.1, hrest.2,
    List.append_nil, hcs]

theorem readWhole_printNat (n : Nat) (h : rest.head?.all (!isDigit ·) = true) :
    readWhole (printNat n ++ rest) = some (printNat n, rest) := by
  unfold readWhole
  rw [readDigits_printNat n h, Option.bind_eq_bind, Option.bind_some]
  split
  · next cs rest' hzero =>
    have hfirst : printNat n = '0' :: _ := (Prod.mk.inj hzero).1
    cases n with
    | zero => cases hfirst
    | succ n => exact absurd (by rw [hfirst]; rfl) (head?_printNat (Nat.succ_pos n))
  · rfl

theorem readFraction_of_ends (h : endsNumber rest = true) : readFraction rest = some ([], rest) := by
  unfold readFraction
  split
  · simp [endsNumber] at h
  · rfl

theorem readExponent_of_ends (h : endsNumber rest = true) : readExponent rest = some (none, rest) := by
  unfold readExponent
  split
  · simp [endsNumber] at h
  · simp [endsNumber] at h
  · rfl

theorem head?_of_ends (h : endsNumber rest = true) : rest.head?.all (!isDigit ·) = true := by
  cases rest <;> simp_all [endsNumber]

theorem readScale_printInt (k : Int) (h : endsNumber rest = true) :
    readScale (printInt k ++ rest) = some (k, rest) := by
  have hrest := head?_of_ends h
  cases k with
  | ofNat n =>
    obtain ⟨c, cs, hcs, hc⟩ := exists_printNat n
    have hread := readDigits_printNat n hrest
    change readScale (printNat n ++ rest) = _
    unfold readScale
    split
    · next heq => simp [hcs] at heq; simp [heq.1, isDigit] at hc
    · next heq => simp [hcs] at heq; simp [heq.1, isDigit] at hc
    · rw [hread]
      exact congrArg (fun v : Nat => some ((v : Int), rest)) (digitsValue_printNat n)
  | negSucc n =>
    have hread := readDigits_printNat (n + 1) hrest
    change (readDigits (printNat (n + 1) ++ rest)).bind _ = _
    rw [hread]
    exact congrArg (fun v : Nat => some (-(v : Int), rest)) (digitsValue_printNat (n + 1))

theorem readMagnitude_whole (negative : Bool) (n : Nat) (h : endsNumber rest = true) :
    readMagnitude negative (printNat n ++ rest) = some (.whole negative n, rest) := by
  unfold readMagnitude
  rw [readWhole_printNat n (head?_of_ends h)]
  simp [readFraction_of_ends h, readExponent_of_ends h, digitsValue_printNat]

theorem readMagnitude_scaled (negative : Bool) (n : Nat) (k : Int) (h : endsNumber rest = true) :
    readMagnitude negative (printNat n ++ 'e' :: printInt k ++ rest) =
      some (.scaled negative n k, rest) := by
  have hfraction : readFraction ('e' :: (printInt k ++ rest)) = some ([], 'e' :: (printInt k ++ rest)) :=
    rfl
  have hexponent : readExponent ('e' :: (printInt k ++ rest)) = some (some k, rest) := by
    change (readScale (printInt k ++ rest)).bind _ = _
    rw [readScale_printInt k h]
    rfl
  unfold readMagnitude
  rw [List.append_assoc, List.cons_append, readWhole_printNat n rfl]
  simp [hfraction, hexponent, digitsValue_printNat]

theorem readNumber_positive {cs : List Char} (h : cs.head? ≠ some '-') :
    readNumber cs = readMagnitude false cs := by
  unfold readNumber
  split
  · simp at h
  · rfl

theorem readNumber_printNumber (n : Number) (h : endsNumber rest = true) :
    readNumber (printNumber n ++ rest) = some (n, rest) := by
  have hpositive : ∀ n cs, (printNat n ++ cs).head? ≠ some '-' := by
    intro n cs
    obtain ⟨c, cs', hcs, hc⟩ := exists_printNat n
    rw [hcs]
    rintro ⟨⟩
    simp [isDigit] at hc
  cases n with
  | whole negative digits =>
    cases negative with
    | true => exact readMagnitude_whole true digits h
    | false => exact (readNumber_positive (hpositive _ _)).trans (readMagnitude_whole false digits h)
  | scaled negative digits scale =>
    cases negative with
    | true => exact readMagnitude_scaled true digits scale h
    | false =>
      refine (readNumber_positive ?_).trans (readMagnitude_scaled false digits scale h)
      change (printNat digits ++ 'e' :: printInt scale ++ rest).head? ≠ some '-'
      rw [List.append_assoc]
      exact hpositive _ _

end Numbers

/-! ### Strings -/

section Strings

variable {n : Nat} {c : Char}

theorem hexValue?_hexDigit (h : n < 16) : Octets.hexValue? (Octets.hexDigit n) = some n := by
  revert n
  decide

theorem unitValue?_unitDigits (h : n < 65536) : ∃ a b c d, unitDigits n = [a, b, c, d] ∧
    unitValue? a b c d = some n := by
  refine ⟨_, _, _, _, rfl, ?_⟩
  have hdigit : ∀ k, Octets.hexValue? (Octets.hexDigit (k % 16)) = some (k % 16) :=
    fun k => hexValue?_hexDigit (Nat.mod_lt k (by decide))
  unfold unitValue?
  simp only [List.mapM_cons, List.mapM_nil, hdigit, Option.pure_def, Option.bind_eq_bind,
    Option.bind_some, List.foldl_cons, List.foldl_nil, Option.some.injEq]
  omega

def pieceOf (c : Char) : Piece :=
  if c.toNat < 32 ∧ c ∉ ['\x08', '\x09', '\x0a', '\x0c', '\x0d'] then .unit c.toNat else .char c

theorem readPieces_unit {a b c d : Char} {cs : List Char} (h : unitValue? a b c d = some n) :
    readPieces ('\\' :: 'u' :: a :: b :: c :: d :: cs) =
      (readPieces cs).map fun r => (.unit n :: r.1, r.2) := by
  rw [readPieces, h]
  cases readPieces cs <;> rfl

theorem readPieces_escaped {e : Char} {cs : List Char} (hu : e ≠ 'u') (h : escaped? e = some c) :
    readPieces ('\\' :: e :: cs) = (readPieces cs).map fun r => (.char c :: r.1, r.2) := by
  rw [readPieces, h]
  · cases readPieces cs <;> rfl
  · exact fun _ _ _ _ _ he => absurd he hu

theorem readPieces_plain {cs : List Char} (hquote : c ≠ '"') (hescape : c ≠ '\\') (h : 32 ≤ c.toNat) :
    readPieces (c :: cs) = (readPieces cs).map fun r => (.char c :: r.1, r.2) := by
  rw [readPieces, if_neg (by simp [hescape]; omega)]
  · cases readPieces cs <;> rfl
  · exact hquote
  · exact fun _ _ _ _ _ hc => absurd hc hescape
  · exact fun _ _ hc => absurd hc hescape

theorem readPieces_printChar (c : Char) (cs : List Char) : readPieces (printChar c ++ cs) =
    (readPieces cs).map fun r => (pieceOf c :: r.1, r.2) := by
  by_cases hquote : c = '"'
  · subst hquote
    exact readPieces_escaped (by decide) rfl
  by_cases hescape : c = '\\'
  · subst hescape
    exact readPieces_escaped (by decide) rfl
  -- The control characters with a letter of their own, then those by number, then all others.
  by_cases hnamed : c ∈ ['\x08', '\x09', '\x0a', '\x0c', '\x0d']
  · simp only [List.mem_cons, List.not_mem_nil, or_false] at hnamed
    rcases hnamed with rfl | rfl | rfl | rfl | rfl <;> exact readPieces_escaped (by decide) rfl
  have hprint : printChar c = if c.toNat < 32 then '\\' :: 'u' :: unitDigits c.toNat else [c] := by
    simp only [List.mem_cons, List.not_mem_nil, or_false, not_or] at hnamed
    simp [printChar, hquote, hescape, hnamed]
  rw [hprint]
  by_cases hcontrol : c.toNat < 32
  · obtain ⟨x, y, z, w, hdigits, hvalue⟩ := unitValue?_unitDigits (n := c.toNat) (by omega)
    rw [if_pos hcontrol, hdigits, pieceOf, if_pos ⟨hcontrol, hnamed⟩]
    exact readPieces_unit hvalue
  · rw [if_neg hcontrol, pieceOf, if_neg fun h => hcontrol h.1]
    exact readPieces_plain hquote hescape (Nat.not_lt.mp hcontrol)

theorem readPieces_printString (s cs : List Char) : readPieces (s.flatMap printChar ++ '"' :: cs) =
    some (s.map pieceOf, cs) := by
  induction s with
  | nil => rfl
  | cons c s ih =>
    rw [List.flatMap_cons, List.append_assoc, readPieces_printChar, ih]
    rfl

theorem joinPieces_unit (h : n < 32) (ps : List Piece) :
    joinPieces (.unit n :: ps) = (joinPieces ps).map (Char.ofNat n :: ·) := by
  have hleading : isLeading n = false := by simp [isLeading]; omega
  have htrailing : isTrailing n = false := by simp [isTrailing]; omega
  cases ps with
  | nil => simp [joinPieces, hleading, htrailing]
  | cons p ps => cases p <;> simp [joinPieces, hleading, htrailing]

theorem joinPieces_pieceOf (s : List Char) : joinPieces (s.map pieceOf) = some s := by
  induction s with
  | nil => rfl
  | cons c s ih =>
    rw [List.map_cons, pieceOf]
    split
    · next h =>
      rw [joinPieces_unit h.1, ih, Char.ofNat_toNat]
      rfl
    · rw [joinPieces, ih]
      rfl

theorem readText_printText (t : Text) (cs : List Char) :
    ∃ body, printText t ++ cs = '"' :: body ∧ readText body = some (t, cs) := by
  cases t with
  | none => exact ⟨_, rfl, rfl⟩
  | some s =>
    refine ⟨s.toList.flatMap printChar ++ '"' :: cs, by simp [printText, printString], ?_⟩
    unfold readText
    rw [readPieces_printString]
    simp [joinPieces_pieceOf]

end Strings

/-! ### Values -/

@[elab_as_elim]
theorem byParts {motive : Document → Prop} (null : motive .null) (bool : ∀ b, motive (.bool b))
    (number : ∀ n, motive (.number n)) (text : ∀ t, motive (.text t))
    (array : ∀ xs : List Document, (∀ x ∈ xs, motive x) → motive (.array xs))
    (object : ∀ ms : List (Text × Document), (∀ m ∈ ms, motive m.2) → motive (.object ms))
    (j : Document) : motive j :=
  @Document.rec motive (fun xs => ∀ x ∈ xs, motive x) (fun ms => ∀ m ∈ ms, motive m.2)
    (fun m => motive m.2) null bool number text array object (by simp)
    (fun _ _ hx hxs => List.forall_mem_cons.mpr ⟨hx, hxs⟩) (by simp)
    (fun _ _ hm hms => List.forall_mem_cons.mpr ⟨hm, hms⟩) (fun _ _ hv => hv) j

section Values

variable {fuel : Nat} {rest cs : List Char} {c : Char}

theorem skipBlank_cons (h : isBlank c = false) : skipBlank (c :: cs) = c :: cs := by
  simp [skipBlank, h]

theorem isBlank_of_isDigit (h : isDigit c = true) : isBlank c = false := by
  have hne : ∀ d, isDigit d = false → c ≠ d := by
    rintro d hd rfl
    rw [h] at hd
    cases hd
  simp [isBlank, hne ' ' rfl, hne '\n' rfl, hne '\r' rfl, hne '\t' rfl]

theorem exists_printNumber (n : Number) :
    ∃ c cs, printNumber n = c :: cs ∧ (c = '-' ∨ isDigit c = true) := by
  have hdigits : ∀ digits cs, ∃ c cs', printNat digits ++ cs = c :: cs' ∧ (c = '-' ∨ isDigit c = true) := by
    intro digits cs
    obtain ⟨c, cs', hcs, hc⟩ := exists_printNat digits
    exact ⟨c, cs' ++ cs, by rw [hcs, List.cons_append], .inr hc⟩
  cases n with
  | whole negative digits =>
    cases negative with
    | true => exact ⟨_, _, rfl, .inl rfl⟩
    | false => simpa [printNumber, printSign] using hdigits digits []
  | scaled negative digits scale =>
    cases negative with
    | true => exact ⟨_, _, rfl, .inl rfl⟩
    | false => exact hdigits digits _

theorem exists_print (j : Document) :
    ∃ c cs, j.print = c :: cs ∧ isBlank c = false ∧ c ≠ ']' := by
  cases j with
  | null => exact ⟨_, _, rfl, rfl, by decide⟩
  | bool b => cases b <;> exact ⟨_, _, rfl, rfl, by decide⟩
  | number n =>
    obtain ⟨c, cs, hcs, hc⟩ := exists_printNumber n
    refine ⟨c, cs, by rw [print, hcs], ?_, ?_⟩
    · rcases hc with rfl | hdigit
      · rfl
      · exact isBlank_of_isDigit hdigit
    · rintro rfl
      rcases hc with hc | hc <;> cases hc
  | text t => cases t <;> exact ⟨_, _, rfl, rfl, by decide⟩
  | array xs => cases xs <;> exact ⟨_, _, rfl, rfl, by decide⟩
  | object ms => cases ms <;> exact ⟨_, _, rfl, rfl, by decide⟩

theorem exists_fuel {j : Document} (h : 2 * j.print.length ≤ fuel) : ∃ k, fuel = k + 1 := by
  obtain ⟨c, cs, hprint, -⟩ := exists_print j
  rw [hprint, List.length_cons] at h
  exact Nat.exists_eq_succ_of_ne_zero (by omega)

theorem readValue_number (h : c = '-' ∨ isDigit c = true) : readValue (fuel + 1) (c :: cs) =
    (readNumber (c :: cs)).map fun r => (.number r.1, r.2) := by
  have hblank : isBlank c = false := by
    rcases h with rfl | hdigit
    · rfl
    · exact isBlank_of_isDigit hdigit
  rw [readValue, skipBlank_cons hblank]
  split
  case h_7 => cases readNumber (c :: cs) <;> rfl
  all_goals
    next heq =>
    obtain ⟨rfl, -⟩ := List.cons.inj heq
    rcases h with h | h <;> cases h

theorem readValue_text : readValue (fuel + 1) ('"' :: cs) =
    (readText cs).map fun r => (.text r.1, r.2) := by
  rw [readValue, skipBlank_cons rfl]
  change (readText cs).bind _ = _
  cases readText cs <;> rfl

theorem readValue_array (hblank : isBlank c = false) (hend : c ≠ ']') :
    readValue (fuel + 1) ('[' :: c :: cs) =
      (readItems fuel (c :: cs)).map fun r => (.array r.1, r.2) := by
  rw [readValue, skipBlank_cons rfl]
  split
  case h_5 heq =>
    obtain ⟨-, rfl⟩ := List.cons.inj heq
    rw [skipBlank_cons hblank]
    split
    · next heq => exact absurd (List.cons.inj heq).1 hend
    · cases readItems fuel (c :: cs) <;> rfl
  case h_7 hopen _ => exact (hopen _ rfl).elim
  all_goals next heq => cases heq

theorem readValue_object (hblank : isBlank c = false) (hend : c ≠ '}') :
    readValue (fuel + 1) ('{' :: c :: cs) =
      (readMembers fuel (c :: cs)).map fun r => (.object r.1, r.2) := by
  rw [readValue, skipBlank_cons rfl]
  split
  case h_6 heq =>
    obtain ⟨-, rfl⟩ := List.cons.inj heq
    rw [skipBlank_cons hblank]
    split
    · next heq => exact absurd (List.cons.inj heq).1 hend
    · cases readMembers fuel (c :: cs) <;> rfl
  case h_7 hopen => exact (hopen _ rfl).elim
  all_goals next heq => cases heq

/-- Within its length a document is read back, whatever comes behind. -/
def ReadsBack (j : Document) : Prop := ∀ fuel rest, 2 * j.print.length ≤ fuel →
  endsNumber rest = true → readValue fuel (j.print ++ rest) = some (j, rest)

theorem endsNumber_printItems (xs : List Document) : endsNumber (printItems xs ++ rest) = true := by
  cases xs <;> rfl

theorem endsNumber_printMembers (ms : List (Text × Document)) :
    endsNumber (printMembers ms ++ rest) = true := by
  cases ms with
  | nil => rfl
  | cons m ms => rfl

theorem readItems_item {x : Document} {cs : List Char}
    (hx : readValue fuel (x.print ++ cs) = some (x, cs)) :
    readItems (fuel + 1) (x.print ++ cs) = match skipBlank cs with
      | ',' :: cs => do let (xs, cs) ← readItems fuel cs; pure (x :: xs, cs)
      | ']' :: cs => some ([x], cs)
      | _ => none := by
  rw [readItems, hx]
  rfl

theorem readItems_print {x : Document} {xs : List Document} (h : ∀ y ∈ x :: xs, y.ReadsBack)
    (hfuel : 2 * (x.print ++ printItems xs).length + 1 ≤ fuel) :
    readItems fuel (x.print ++ (printItems xs ++ rest)) = some (x :: xs, rest) := by
  induction xs generalizing x fuel with
  | nil =>
    obtain ⟨fuel, rfl⟩ := Nat.exists_eq_succ_of_ne_zero (n := fuel) (by omega)
    rw [List.length_append] at hfuel
    have hx := h x List.mem_cons_self fuel (printItems [] ++ rest) (by omega) (endsNumber_printItems [])
    rw [readItems_item hx]
    rfl
  | cons y ys ih =>
    obtain ⟨fuel, rfl⟩ := Nat.exists_eq_succ_of_ne_zero (n := fuel) (by omega)
    have hprint : ∀ cs, printItems (y :: ys) ++ cs = ',' :: (y.print ++ (printItems ys ++ cs)) := by
      simp [printItems]
    have hlength := congrArg List.length (hprint [])
    simp only [List.length_append, List.length_cons, List.length_nil] at hfuel hlength
    have hx := h x List.mem_cons_self fuel (printItems (y :: ys) ++ rest) (by omega)
      (endsNumber_printItems (y :: ys))
    have hys : readItems fuel (y.print ++ (printItems ys ++ rest)) = some (y :: ys, rest) :=
      ih (fun z hz => h z (List.mem_cons_of_mem _ hz)) (by rw [List.length_append]; omega)
    rw [readItems_item hx, hprint]
    change (readItems fuel (y.print ++ (printItems ys ++ rest))).bind _ = _
    rw [hys]
    rfl

theorem readMembers_member {k : Text} {v : Document} {cs : List Char}
    (hv : readValue fuel (v.print ++ cs) = some (v, cs)) :
    readMembers (fuel + 1) (printText k ++ ':' :: (v.print ++ cs)) = match skipBlank cs with
      | ',' :: cs => do let (ms, cs) ← readMembers fuel cs; pure ((k, v) :: ms, cs)
      | '}' :: cs => some ([(k, v)], cs)
      | _ => none := by
  obtain ⟨body, hbody, hread⟩ := readText_printText k (':' :: (v.print ++ cs))
  rw [hbody, readMembers, skipBlank_cons rfl]
  change (readText body).bind _ = _
  rw [hread, Option.bind_some]
  change (readValue fuel (v.print ++ cs)).bind _ = _
  rw [hv]
  rfl

theorem readMembers_print {k : Text} {v : Document} {ms : List (Text × Document)}
    (h : ∀ m ∈ (k, v) :: ms, m.2.ReadsBack)
    (hfuel : 2 * (printText k ++ ':' :: v.print ++ printMembers ms).length + 1 ≤ fuel) :
    readMembers fuel (printText k ++ ':' :: (v.print ++ (printMembers ms ++ rest))) =
      some ((k, v) :: ms, rest) := by
  induction ms generalizing k v fuel with
  | nil =>
    obtain ⟨fuel, rfl⟩ := Nat.exists_eq_succ_of_ne_zero (n := fuel) (by omega)
    simp only [List.length_append, List.length_cons] at hfuel
    have hv := h (k, v) List.mem_cons_self fuel (printMembers [] ++ rest) (by dsimp only; omega)
      (endsNumber_printMembers [])
    rw [readMembers_member hv]
    rfl
  | cons m ms ih =>
    obtain ⟨fuel, rfl⟩ := Nat.exists_eq_succ_of_ne_zero (n := fuel) (by omega)
    obtain ⟨k', v'⟩ := m
    have hprint : ∀ cs, printMembers ((k', v') :: ms) ++ cs =
        ',' :: (printText k' ++ ':' :: (v'.print ++ (printMembers ms ++ cs))) := by
      simp [printMembers]
    have hlength := congrArg List.length (hprint [])
    simp only [List.length_append, List.length_cons, List.length_nil] at hfuel hlength
    have hv := h (k, v) List.mem_cons_self fuel (printMembers ((k', v') :: ms) ++ rest)
      (by dsimp only; omega) (endsNumber_printMembers ((k', v') :: ms))
    have hms : readMembers fuel (printText k' ++ ':' :: (v'.print ++ (printMembers ms ++ rest))) =
        some ((k', v') :: ms, rest) :=
      ih (fun m hm => h m (List.mem_cons_of_mem _ hm))
        (by simp only [List.length_append, List.length_cons]; omega)
    rw [readMembers_member hv, hprint]
    change (readMembers fuel (printText k' ++ ':' :: (v'.print ++ (printMembers ms ++ rest)))).bind _ = _
    rw [hms]
    rfl

theorem readsBack (j : Document) : j.ReadsBack := by
  induction j using byParts with
  | null =>
    intro fuel rest hfuel _
    obtain ⟨fuel, rfl⟩ := exists_fuel hfuel
    rfl
  | bool b =>
    intro fuel rest hfuel _
    obtain ⟨fuel, rfl⟩ := exists_fuel hfuel
    cases b <;> rfl
  | number n =>
    intro fuel rest hfuel hrest
    obtain ⟨fuel, rfl⟩ := exists_fuel hfuel
    obtain ⟨c, cs, hprint, hc⟩ := exists_printNumber n
    have hread := readNumber_printNumber n hrest
    rw [hprint] at hread
    rw [print, hprint, List.cons_append, readValue_number hc, ← List.cons_append, hread]
    rfl
  | text t =>
    intro fuel rest hfuel _
    obtain ⟨fuel, rfl⟩ := exists_fuel hfuel
    obtain ⟨body, hbody, hread⟩ := readText_printText t rest
    rw [print, hbody, readValue_text, hread]
    rfl
  | array xs ih =>
    intro fuel rest hfuel _
    obtain ⟨fuel, rfl⟩ := exists_fuel hfuel
    cases xs with
    | nil => rfl
    | cons x xs =>
      obtain ⟨c, cs, hprint, hblank, hend⟩ := exists_print x
      have hread : readItems fuel (x.print ++ (printItems xs ++ rest)) = some (x :: xs, rest) :=
        readItems_print ih (by
          simp only [print, List.length_cons, List.length_append] at hfuel ⊢
          omega)
      rw [hprint, List.cons_append] at hread
      rw [print, List.cons_append, List.cons_append, List.append_assoc, hprint, List.cons_append,
        readValue_array hblank hend, hread]
      rfl
  | object ms ih =>
    intro fuel rest hfuel _
    obtain ⟨fuel, rfl⟩ := exists_fuel hfuel
    rcases ms with _ | ⟨⟨k, v⟩, ms⟩
    · rfl
    · obtain ⟨body, hbody, -⟩ := readText_printText k (':' :: (v.print ++ (printMembers ms ++ rest)))
      have hread : readMembers fuel (printText k ++ ':' :: (v.print ++ (printMembers ms ++ rest))) =
          some ((k, v) :: ms, rest) :=
        readMembers_print ih (by
          simp only [print, List.length_cons, List.length_append] at hfuel ⊢
          omega)
      have hprint : (object ((k, v) :: ms)).print ++ rest =
          '{' :: (printText k ++ ':' :: (v.print ++ (printMembers ms ++ rest))) := by
        simp [print]
      rw [hbody] at hread
      rw [hprint, hbody, readValue_object rfl (by decide), hread]
      rfl

end Values

/-- A rendered document is parsed to itself: strings of any characters, numbers of any size, whatever
the depth. -/
theorem parse?_render (j : Document) : parse? j.render = some j := by
  have hread := j.readsBack (2 * j.print.length + 1) [] (by omega) rfl
  rw [List.append_nil] at hread
  unfold parse? render read?
  rw [String.toList_ofList, hread]
  rfl

end Inkwell.Document
