import Inkwell.Proofs.Summary
set_option autoImplicit false

/-! Words as byte strings: the fields of a packed word are its bytes cut into consecutive pieces, each
the number of its field, most significant byte first. What is read from a word and packed again is the
word, but for the bytes that no field takes and the values that a field does not tell apart. -/

namespace Inkwell

namespace Octets

theorem ofNat_zero (k : Nat) : ofNat k 0 = List.replicate k 0 := by
  induction k with
  | zero => rfl
  | succ k ih =>
    rw [ofNat, Nat.zero_div, ih, List.replicate_succ']
    rfl

theorem ofNat_mod (k n : Nat) : ofNat k (n % 256 ^ k) = ofNat k n := by
  have h := ofNat_toNat (ofNat k n)
  rwa [toNat_ofNat, length_ofNat] at h

theorem ofNat_add (j k n : Nat) : ofNat (j + k) n = ofNat j (n / 256 ^ k) ++ ofNat k n := by
  induction k generalizing n with
  | zero => simp [ofNat]
  | succ k ih =>
    rw [← Nat.add_assoc, ofNat, ofNat, ih, Nat.div_div_eq_div_mul, ← Nat.pow_succ',
      List.append_assoc]

theorem ofNat_mul_add (j k m n : Nat) (h : n < 256 ^ k) :
    ofNat (j + k) (m * 256 ^ k + n) = ofNat j m ++ ofNat k n := by
  have hpos : 0 < 256 ^ k := Nat.pow_pos (by decide)
  have hdiv : (m * 256 ^ k + n) / 256 ^ k = m := by
    rw [Nat.add_comm, Nat.add_mul_div_right _ _ hpos, Nat.div_eq_of_lt h, Nat.zero_add]
  have hmod : (m * 256 ^ k + n) % 256 ^ k = n % 256 ^ k := by
    rw [Nat.add_comm, Nat.add_mul_mod_self_right]
  rw [ofNat_add, hdiv, ← ofNat_mod k, hmod, ofNat_mod]

def pieces : List Nat → Octets → List Octets
  | [], _ => []
  | k :: ks, bs => bs.take k :: pieces ks (bs.drop k)

theorem flatten_pieces (ks : List Nat) (bs : Octets) : (pieces ks bs).flatten = bs.take ks.sum := by
  induction ks generalizing bs with
  | nil => rfl
  | cons k ks ih => rw [pieces, List.flatten_cons, ih, List.sum_cons, List.take_add]

theorem pieces_flatten (bss : List Octets) (rest : Octets) :
    pieces (bss.map List.length) (bss.flatten ++ rest) = bss := by
  induction bss with
  | nil => rfl
  | cons bs bss ih =>
    rw [List.map_cons, List.flatten_cons, List.append_assoc, pieces, List.take_left, List.drop_left,
      ih]

def number (bs : Octets) : Nat × Nat := (bs.length, toNat bs)

def ofField (f : Nat × Nat) : Octets := ofNat f.1 f.2

theorem ofField_number (bs : Octets) : ofField (number bs) = bs := ofNat_toNat bs

end Octets

namespace Word

open Octets

variable {fields : List (Nat × Nat)} {w w' : Word} {offset k : Nat} {ks : List Nat}

theorem octets_inj (h : w.octets = w'.octets) : w = w' := by
  rw [← ofOctets_octets w, h, ofOctets_octets]

theorem number_slice (w : Word) (h : offset + k ≤ 32) :
    number ((w.octets.drop offset).take k) = (k, w.field offset k) := by
  obtain ⟨rest, hrest⟩ := Nat.le.dest h
  have hsplit : w.octets = ofNat offset (w.toNat / 256 ^ (k + rest)) ++
      (ofNat k (w.toNat / 256 ^ rest) ++ ofNat rest w.toNat) := by
    rw [← ofNat_add, ← ofNat_add, ← Nat.add_assoc, hrest]
    rfl
  have hslice : (w.octets.drop offset).take k = ofNat k (w.toNat / 256 ^ rest) := by
    rw [hsplit, List.drop_left' (length_ofNat _ _), List.take_left' (length_ofNat _ _)]
  have hbehind : 32 - offset - k = rest := by omega
  rw [hslice, number, length_ofNat, toNat_ofNat, field, hbehind]

/-- Fields of these widths side by side, read from a place on. -/
def unpack (w : Word) : Nat → List Nat → List (Nat × Nat)
  | _, [] => []
  | offset, k :: ks => (k, w.field offset k) :: unpack w (offset + k) ks

theorem unpack_eq (w : Word) (h : offset + ks.sum ≤ 32) :
    w.unpack offset ks = (pieces ks (w.octets.drop offset)).map number := by
  induction ks generalizing offset with
  | nil => rfl
  | cons k ks ih =>
    rw [List.sum_cons] at h
    rw [unpack, pieces, List.map_cons, List.drop_drop, number_slice w (by omega),
      ih (by omega)]

theorem unpack_zero (w : Word) (h : ks.sum ≤ 32) :
    w.unpack 0 ks = (pieces ks w.octets).map number := w.unpack_eq ((Nat.zero_add _).trans_le h)

theorem ofNat_foldl_append (fields : List (Nat × Nat)) :
    ofNat (width fields) (fields.foldl append 0) = fields.flatMap ofField := by
  induction fields with
  | nil => rfl
  | cons f fields ih =>
    have hwidth : width (f :: fields) = f.1 + width fields := by simp [width]
    have happend : append 0 f = f.2 % 256 ^ f.1 := by simp [append]
    rw [List.foldl_cons, foldl_append, hwidth, ofNat_mul_add _ _ _ _ (foldl_append_lt fields), ih,
      happend, ofNat_mod, List.flatMap_cons, ofField]

/-- A packed word is the bytes of its fields one behind the other, and zeros. -/
theorem octets_pack (h : width fields ≤ 32) : (pack fields).octets =
    fields.flatMap ofField ++ List.replicate (32 - width fields) 0 := by
  have hpos : 0 < 256 ^ (32 - width fields) := Nat.pow_pos (by decide)
  have hsum : 32 = width fields + (32 - width fields) := by omega
  have hjoin := ofNat_mul_add (width fields) (32 - width fields) (fields.foldl append 0) 0 hpos
  rw [← hsum, Nat.add_zero, ofNat_foldl_append, ofNat_zero] at hjoin
  rw [octets, toNat_pack h, hjoin]

theorem pieces_pack (h : width fields ≤ 32) :
    pieces (fields.map (·.1)) (pack fields).octets = fields.map ofField := by
  have hlengths : fields.map (·.1) = (fields.map ofField).map List.length := by
    rw [List.map_map]
    exact List.map_congr_left fun f _ => (length_ofNat f.1 f.2).symm
  rw [octets_pack h, hlengths, List.flatMap_def, pieces_flatten]

theorem flatMap_unpack (w : Word) (h : ks.sum ≤ 32) :
    (w.unpack 0 ks).flatMap ofField = w.octets.take ks.sum := by
  rw [w.unpack_zero h, List.flatMap_map, ← flatten_pieces]
  simp only [ofField_number, List.flatMap_id']

theorem width_unpack (w : Word) (offset : Nat) (ks : List Nat) :
    width (w.unpack offset ks) = ks.sum := by
  induction ks generalizing offset with
  | nil => rfl
  | cons k ks ih =>
    rw [List.sum_cons, ← ih (offset + k)]
    exact List.sum_cons

/-- What is read from a word, packed again, is the word without what was not read. -/
theorem octets_pack_unpack (w : Word) (h : ks.sum ≤ 32) : (pack (w.unpack 0 ks)).octets =
    w.octets.take ks.sum ++ List.replicate (32 - ks.sum) 0 := by
  have hwidth := w.width_unpack 0 ks
  rw [octets_pack (hwidth.trans_le h), hwidth, flatMap_unpack w h]

theorem field_lt (w : Word) (offset k : Nat) : w.field offset k < 256 ^ k :=
  Nat.mod_lt _ (Nat.pow_pos (by decide))

theorem toNat_field₁ (w : Word) (offset : Nat) :
    (UInt8.ofNat (w.field offset 1)).toNat = w.field offset 1 :=
  UInt8.toNat_ofNat_of_lt' (w.field_lt offset 1)

theorem toNat_field₂ (w : Word) (offset : Nat) :
    (UInt16.ofNat (w.field offset 2)).toNat = w.field offset 2 :=
  UInt16.toNat_ofNat_of_lt' (w.field_lt offset 2)

theorem toNat_field₄ (w : Word) (offset : Nat) :
    (UInt32.ofNat (w.field offset 4)).toNat = w.field offset 4 :=
  UInt32.toNat_ofNat_of_lt' (w.field_lt offset 4)

theorem toNat_field₈ (w : Word) (offset : Nat) :
    (UInt64.ofNat (w.field offset 8)).toNat = w.field offset 8 :=
  UInt64.toNat_ofNat_of_lt' (w.field_lt offset 8)

theorem min_field₃ (w : Word) (offset : Nat) :
    min (UInt32.ofNat (w.field offset 3)).toNat 0xffffff = w.field offset 3 := by
  have hlt : w.field offset 3 < 2 ^ 24 := w.field_lt offset 3
  rw [UInt32.toNat_ofNat_of_lt' (hlt.trans (by decide))]
  exact Nat.min_eq_left (Nat.le_of_lt_succ hlt)

end Word

namespace Params

variable {w : Word}

theorem fields_ofWord (h : w ≠ 0) : (ofWord w).fields = w.unpack 0 widths := by
  unfold ofWord
  rw [if_neg h, fields]
  simp only [Word.toNat_field₁, Word.toNat_field₂, Word.toNat_field₄, Word.min_field₃, maxInkPrice,
    widths, Word.unpack]

theorem width_fields (p : Params) : Word.width p.fields = 29 := width_take_fields p 14

theorem octets_reencoded (h : w ≠ 0) : (ofWord w).toWord.octets = w.octets.take 29 ++ [0, 0, 0] := by
  rw [toWord_eq, fields_ofWord h]
  exact w.octets_pack_unpack (show widths.sum ≤ 32 by decide)

end Params

namespace Record

def dataFields (r : Record) : List (Nat × Nat) :=
  [(2, r.version.toNat), (2, r.initCost.toNat), (2, r.cachedCost.toNat), (2, r.footprint.toNat),
   (3, min r.asmKb.toNat 0xffffff), (1, r.pinned.toNat)]

def lifetimeFields (r : Record) : List (Nat × Nat) :=
  [(8, r.activatedAt.toNat), (8, r.activationBlock.toNat), (8, r.expiresAt.toNat),
   (8, r.keepaliveUntil.toNat)]

theorem dataWord_eq (r : Record) : r.dataWord = Word.pack r.dataFields := rfl

theorem lifetimeWord_eq (r : Record) : r.lifetimeWord = Word.pack r.lifetimeFields := rfl

def dataWidths : List Nat := [2, 2, 2, 2, 3, 1]

def lifetimeWidths : List Nat := [8, 8, 8, 8]

theorem width_dataFields (r : Record) : Word.width r.dataFields = 12 := by
  simp [Word.width, dataFields]

theorem width_lifetimeFields (r : Record) : Word.width r.lifetimeFields = 32 := by
  simp [Word.width, lifetimeFields]

section
variable (data lifetime fee : Word)

theorem lifetimeFields_ofWords :
    (ofWords data lifetime fee).lifetimeFields = lifetime.unpack 0 lifetimeWidths := by
  simp only [lifetimeFields, ofWords, Word.toNat_field₈, lifetimeWidths, Word.unpack]

/-- Of the last number it is only told whether it is zero. -/
theorem dataFields_ofWords : (ofWords data lifetime fee).dataFields =
    data.unpack 0 (dataWidths.take 5) ++ [(1, if data.octets.getD 11 0 = 0 then 0 else 1)] := by
  have hbyte : data.field 11 1 = (data.octets.getD 11 0).toNat := by
    have hlength : 11 < data.octets.length := data.length_octets ▸ by decide
    have hslice := data.number_slice (show 11 + 1 ≤ 32 by decide)
    rw [List.take_one_drop_eq_of_lt_length hlength] at hslice
    have hnum := (Prod.ext_iff.mp hslice).2
    simpa [Octets.number, Octets.toNat, hlength] using hnum.symm
  have hflag : (decide (data.field 11 1 ≠ 0)).toNat = if data.octets.getD 11 0 = 0 then 0 else 1 := by
    have hzero : data.field 11 1 = 0 ↔ data.octets.getD 11 0 = 0 := by
      rw [hbyte]
      exact UInt8.toNat_inj (b := 0)
    by_cases h : data.octets.getD 11 0 = 0
    · rw [if_pos h, decide_eq_false (not_not.mpr (hzero.mpr h))]
      rfl
    · rw [if_neg h, decide_eq_true (mt hzero.mp h)]
      rfl
  rw [← hflag]
  simp only [dataFields, ofWords, Word.toNat_field₂, Word.min_field₃, dataWidths, List.take_succ_cons,
    List.take_zero, Word.unpack, List.cons_append, List.nil_append]

theorem lifetimeWord_reencoded : (ofWords data lifetime fee).lifetimeWord = lifetime := by
  have hall : lifetime.octets.take lifetimeWidths.sum = lifetime.octets :=
    List.take_of_length_le lifetime.length_octets.le
  have hnone : List.replicate (32 - lifetimeWidths.sum) (0 : UInt8) = [] := rfl
  apply Word.octets_inj
  rw [lifetimeWord_eq, lifetimeFields_ofWords, Word.octets_pack_unpack _ (by decide), hall, hnone,
    List.append_nil]

theorem octets_dataWord_reencoded : (ofWords data lifetime fee).dataWord.octets =
    data.octets.take 11 ++ [if data.octets.getD 11 0 = 0 then 0 else 1] ++
      List.replicate 20 0 := by
  have hread : (data.unpack 0 (dataWidths.take 5)).flatMap Octets.ofField = data.octets.take 11 :=
    data.flatMap_unpack (by decide)
  have hflag : [((1 : Nat), if data.octets.getD 11 0 = 0 then 0 else 1)].flatMap Octets.ofField =
      [if data.octets.getD 11 0 = 0 then 0 else 1] := by
    split <;> rfl
  have hwidth := (ofWords data lifetime fee).width_dataFields
  rw [dataWord_eq, Word.octets_pack (hwidth.trans_le (by decide)), hwidth, dataFields_ofWords,
    List.flatMap_append, hread, hflag]

end
end Record

/-- What is read from the words of the state and packed again is the words: but the parameters take 29
bytes of theirs, the pin of a program is told by one byte that is zero or not, and nothing is kept
behind it. For each number is a piece of its word by itself, read where it was packed. -/
theorem words_reencoded :
    (∀ w : Word, w ≠ 0 → (Params.ofWord w).toWord.octets = w.octets.take 29 ++ [0, 0, 0]) ∧
    (∀ data lifetime fee : Word,
      (Record.ofWords data lifetime fee).lifetimeWord = lifetime ∧
      (Record.ofWords data lifetime fee).dataWord.octets = data.octets.take 11 ++
        [if data.octets.getD 11 0 = 0 then 0 else 1] ++ List.replicate 20 0) ∧
    (∀ p : Params, Octets.pieces Params.widths p.toWord.octets = p.fields.map Octets.ofField) ∧
    (∀ w : Word, w ≠ 0 →
      (Params.ofWord w).fields = (Octets.pieces Params.widths w.octets).map Octets.number) ∧
    (∀ r : Record,
      Octets.pieces Record.dataWidths r.dataWord.octets = r.dataFields.map Octets.ofField ∧
      Octets.pieces Record.lifetimeWidths r.lifetimeWord.octets =
        r.lifetimeFields.map Octets.ofField) ∧
    (∀ data lifetime fee : Word,
      (Record.ofWords data lifetime fee).dataFields =
        (Octets.pieces (Record.dataWidths.take 5) data.octets).map Octets.number ++
          [(1, if data.octets.getD 11 0 = 0 then 0 else 1)] ∧
      (Record.ofWords data lifetime fee).lifetimeFields =
        (Octets.pieces Record.lifetimeWidths lifetime.octets).map Octets.number) := by
  have hdata : ∀ r : Record, Word.width r.dataFields ≤ 32 :=
    fun r => r.width_dataFields.trans_le (by decide)
  have hlifetime : ∀ r : Record, Word.width r.lifetimeFields ≤ 32 :=
    fun r => r.width_lifetimeFields.le
  refine ⟨fun w hw => Params.octets_reencoded hw, fun data lifetime fee => ⟨?_, ?_⟩, fun p => ?_,
    fun w hw => ?_, fun r => ⟨Word.pieces_pack (hdata r), Word.pieces_pack (hlifetime r)⟩,
    fun data lifetime fee => ⟨?_, ?_⟩⟩
  · exact Record.lifetimeWord_reencoded data lifetime fee
  · exact Record.octets_dataWord_reencoded data lifetime fee
  · exact Word.pieces_pack (p.width_fields.trans_le (by decide))
  · rw [Params.fields_ofWord hw, w.unpack_zero (by decide)]
  · rw [Record.dataFields_ofWords, data.unpack_zero (by decide)]
  · rw [Record.lifetimeFields_ofWords, lifetime.unpack_zero (by decide)]

/-- The bytes from one to thirty-two, of which no two are the same. -/
def countingWord : Word := 0x0102030405060708090a0b0c0d0e0f101112131415161718191a1b1c1d1e1f20

/-- Each field of the counting word is read from its own bytes and packed there again; the last bytes of
the parameters are lost, and so are those behind the pin. -/
theorem words_reencoded_counting :
    countingWord ≠ 0 ∧
    (Params.ofWord countingWord).fields = [(2, 0x0102), (3, 0x030405), (4, 0x06070809), (2, 0x0a0b),
      (2, 0x0c0d), (2, 0x0e0f), (1, 0x10), (1, 0x11), (1, 0x12), (1, 0x13), (2, 0x1415), (2, 0x1617),
      (2, 0x1819), (4, 0x1a1b1c1d)] ∧
    (Params.ofWord countingWord).toWord.octets =
      [1, 2, 3, 4, 5, 6, 7, 8, 9, 10, 11, 12, 13, 14, 15, 16, 17, 18, 19, 20, 21, 22, 23, 24, 25, 26,
        27, 28, 29, 0, 0, 0] ∧
    (Record.ofWords countingWord countingWord 0).dataWord.octets =
      [1, 2, 3, 4, 5, 6, 7, 8, 9, 10, 11, 1] ++ List.replicate 20 0 ∧
    (Record.ofWords countingWord countingWord 0).lifetimeWord = countingWord := by
  have hne : countingWord ≠ 0 := by decide
  obtain ⟨hparams, hrecord, -, hfields, -⟩ := words_reencoded
  obtain ⟨hlifetime, hdata⟩ := hrecord countingWord countingWord 0
  exact ⟨hne, (hfields _ hne).trans (by decide), (hparams _ hne).trans (by decide),
    hdata.trans (by decide), hlifetime⟩

end Inkwell
