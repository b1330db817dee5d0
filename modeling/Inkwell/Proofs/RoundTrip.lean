import Inkwell.Overrides.Document
import Inkwell.StateParams
import Inkwell.Proofs.Documents
import Mathlib.Data.List.Forall2
import Mathlib.Data.List.Induction
set_option autoImplicit false

/-! Settings and states are written so that they are read back. Which documents stand for given settings
is told apart from how one of them is written: members may come in any order, what is unset may be
left out, and the overrides of a suite stand beside its cases. -/

namespace Inkwell

/-! ### Addresses -/

namespace Octets

theorem ofHexOnto?_toHex (acc bs : Octets) : ofHexOnto? acc (toHex bs).toList = some (bs.reverse ++ acc) := by
  rw [toHex, String.toList_ofList]
  induction bs generalizing acc with
  | nil => rfl
  | cons b bs ih =>
    have hb : b.toNat < 256 := b.toNat_lt
    have hvalue : UInt8.ofNat (16 * (b.toNat / 16) + b.toNat % 16) = b := by
      rw [Nat.div_add_mod, UInt8.ofNat_toNat]
    rw [List.flatMap_cons, List.cons_append, List.cons_append, List.nil_append, ofHexOnto?,
      Document.hexValue?_hexDigit (by omega), Document.hexValue?_hexDigit (by omega)]
    change ofHexOnto? (UInt8.ofNat _ :: acc) _ = _
    rw [ih, hvalue, List.reverse_cons, List.append_assoc]
    rfl

theorem ofHex?_toHex (bs : Octets) : ofHex? (toHex bs).toList = some bs := by
  rw [ofHex?, ofHexOnto?_toHex, List.append_nil, Option.map_some, List.reverse_reverse]

end Octets

theorem Address.ofOctets_octets (a : Address) : ofOctets a.octets = a := by
  apply BitVec.eq_of_toNat_eq
  have h : a.toNat < 2 ^ 160 := a.isLt
  rw [ofOctets, octets, Octets.toNat_ofNat, BitVec.toNat_ofNat]
  omega

/-! ### Tables -/

namespace Table

variable {κ α : Type}

theorem eq_of_entries {t u : Table κ α} (h : t.entries = u.entries) : t = u := by
  obtain ⟨_, _⟩ := t
  obtain ⟨_, _⟩ := u
  cases h
  rfl

variable [DecidableEq κ]

theorem upsert_of_notMem {k : κ} {l : List (κ × α)} (v : α) (h : k ∉ l.map Prod.fst) :
    upsert k v l = l ++ [(k, v)] := by
  induction l with
  | nil => rfl
  | cons p l ih =>
    simp only [List.map_cons, List.mem_cons, not_or] at h
    rw [upsert, if_neg (Ne.symm h.1), ih h.2, List.cons_append]

theorem entries_ofList {l : List (κ × α)} (h : (l.map Prod.fst).Nodup) : (ofList l).entries = l := by
  induction l using List.reverseRecOn with
  | nil => rfl
  | append_singleton l p ih =>
    rw [List.map_append, List.nodup_append] at h
    obtain ⟨hl, -, hnew⟩ := h
    have hp : p.1 ∉ l.map Prod.fst := fun hp => hnew _ hp _ (by simp) rfl
    rw [ofList, List.foldl_append]
    change upsert p.1 p.2 (ofList l).entries = _
    rw [ih hl, upsert_of_notMem p.2 hp]

theorem ofList_entries (t : Table κ α) : ofList t.entries = t :=
  eq_of_entries (entries_ofList t.distinct)

end Table

namespace Document

theorem mapM_of_forall₂ {α β : Type} {f : β → Option α} {l : List α} {l' : List β}
    (h : List.Forall₂ (fun a b => f b = some a) l l') : l'.mapM f = some l := by
  induction h with
  | nil => rfl
  | cons hb _ ih =>
    rw [List.mapM_cons, hb, ih]
    rfl

theorem mapM_map_of_inverse {α β : Type} {f : β → Option α} {g : α → β} (h : ∀ a, f (g a) = some a)
    (l : List α) : (l.map g).mapM f = some l :=
  mapM_of_forall₂ (List.forall₂_map_right_iff.mpr (List.forall₂_same.mpr fun a _ => h a))

/-! ### Values -/

section Values

variable {α : Type} {read? : Document → Option α} {write : α → Document}

/-- To be read back from a text, it is enough to be read back from the document. -/
theorem parse?_bind {j : Document} {a : α} (h : read? j = some a) :
    (parse? j.render).bind read? = some a := by
  rw [parse?_render, Option.bind_some, h]

@[simp] theorem toUInt8?_ofNat (n : UInt8) : toUInt8? (ofNat n.toNat) = some n := by
  simp [toUInt8?, ofNat, natBelow?, n.toNat_lt]

@[simp] theorem toUInt16?_ofNat (n : UInt16) : toUInt16? (ofNat n.toNat) = some n := by
  simp [toUInt16?, ofNat, natBelow?, n.toNat_lt]

@[simp] theorem toUInt32?_ofNat (n : UInt32) : toUInt32? (ofNat n.toNat) = some n := by
  simp [toUInt32?, ofNat, natBelow?, n.toNat_lt]

@[simp] theorem toUInt64?_ofNat (n : UInt64) : toUInt64? (ofNat n.toNat) = some n := by
  simp [toUInt64?, ofNat, natBelow?, n.toNat_lt]

theorem toBool?_bool (b : Bool) : toBool? (.bool b) = some b := rfl

@[simp] theorem toAddress?_ofAddress (a : Address) : toAddress? (ofAddress a) = some a := by
  have hmark : afterMark a.hex.toList = (Octets.toHex a.octets).toList := by
    rw [Address.hex, String.toList_append]
    rfl
  have hlength : a.octets.length = 20 := Octets.length_ofNat 20 a.toNat
  unfold ofAddress ofString toAddress?
  dsimp only
  rw [hmark, Octets.ofHex?_toHex]
  dsimp only
  rw [if_pos hlength, Address.ofOctets_octets]

theorem optional?_ofOption (h : ∀ a, read? (write a) = some a) (hnull : read? .null = none) (o : Option α) :
    optional? read? (ofOption write o) = some o := by
  cases o with
  | none => rfl
  | some a =>
    change optional? read? (write a) = _
    unfold optional?
    split
    · -- No value is written as null, since null is not read as one.
      next hwrite =>
      have hread := h a
      rw [hwrite, hnull] at hread
      cases hread
    · rw [h]
      rfl

theorem optional?_ofNat {f : α → Nat} (h : ∀ a, read? (ofNat (f a)) = some a) (hnull : read? .null = none)
    (o : Option α) : optional? read? (ofOption ofNat (o.map f)) = some o := by
  have hmap : ofOption ofNat (o.map f) = ofOption (fun a => ofNat (f a)) o := by cases o <;> rfl
  rw [hmap]
  exact optional?_ofOption h hnull o

@[simp] theorem optional?_uint8 (o : Option UInt8) :
    optional? toUInt8? (ofOption ofNat (o.map UInt8.toNat)) = some o :=
  optional?_ofNat toUInt8?_ofNat rfl o

@[simp] theorem optional?_uint16 (o : Option UInt16) :
    optional? toUInt16? (ofOption ofNat (o.map UInt16.toNat)) = some o :=
  optional?_ofNat toUInt16?_ofNat rfl o

@[simp] theorem optional?_uint32 (o : Option UInt32) :
    optional? toUInt32? (ofOption ofNat (o.map UInt32.toNat)) = some o :=
  optional?_ofNat toUInt32?_ofNat rfl o

@[simp] theorem optional?_uint64 (o : Option UInt64) :
    optional? toUInt64? (ofOption ofNat (o.map UInt64.toNat)) = some o :=
  optional?_ofNat toUInt64?_ofNat rfl o

@[simp] theorem optional?_bool (o : Option Bool) : optional? toBool? (ofOption .bool o) = some o :=
  optional?_ofOption toBool?_bool rfl o

@[simp] theorem optional?_address (o : Option Address) :
    optional? toAddress? (ofOption ofAddress o) = some o :=
  optional?_ofOption toAddress?_ofAddress rfl o

theorem toList?_ofList (h : ∀ a, read? (write a) = some a) (l : List α) :
    toList? read? (ofList write l) = some l :=
  mapM_map_of_inverse h l

end Values

/-! ### Records -/

section Records

variable {α : Type} {read? : Document → Option α} {names : List String} {name : String}
  {ms : List (String × Document)}

theorem named?_map (ms : List (String × Document)) : named? (ms.map fun m => (some m.1, m.2)) = some ms :=
  mapM_map_of_inverse (g := fun m : String × Document => (some m.1, m.2)) (fun _ => rfl) ms

theorem lookup_filter {p : String × Document → Bool} (h : ∀ j, p (name, j) = true)
    (ms : List (String × Document)) : (ms.filter p).lookup name = ms.lookup name := by
  induction ms with
  | nil => rfl
  | cons m ms ih =>
    obtain ⟨k, j⟩ := m
    by_cases hk : name = k
    · subst hk
      rw [List.filter_cons_of_pos (h j), List.lookup_cons_self, List.lookup_cons_self]
    · have hne : (name == k) = false := beq_false_of_ne hk
      by_cases hp : p (k, j) = true
      · rw [List.filter_cons_of_pos hp, List.lookup_cons, List.lookup_cons, hne, ih]
      · rw [List.filter_cons_of_neg hp, ih, List.lookup_cons, hne]

theorem lookup_picked (h : name ∈ names) (ms : List (String × Document)) :
    (ms.filter (names.contains ·.1)).lookup name = ms.lookup name :=
  lookup_filter (p := fun m => names.contains m.1) (fun _ => List.contains_iff_mem.mpr h) ms

theorem pick?_of_nodup (h : (ms.map Prod.fst).Nodup) :
    pick? names ms = some (ms.filter (names.contains ·.1)) :=
  if_pos (h.sublist (List.filter_sublist.map _))

theorem record?_of_nodup (h : (ms.map Prod.fst).Nodup) :
    record? names (ofRecord ms) = some (ms.filter (names.contains ·.1)) := by
  change (named? _).bind (pick? names) = _
  rw [named?_map, Option.bind_some, pick?_of_nodup h]

theorem record?_ofRecord (hnames : names.Nodup) (hms : ms.map Prod.fst = names) :
    record? names (ofRecord ms) = some ms := by
  have hkeep : ms.filter (names.contains ·.1) = ms := List.filter_eq_self.mpr fun m hm =>
    List.contains_iff_mem.mpr (hms ▸ List.mem_map_of_mem hm)
  rw [record?_of_nodup (hms ▸ hnames), hkeep]

/-- What is left out is as null. -/
theorem setting?_eq (read? : Document → Option α) (ms : List (String × Document)) (name : String) :
    setting? read? ms name = optional? read? ((ms.lookup name).getD .null) := by
  unfold setting?
  cases ms.lookup name <;> rfl

theorem defaulted?_eq {default : α} {j : Document} (h : read? j = some default)
    (ms : List (String × Document)) (name : String) :
    defaulted? read? ms name default = read? ((ms.lookup name).getD j) := by
  unfold defaulted?
  cases ms.lookup name with
  | none => exact h.symm
  | some _ => rfl

end Records

/-! ### What can be held -/

section Holding

variable {α : Type} {write : α → Document} {room : Nat}

theorem isFinite_whole (n : Nat) : (Number.whole false n).isFinite = decide (n < tooLarge) := rfl

theorem isHoldable_ofNat {n : Nat} (h : n < 2 ^ 64) : (ofNat n).isHoldable room = true := by
  have hroom : 2 ^ 64 ≤ tooLarge := by decide +kernel
  rw [ofNat, isHoldable, isFinite_whole, decide_eq_true_eq]
  exact Nat.lt_of_lt_of_le h hroom

theorem isHoldable_ofOption (h : ∀ a, (write a).isHoldable room = true) (o : Option α) :
    (ofOption write o).isHoldable room = true := by
  cases o with
  | none => rfl
  | some a => exact h a

theorem isHoldable_ofOption_map {f : α → Nat} (h : ∀ a, f a < 2 ^ 64) (o : Option α) :
    (ofOption ofNat (o.map f)).isHoldable room = true := by
  cases o with
  | none => rfl
  | some a => exact isHoldable_ofNat (h a)

end Holding
end Document

/-! ### Overrides, suites and scopes -/

open Document

namespace Table

variable {α : Type} {W : α → Document → Prop} {t : Table String α} {j : Document}

/-- An object whose members stand for the entries of a table, one by one. -/
def WrittenAs (W : α → Document → Prop) (t : Table String α) (j : Document) : Prop :=
  ∃ ms, j = ofRecord ms ∧ List.Forall₂ (fun p m => p.1 = m.1 ∧ W p.2 m.2) t.entries ms

theorem writtenAs_ofTable {write : α → Document} (h : ∀ a, W a (write a)) (t : Table String α) :
    t.WrittenAs W (ofTable write t) :=
  ⟨_, rfl, List.forall₂_map_right_iff.mpr (List.forall₂_same.mpr fun p _ => ⟨rfl, h p.2⟩)⟩

theorem toTable?_empty (read? : Document → Option α) : toTable? read? (ofRecord []) = some {} := rfl

theorem toTable?_of_written {read? : Document → Option α} (h : ∀ a j, W a j → read? j = some a)
    (ht : t.WrittenAs W j) : toTable? read? j = some t := by
  obtain ⟨ms, rfl, hms⟩ := ht
  have hread : ms.mapM (fun m => (read? m.2).map (m.1, ·)) = some t.entries := by
    refine mapM_of_forall₂ (hms.imp fun p m hpm => ?_)
    rw [h _ _ hpm.2, ← hpm.1]
    rfl
  unfold ofRecord toTable?
  dsimp only
  rw [named?_map, Option.bind_eq_bind, Option.bind_some, hread]
  exact congrArg some t.ofList_entries

end Table

namespace Overrides

variable {o : Overrides} {ms ms' : List (String × Document)} {j : Document}

/-- Members that tell these overrides, maybe among others. What is unset is null or left out. -/
structure SpeltBy (o : Overrides) (ms : List (String × Document)) : Prop where
  distinct : (ms.map Prod.fst).Nodup
  same : ∀ name ∈ names, (ms.lookup name).getD .null = (o.members.lookup name).getD .null

def WrittenAs (o : Overrides) (j : Document) : Prop := ∃ ms, j = ofRecord ms ∧ o.SpeltBy ms

theorem map_fst_members (o : Overrides) : o.members.map Prod.fst = names := rfl

theorem speltBy_members (o : Overrides) : o.SpeltBy o.members :=
  ⟨by rw [map_fst_members]; decide, fun _ _ => rfl⟩

theorem ofMembers?_members (o : Overrides) : ofMembers? o.members = some o := by
  simp [ofMembers?, members, setting?, List.lookup_cons]

theorem ofMembers?_congr
    (h : ∀ name ∈ names, (ms.lookup name).getD .null = (ms'.lookup name).getD .null) :
    ofMembers? ms = ofMembers? ms' := by
  unfold ofMembers?
  simp (disch := decide) only [setting?_eq, h]

theorem SpeltBy.ofMembers? (h : o.SpeltBy ms) : ofMembers? (ms.filter (names.contains ·.1)) = some o := by
  rw [← o.ofMembers?_members]
  refine ofMembers?_congr fun name hname => ?_
  rw [lookup_picked hname, h.same name hname]

theorem ofDocument?_of_written (h : o.WrittenAs j) : ofDocument? j = some o := by
  obtain ⟨ms, rfl, hms⟩ := h
  unfold ofDocument?
  rw [record?_of_nodup hms.distinct, Option.bind_eq_bind, Option.bind_some, hms.ofMembers?]

theorem writtenAs_toDocument (o : Overrides) : o.WrittenAs o.toDocument :=
  ⟨o.members, rfl, o.speltBy_members⟩

theorem writtenAs_empty : WrittenAs {} (ofRecord []) :=
  ⟨[], rfl, by simp, by simp [names, members, List.lookup_cons, ofOption]⟩

theorem parse?_render (o : Overrides) : parse? o.render = some o := by
  rw [parse?, render, Option.bind_eq_bind]
  exact parse?_bind (ofDocument?_of_written o.writtenAs_toDocument)

end Overrides

namespace Suite

variable {s : Suite} {ms : List (String × Document)} {j : Document}

structure SpeltBy (s : Suite) (ms : List (String × Document)) : Prop where
  overrides : s.overrides.SpeltBy ms
  cases : s.cases.WrittenAs Overrides.WrittenAs ((ms.lookup "cases").getD (ofRecord []))
  holdable : ∀ m ∈ ms, m.1 ≠ "cases" → m.2.isHoldable room = true

def WrittenAs (s : Suite) (j : Document) : Prop := ∃ ms, j = ofRecord ms ∧ s.SpeltBy ms

/-- No override is taken for the cases. -/
theorem ne_cases {name : String} (h : name ∈ Overrides.names) : name ≠ "cases" := by
  rintro rfl
  exact absurd h (by decide)

theorem ofDocument?_of_written (h : s.WrittenAs j) : ofDocument? j = some s := by
  obtain ⟨ms, rfl, hms⟩ := h
  have hdistinct := hms.overrides.distinct
  have hheld : s.overrides.SpeltBy (ms.filter (·.1 ≠ "cases")) := by
    refine ⟨hdistinct.sublist (List.filter_sublist.map _), fun name hname => ?_⟩
    rw [lookup_filter (p := fun m => m.1 ≠ "cases") fun _ => decide_eq_true (ne_cases hname),
      hms.overrides.same name hname]
  have hroom : (ms.filter (·.1 ≠ "cases")).all (·.2.isHoldable room) = true := by
    refine List.all_eq_true.mpr fun m hm => ?_
    obtain ⟨hmem, hname⟩ := List.mem_filter.mp hm
    exact hms.holdable m hmem (of_decide_eq_true hname)
  have hcases : defaulted? (toTable? Overrides.ofDocument?) (ms.filter (["cases"].contains ·.1)) "cases" {} =
      some s.cases := by
    rw [defaulted?_eq (Table.toTable?_empty _), lookup_picked (List.mem_singleton_self _)]
    exact Table.toTable?_of_written (fun _ _ => Overrides.ofDocument?_of_written) hms.cases
  unfold ofRecord ofDocument?
  dsimp only
  rw [named?_map]
  simp only [Option.bind_eq_bind, Option.bind_some, hroom, pick?_of_nodup hheld.distinct,
    pick?_of_nodup hdistinct, hheld.ofMembers?, hcases, if_true, Option.pure_def]

theorem isHoldable_members (o : Overrides) : ∀ m ∈ o.members, m.2.isHoldable room = true := by
  have hwidth8 : ∀ n : UInt8, n.toNat < 2 ^ 64 := fun n => Nat.lt_trans n.toNat_lt (by decide)
  have hwidth16 : ∀ n : UInt16, n.toNat < 2 ^ 64 := fun n => Nat.lt_trans n.toNat_lt (by decide)
  have hwidth32 : ∀ n : UInt32, n.toNat < 2 ^ 64 := fun n => Nat.lt_trans n.toNat_lt (by decide)
  have hbool : ∀ b, (Document.bool b).isHoldable room = true := fun _ => rfl
  have haddress : ∀ a, (ofAddress a).isHoldable room = true := fun _ => rfl
  simp [Overrides.members, isHoldable_ofOption_map hwidth8, isHoldable_ofOption_map hwidth16,
    isHoldable_ofOption_map hwidth32, isHoldable_ofOption_map UInt64.toNat_lt,
    isHoldable_ofOption hbool, isHoldable_ofOption haddress]

theorem writtenAs_toDocument (s : Suite) : s.WrittenAs s.toDocument := by
  refine ⟨_, rfl, ⟨?_, fun name hname => ?_⟩, ?_, fun m hm hname => ?_⟩
  · have hnames : (Overrides.names ++ ["cases"]).Nodup := by decide
    rwa [List.map_append, Overrides.map_fst_members]
  · have hother : (name == "cases") = false := beq_false_of_ne (ne_cases hname)
    simp only [List.lookup_append, List.lookup_cons, hother, List.lookup_nil, Option.or_none]
  · exact Table.writtenAs_ofTable Overrides.writtenAs_toDocument s.cases
  · rcases List.mem_append.mp hm with hm | hm
    · exact isHoldable_members s.overrides m hm
    · exact absurd (congrArg Prod.fst (List.mem_singleton.mp hm)) hname

end Suite

namespace Scopes

variable {s : Scopes} {ms : List (String × Document)} {j : Document}

structure SpeltBy (s : Scopes) (ms : List (String × Document)) : Prop where
  distinct : (ms.map Prod.fst).Nodup
  global : s.global.WrittenAs ((ms.lookup "global").getD (ofRecord []))
  suites : s.suites.WrittenAs Suite.WrittenAs ((ms.lookup "suites").getD (ofRecord []))

def WrittenAs (s : Scopes) (j : Document) : Prop := ∃ ms, j = ofRecord ms ∧ s.SpeltBy ms

theorem ofDocument?_of_written (h : s.WrittenAs j) : ofDocument? j = some s := by
  obtain ⟨ms, rfl, hms⟩ := h
  have hglobal := Overrides.ofDocument?_of_written hms.global
  have hsuites := Table.toTable?_of_written (W := Suite.WrittenAs)
    (fun _ _ => Suite.ofDocument?_of_written) hms.suites
  unfold ofDocument?
  rw [record?_of_nodup hms.distinct, Option.bind_eq_bind, Option.bind_some,
    defaulted?_eq (Overrides.ofDocument?_of_written Overrides.writtenAs_empty),
    defaulted?_eq (Table.toTable?_empty _), lookup_picked (by decide), lookup_picked (by decide),
    hglobal, hsuites]
  rfl

theorem writtenAs_toDocument (s : Scopes) : s.WrittenAs s.toDocument :=
  ⟨_, rfl, by simp, s.global.writtenAs_toDocument,
    Table.writtenAs_ofTable Suite.writtenAs_toDocument s.suites⟩

theorem parse?_of_written (h : s.WrittenAs j) : parse? j.render = some s := by
  rw [parse?, Option.bind_eq_bind]
  exact parse?_bind (ofDocument?_of_written h)

theorem parse?_render (s : Scopes) : parse? s.render = some s :=
  parse?_of_written s.writtenAs_toDocument

end Scopes

/-! ### States -/

theorem Params.ofDocument?_toDocument (p : Params) : ofDocument? p.toDocument = some p := by
  have hms : record? names p.toDocument = some _ := record?_ofRecord (by decide) rfl
  unfold ofDocument?
  rw [hms, Option.bind_eq_bind, Option.bind_some]
  simp [required?, List.lookup_cons]

theorem Pricer.ofDocument?_toDocument (p : Pricer) : ofDocument? p.toDocument = some p := by
  have hms : record? names p.toDocument = some _ := record?_ofRecord (by decide) rfl
  unfold ofDocument?
  rw [hms, Option.bind_eq_bind, Option.bind_some]
  simp [required?, List.lookup_cons]

namespace StateParams

theorem ofDocument?_toDocument (p : StateParams) : ofDocument? p.toDocument = some p := by
  have hms : record? names p.toDocument = some _ := record?_ofRecord (by decide) rfl
  unfold ofDocument?
  rw [hms, Option.bind_eq_bind, Option.bind_some]
  simp [required?, List.lookup_cons, Params.ofDocument?_toDocument,
    Pricer.ofDocument?_toDocument, toList?_ofList toAddress?_ofAddress]

theorem parse?_render (p : StateParams) : parse? p.render = some p := by
  rw [parse?, render, Option.bind_eq_bind]
  exact parse?_bind p.ofDocument?_toDocument

end StateParams

/-- What is rendered is parsed to itself: scopes, with any suites and cases, whatever characters their names
have and whichever settings are unset, and the state that programs start from. The document of scopes
is one of those that stand for them, and every such document, rendered, is parsed to the scopes. -/
theorem rendered_parsed : (∀ s : Scopes, Scopes.parse? s.render = some s) ∧
    (∀ p : StateParams, StateParams.parse? p.render = some p) ∧
    (∀ s : Scopes, s.WrittenAs s.toDocument) ∧
    ∀ (s : Scopes) (j : Document), s.WrittenAs j → Scopes.parse? j.render = some s :=
  ⟨Scopes.parse?_render, StateParams.parse?_render, Scopes.writtenAs_toDocument,
    fun _ _ => Scopes.parse?_of_written⟩

/-- A document that tells one setting of a suite and one of a case in it, and leaves out all else. -/
theorem rendered_parsed_sparse :
    let j := ofRecord [("suites", ofRecord [("memory", ofRecord
      [("cases", ofRecord [("big", ofRecord [("pageLimit", ofNat 256)])]), ("pageGas", ofNat 900)])])]
    let big : Overrides := { pageLimit := some 256 }
    let memory : Suite :=
      { overrides := { pageGas := some 900 }, cases := Table.empty.insert "big" big }
    let s : Scopes := { suites := Table.empty.insert "memory" memory }
    s.WrittenAs j ∧ Scopes.parse? j.render = some s := by
  intro j big memory s
  have hbig : big.WrittenAs (ofRecord [("pageLimit", ofNat 256)]) :=
    ⟨_, rfl, by simp, by simp [Overrides.names, Overrides.members, List.lookup_cons, ofOption, big]⟩
  have hcases : memory.cases.WrittenAs Overrides.WrittenAs
      (ofRecord [("big", ofRecord [("pageLimit", ofNat 256)])]) :=
    ⟨_, rfl, .cons ⟨rfl, hbig⟩ .nil⟩
  have hmemory : memory.WrittenAs (ofRecord
      [("cases", ofRecord [("big", ofRecord [("pageLimit", ofNat 256)])]), ("pageGas", ofNat 900)]) := by
    refine ⟨_, rfl, ⟨by simp, ?_⟩, hcases, ?_⟩
    · simp [Overrides.names, Overrides.members, List.lookup_cons, ofOption, memory]
    · simp [isHoldable_ofNat]
  have hwritten : s.WrittenAs j :=
    ⟨_, rfl, by simp, Overrides.writtenAs_empty, _, rfl, .cons ⟨rfl, hmemory⟩ .nil⟩
  exact ⟨hwritten, rendered_parsed.2.2.2 s j hwritten⟩

end Inkwell
