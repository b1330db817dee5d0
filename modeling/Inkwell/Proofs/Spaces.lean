import Inkwell.Proofs.Apart
import Mathlib.Data.List.Nodup
set_option autoImplicit false

/-! The keys of the state in their spaces, and that their slots differ while no two digests of what is
hashed for them start alike. -/

namespace Inkwell

namespace Octets

theorem ofNat_toNat (bs : Octets) : ofNat bs.length (toNat bs) = bs := by
  induction bs using List.reverseRecOn with
  | nil => rfl
  | append_singleton bs b ih =>
    have hb : b.toNat < 256 := b.toNat_lt
    have hdiv : (toNat bs * 256 + b.toNat) / 256 = toNat bs := by omega
    have hlast : UInt8.ofNat (toNat bs * 256 + b.toNat) = b := by
      apply UInt8.toNat_inj.mp
      rw [UInt8.toNat_ofNat']
      omega
    rw [toNat_append_singleton, List.length_append, List.length_singleton, ofNat, hdiv, hlast, ih]

theorem toNat_lt (bs : Octets) : toNat bs < 256 ^ bs.length := by
  rw [← ofNat_toNat bs, toNat_ofNat, length_ofNat]
  exact Nat.mod_lt _ (Nat.pow_pos (by decide))

end Octets

theorem Word.octets_ofOctets {bs : Octets} (h : bs.length = 32) : (ofOctets bs).octets = bs := by
  have hlt : Octets.toNat bs < 2 ^ 256 := by
    have hbound := Octets.toNat_lt bs
    rw [h] at hbound
    exact hbound.trans_eq (by decide)
  rw [octets, ofOctets, BitVec.toNat_ofNat, Nat.mod_eq_of_lt hlt, ← h, Octets.ofNat_toNat]

theorem Word.length_octets (w : Word) : w.octets.length = 32 := Octets.length_ofNat _ _

namespace Slot

variable {space space' key key' : Word}

/-- What is hashed for the slot of a key. -/
def input (space key : Word) : Octets := scope space ++ key.octets.take 31

/-- The part of a slot that is hashed. -/
def stem (space key : Word) : Octets := (Keccak.digest (input space key)).take 31

theorem length_stem (space key : Word) : (stem space key).length = 31 := by
  simp [stem, Keccak.length_digest]

theorem octets_ofKey (space key : Word) :
    (ofKey space key).octets = stem space key ++ key.octets.drop 31 := by
  refine Word.octets_ofOctets ?_
  change (stem space key ++ _).length = 32
  rw [List.length_append, length_stem, List.length_drop, Word.length_octets]

theorem length_scope (space : Word) : (scope space).length = if space = 0 then 0 else 32 := by
  unfold scope
  split
  · rfl
  · exact Word.length_octets space

/-- What is hashed tells the space, also where it is the whole, and the key but for its last byte. -/
theorem input_inj (h : input space key = input space' key') :
    space = space' ∧ key.octets.take 31 = key'.octets.take 31 := by
  have hlength : (scope space).length = (scope space').length := by
    have hkey : ∀ w : Word, (w.octets.take 31).length = 31 := fun w => by
      simp [Word.length_octets]
    have hsum := congrArg List.length h
    rw [input, input, List.length_append, List.length_append, hkey, hkey] at hsum
    omega
  obtain ⟨hscope, htake⟩ := List.append_inj h hlength
  refine ⟨?_, htake⟩
  rw [length_scope, length_scope] at hlength
  unfold scope at hscope
  by_cases hs : space = 0 <;> by_cases hs' : space' = 0
  · rw [hs, hs']
  · rw [if_pos hs, if_neg hs'] at hlength
    cases hlength
  · rw [if_neg hs, if_pos hs'] at hlength
    cases hlength
  · rw [if_neg hs, if_neg hs'] at hscope
    rw [← Word.ofOctets_octets space, hscope, Word.ofOctets_octets]

theorem ofKey_div (space key : Word) :
    (ofKey space key).toNat / 256 = Octets.toNat (stem space key) := by
  have hlt : (ofKey space key).toNat < 256 ^ 32 := (ofKey space key).isLt.trans_eq (by decide)
  have hnum : Octets.toNat (ofKey space key).octets = (ofKey space key).toNat := by
    rw [Word.octets, Octets.toNat_ofNat, Nat.mod_eq_of_lt hlt]
  have hbyte := (UInt8.ofNat key.toNat).toNat_lt
  rw [octets_ofKey, Word.drop_octets, Octets.toNat_append_singleton] at hnum
  rw [← hnum]
  omega

/-- Slots are equal for equal keys only, unless digests collide. -/
theorem ofKey_inj (hstem : stem space key = stem space' key' → input space key = input space' key')
    (h : ofKey space key = ofKey space' key') : space = space' ∧ key = key' := by
  have hoctets := congrArg Word.octets h
  rw [octets_ofKey, octets_ofKey] at hoctets
  have hlength : (stem space key).length = (stem space' key').length := by
    rw [length_stem, length_stem]
  obtain ⟨hstems, hdrop⟩ := List.append_inj hoctets hlength
  obtain ⟨hspace, htake⟩ := input_inj (hstem hstems)
  refine ⟨hspace, ?_⟩
  rw [← Word.ofOctets_octets key, ← List.take_append_drop 31 key.octets, htake, hdrop,
    List.take_append_drop, Word.ofOctets_octets]

end Slot

namespace Layout

def managerIndex : Word := Slot.within managers [0]

theorem managerIndex_eq : managerIndex =
    0xc9b5b988749a3dc2129095aa5adeebbd55154d31622fa70da2ffb707087d6f49 := by
  simp only [managerIndex, names_eq, Slot.within, keccak, Keccak.digest_eq]
  decide +kernel

inductive Space where
  | root
  | params
  | pricer
  | managers
  | managerIndex
  | records
  | lifetimes
  | fees
  | moduleHashes
  deriving DecidableEq, Repr

namespace Space

def name : Space → Word
  | .root => 0
  | .params => Layout.params
  | .pricer => Layout.pricer
  | .managers => Layout.managers
  | .managerIndex => Layout.managerIndex
  | .records => Layout.records
  | .lifetimes => Layout.lifetimes
  | .fees => Layout.fees
  | .moduleHashes => Layout.moduleHashes

def all : List Space :=
  [root, params, pricer, managers, managerIndex, records, lifetimes, fees, moduleHashes]

theorem mem_all (s : Space) : s ∈ all := by cases s <;> decide

theorem nodup_names : (all.map name).Nodup := by
  simp only [all, List.map_cons, List.map_nil, name, names_eq, managerIndex_eq]
  decide

theorem name_inj {s s' : Space} (h : s.name = s'.name) : s = s' :=
  List.inj_on_of_nodup_map nodup_names (mem_all s) (mem_all s') h

end Space

structure Key where
  space : Space
  word : Word
  deriving DecidableEq, Repr

namespace Key

def slot (k : Key) : Word := Slot.ofKey k.space.name k.word
def input (k : Key) : Octets := Slot.input k.space.name k.word
def stem (k : Key) : Octets := Slot.stem k.space.name k.word

end Key

def Distinct (ks : List Key) : Prop := ∀ k ∈ ks, ∀ k' ∈ ks, k.slot = k'.slot → k = k'

theorem Distinct.mono {ks ks' : List Key} (h : Distinct ks) (hsub : ks' ⊆ ks) : Distinct ks' :=
  fun _ hk _ hk' => h _ (hsub hk) _ (hsub hk')

/-- No two digests of what is hashed for these keys start with the same 31 bytes. -/
def Separate (ks : List Key) : Prop :=
  ∀ k ∈ ks, ∀ k' ∈ ks, k.stem = k'.stem → k.input = k'.input

namespace Separate

variable {ks ks' : List Key} {k k' : Key}

theorem mono (h : Separate ks) (hsub : ks' ⊆ ks) : Separate ks' :=
  fun _ hk _ hk' => h _ (hsub hk) _ (hsub hk')

theorem slot_inj (h : Separate ks) (hk : k ∈ ks) (hk' : k' ∈ ks) (heq : k.slot = k'.slot) :
    k = k' := by
  obtain ⟨hspace, hword⟩ := Slot.ofKey_inj (h k hk k' hk') heq
  obtain ⟨space, word⟩ := k
  cases Space.name_inj hspace
  cases hword
  rfl

theorem slot_ne (h : Separate ks) (hk : k ∈ ks) (hk' : k' ∈ ks) (hne : k ≠ k') :
    k.slot ≠ k'.slot := fun heq => hne (h.slot_inj hk hk' heq)

/-- Where all but the last byte of slots differs, digests do. -/
theorem of_slots (h : ∀ k ∈ ks, ∀ k' ∈ ks, k ≠ k' →
    k.slot.toNat / 256 = k'.slot.toNat / 256 → k.input = k'.input) : Separate ks := by
  intro k hk k' hk' hstem
  by_cases hsame : k = k'
  · rw [hsame]
  · refine h k hk k' hk' hsame ?_
    rw [Key.slot, Key.slot, Slot.ofKey_div, Slot.ofKey_div]
    exact congrArg Octets.toNat hstem

end Separate
end Layout
end Inkwell
