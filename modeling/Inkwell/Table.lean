set_option autoImplicit false

/-! Finite maps that remember the order in which their keys came. -/

namespace Inkwell

/-- A list of keys and values in which no key comes twice. -/
structure Table (κ α : Type) where
  entries : List (κ × α) := []
  distinct : (entries.map Prod.fst).Nodup := by simp

namespace Table

variable {κ α : Type} [DecidableEq κ]

/-- Puts a value in the place of its key, at the end if the key is new. -/
def upsert (k : κ) (v : α) : List (κ × α) → List (κ × α)
  | [] => [(k, v)]
  | p :: rest => if p.1 = k then (k, v) :: rest else p :: upsert k v rest

theorem mem_keys_upsert (k : κ) (v : α) (l : List (κ × α)) (x : κ) :
    x ∈ (upsert k v l).map Prod.fst ↔ x = k ∨ x ∈ l.map Prod.fst := by
  induction l with
  | nil => simp [upsert]
  | cons p l ih =>
    by_cases h : p.1 = k
    · simp [upsert, h]
    · simp only [upsert, h, if_false, List.map_cons, List.mem_cons, ih]
      exact ⟨fun | .inl e => .inr (.inl e) | .inr (.inl e) => .inl e | .inr (.inr e) => .inr (.inr e),
        fun | .inl e => .inr (.inl e) | .inr (.inl e) => .inl e | .inr (.inr e) => .inr (.inr e)⟩

theorem nodup_upsert (k : κ) (v : α) (l : List (κ × α)) (h : (l.map Prod.fst).Nodup) :
    ((upsert k v l).map Prod.fst).Nodup := by
  induction l with
  | nil => simp [upsert]
  | cons p l ih =>
    simp only [List.map_cons, List.nodup_cons] at h
    by_cases hk : p.1 = k
    · subst hk
      simpa [upsert] using h
    · simp only [upsert, hk, if_false, List.map_cons, List.nodup_cons, mem_keys_upsert]
      exact ⟨fun hm => hm.elim id h.1, ih h.2⟩

def find? (k : κ) : List (κ × α) → Option α
  | [] => none
  | p :: rest => if p.1 = k then some p.2 else find? k rest

theorem find?_upsert (k x : κ) (v : α) (l : List (κ × α)) :
    find? x (upsert k v l) = if x = k then some v else find? x l := by
  induction l with
  | nil => by_cases h : x = k <;> simp [upsert, find?, h, Ne.symm]
  | cons p l ih =>
    by_cases hk : p.1 = k
    · by_cases h : x = k
      · simp [upsert, find?, hk, h]
      · have : ¬ k = x := fun e => h e.symm
        simp [upsert, find?, hk, h, this]
    · by_cases hx : p.1 = x
      · have : ¬ x = k := fun e => hk (hx.trans e)
        simp [upsert, find?, hx, this]
      · simp [upsert, find?, hk, hx, ih]

def empty : Table κ α := {}

def get? (t : Table κ α) (k : κ) : Option α := find? k t.entries

def insert (t : Table κ α) (k : κ) (v : α) : Table κ α where
  entries := upsert k v t.entries
  distinct := nodup_upsert k v t.entries t.distinct

def contains (t : Table κ α) (k : κ) : Bool := (t.get? k).isSome

def keys (t : Table κ α) : List κ := t.entries.map Prod.fst

/-- Later pairs win. -/
def ofList (l : List (κ × α)) : Table κ α := l.foldl (fun t p => t.insert p.1 p.2) {}

theorem get?_insert (t : Table κ α) (k x : κ) (v : α) :
    (t.insert k v).get? x = if x = k then some v else t.get? x :=
  find?_upsert k x v t.entries

@[simp] theorem get?_insert_self (t : Table κ α) (k : κ) (v : α) :
    (t.insert k v).get? k = some v := by simp [get?_insert]

theorem get?_insert_of_ne (t : Table κ α) {k x : κ} (v : α) (h : x ≠ k) :
    (t.insert k v).get? x = t.get? x := by simp [get?_insert, h]

end Table
end Inkwell
