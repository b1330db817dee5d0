set_option autoImplicit false

/-! A bounded map that forgets the entry unused for longest. Most recently used first. -/

namespace Inkwell

structure Lru (κ α : Type) where
  capacity : Nat
  entries : List (κ × α) := []

namespace Lru

variable {κ α : Type} [DecidableEq κ]

/-- A map has room for one entry at least. -/
def ofCapacity (n : Nat) : Lru κ α := ⟨max n 1, []⟩

def size (c : Lru κ α) : Nat := c.entries.length

def keys (c : Lru κ α) : List κ := c.entries.map Prod.fst

def contains (c : Lru κ α) (k : κ) : Bool := c.keys.contains k

def others (c : Lru κ α) (k : κ) : List (κ × α) := c.entries.filter (·.1 ≠ k)

/-- Looks an entry up, which uses it. -/
def get? (c : Lru κ α) (k : κ) : Option α × Lru κ α :=
  match c.entries.find? (·.1 = k) with
  | none => (none, c)
  | some p => (some p.2, { c with entries := (k, p.2) :: c.others k })

/-- Puts an entry in front, and gives the key that had to leave for it. -/
def insert (c : Lru κ α) (k : κ) (v : α) : Option κ × Lru κ α :=
  let entries := (k, v) :: c.others k
  if c.capacity < entries.length then
    (entries.getLast?.map Prod.fst, { c with entries := entries.dropLast })
  else (none, { c with entries })

def erase (c : Lru κ α) (k : κ) : Bool × Lru κ α :=
  (c.contains k, { c with entries := c.others k })

def clear (c : Lru κ α) : Lru κ α := { c with entries := [] }

end Lru
end Inkwell
