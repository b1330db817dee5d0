import Inkwell.Octets
set_option autoImplicit false

/-! Documents in JSON notation. -/

namespace Inkwell

namespace Document

/-- The characters of a string; none if half a surrogate pair stands in it alone. -/
abbrev Text := Option String

inductive Number where
  | whole (negative : Bool) (digits : Nat)
  /-- With a fraction or an exponent: the digits, and the power of ten that belongs to the last. -/
  | scaled (negative : Bool) (digits : Nat) (scale : Int)
  deriving DecidableEq, Repr

end Document

/-- A document. Members stay in the order in which they were written, repeated ones included. -/
inductive Document where
  | null
  | bool (b : Bool)
  | number (n : Document.Number)
  | text (t : Document.Text)
  | array (xs : List Document)
  | object (ms : List (Document.Text × Document))

namespace Document

def ofNat (n : Nat) : Document := .number (.whole false n)

def ofString (s : String) : Document := .text (some s)

/-- The least magnitude that rounds to no number of double precision. -/
def tooLarge : Nat := 2 ^ 1024 - 2 ^ 970

def Number.isFinite : Number → Bool
  | .whole _ digits => digits < tooLarge
  | .scaled _ 0 _ => true
  | .scaled _ digits (.ofNat k) => k < 400 && digits * 10 ^ k < tooLarge
  | .scaled _ digits (.negSucc k) => digits / 10 ^ min (k + 1) (digits.log2 + 1) < tooLarge

mutual

/-- Whether a document can be held before its meaning is known: its strings and numbers stand for
something, and it opens no more than `room` levels. -/
def isHoldable (room : Nat) : Document → Bool
  | .null | .bool _ => true
  | .number n => n.isFinite
  | .text t => t.isSome
  | .array xs => 0 < room && allHoldable (room - 1) xs
  | .object ms => 0 < room && membersHoldable (room - 1) ms

def allHoldable (room : Nat) : List Document → Bool
  | [] => true
  | x :: xs => x.isHoldable room && allHoldable room xs

def membersHoldable (room : Nat) : List (Text × Document) → Bool
  | [] => true
  | (k, v) :: ms => k.isSome && v.isHoldable room && membersHoldable room ms

end

end Document
end Inkwell
