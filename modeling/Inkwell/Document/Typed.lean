import Inkwell.Document
import Inkwell.Octets
import Inkwell.Table
set_option autoImplicit false

/-! Values of given types as documents. -/

namespace Inkwell.Document

def natBelow? (bound : Nat) : Document → Option Nat
  | .number (.whole false n) => if n < bound then some n else none
  | _ => none

def toUInt8? (j : Document) : Option UInt8 := (j.natBelow? (2 ^ 8)).map UInt8.ofNat
def toUInt16? (j : Document) : Option UInt16 := (j.natBelow? (2 ^ 16)).map UInt16.ofNat
def toUInt32? (j : Document) : Option UInt32 := (j.natBelow? (2 ^ 32)).map UInt32.ofNat
def toUInt64? (j : Document) : Option UInt64 := (j.natBelow? (2 ^ 64)).map UInt64.ofNat

def toBool? : Document → Option Bool
  | .bool b => some b
  | _ => none

def afterMark : List Char → List Char
  | '0' :: 'x' :: cs | '0' :: 'X' :: cs => cs
  | cs => cs

def toAddress? : Document → Option Address
  | .text (some s) =>
    match Octets.ofHex? (afterMark s.toList) with
    | some bs => if bs.length = 20 then some (Address.ofOctets bs) else none
    | none => none
  | _ => none

def ofAddress (a : Address) : Document := .ofString a.hex

def optional? {α : Type} (read? : Document → Option α) : Document → Option (Option α)
  | .null => some none
  | j => (read? j).map some

def ofOption {α : Type} (write : α → Document) : Option α → Document
  | none => .null
  | some a => write a

def toList? {α : Type} (read? : Document → Option α) : Document → Option (List α)
  | .array xs => xs.mapM read?
  | _ => none

def ofList {α : Type} (write : α → Document) (l : List α) : Document := .array (l.map write)

def named? (ms : List (Text × Document)) : Option (List (String × Document)) :=
  ms.mapM fun m => m.1.map (·, m.2)

/-- The members with one of these names, if no name comes twice. -/
def pick? (names : List String) (ms : List (String × Document)) : Option (List (String × Document)) :=
  let picked := ms.filter (names.contains ·.1)
  if (picked.map Prod.fst).Nodup then some picked else none

/-- A record's members, given by their names or, in an array, by their places. -/
def record? (names : List String) : Document → Option (List (String × Document))
  | .object ms => do pick? names (← named? ms)
  | .array xs => if xs.length ≤ names.length then some (names.zip xs) else none
  | _ => none

def ofRecord (ms : List (String × Document)) : Document := .object (ms.map fun m => (some m.1, m.2))

def required? {α : Type} (read? : Document → Option α) (ms : List (String × Document)) (name : String) :
    Option α := do read? (← ms.lookup name)

/-- A member that may be left out or null. -/
def setting? {α : Type} (read? : Document → Option α) (ms : List (String × Document)) (name : String) :
    Option (Option α) :=
  match ms.lookup name with
  | none => some none
  | some j => optional? read? j

/-- A member that may be left out but not null. -/
def defaulted? {α : Type} (read? : Document → Option α) (ms : List (String × Document)) (name : String)
    (default : α) : Option α :=
  match ms.lookup name with
  | none => some default
  | some j => read? j

/-- An object as a map; of two members with one name the later counts. -/
def toTable? {α : Type} (read? : Document → Option α) : Document → Option (Table String α)
  | .object ms => do
    let ms ← named? ms
    let ms ← ms.mapM fun m => (read? m.2).map (m.1, ·)
    pure (Table.ofList ms)
  | _ => none

def ofTable {α : Type} (write : α → Document) (t : Table String α) : Document :=
  ofRecord (t.entries.map fun p => (p.1, write p.2))

end Inkwell.Document
