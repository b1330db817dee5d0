import Inkwell.Document
import Inkwell.Octets
set_option autoImplicit false

/-! Reading the text of a document. Only the four characters of white space may stand between
tokens, and nothing else behind the document. -/

namespace Inkwell.Document

def isBlank (c : Char) : Bool := c = ' ' || c = '\n' || c = '\r' || c = '\t'

def skipBlank (cs : List Char) : List Char := cs.dropWhile isBlank

def isDigit (c : Char) : Bool := 48 ≤ c.toNat && c.toNat ≤ 57

def digitsValue (ds : List Char) : Nat := ds.foldl (fun n c => n * 10 + (c.toNat - 48)) 0

/-- As many digits as there are, one at least. -/
def readDigits (cs : List Char) : Option (List Char × List Char) :=
  match cs.takeWhile isDigit with
  | [] => none
  | ds => some (ds, cs.dropWhile isDigit)

/-- Digits without a superfluous zero in front. -/
def readWhole (cs : List Char) : Option (List Char × List Char) := do
  match ← readDigits cs with
  | ('0' :: _ :: _, _) => none
  | r => some r

def readFraction : List Char → Option (List Char × List Char)
  | '.' :: cs => readDigits cs
  | cs => some ([], cs)

def readScale : List Char → Option (Int × List Char)
  | '+' :: cs => do let (ds, cs) ← readDigits cs; pure (digitsValue ds, cs)
  | '-' :: cs => do let (ds, cs) ← readDigits cs; pure (-(digitsValue ds : Int), cs)
  | cs => do let (ds, cs) ← readDigits cs; pure (digitsValue ds, cs)

def readExponent : List Char → Option (Option Int × List Char)
  | 'e' :: cs | 'E' :: cs => do let (n, cs) ← readScale cs; pure (some n, cs)
  | cs => some (none, cs)

def readMagnitude (negative : Bool) (cs : List Char) : Option (Number × List Char) := do
  let (ds, cs) ← readWhole cs
  let (fs, cs) ← readFraction cs
  let (e, cs) ← readExponent cs
  let n := digitsValue (ds ++ fs)
  if fs.isEmpty ∧ e.isNone then pure (.whole negative n, cs)
  else pure (.scaled negative n (e.getD 0 - fs.length), cs)

def readNumber : List Char → Option (Number × List Char)
  | '-' :: cs => readMagnitude true cs
  | cs => readMagnitude false cs

/-- What stands in a string: a character, or a unit of sixteen bits given by its number. -/
inductive Piece where
  | char (c : Char)
  | unit (n : Nat)
  deriving DecidableEq, Repr

def escaped? : Char → Option Char
  | '"' => some '"'
  | '\\' => some '\\'
  | '/' => some '/'
  | 'b' => some '\x08'
  | 'f' => some '\x0c'
  | 'n' => some '\n'
  | 'r' => some '\r'
  | 't' => some '\t'
  | _ => none

def unitValue? (a b c d : Char) : Option Nat := do
  let digits ← [a, b, c, d].mapM Octets.hexValue?
  pure (digits.foldl (fun n x => n * 16 + x) 0)

def readPieces : List Char → Option (List Piece × List Char)
  | '"' :: cs => some ([], cs)
  | '\\' :: 'u' :: a :: b :: c :: d :: cs => do
    let n ← unitValue? a b c d
    let (ps, cs) ← readPieces cs
    pure (.unit n :: ps, cs)
  | '\\' :: e :: cs => do
    let c ← escaped? e
    let (ps, cs) ← readPieces cs
    pure (.char c :: ps, cs)
  | c :: cs =>
    if c.toNat < 32 ∨ c = '\\' then none
    else do
      let (ps, cs) ← readPieces cs
      pure (.char c :: ps, cs)
  | [] => none

def isLeading (n : Nat) : Bool := 0xd800 ≤ n && n < 0xdc00
def isTrailing (n : Nat) : Bool := 0xdc00 ≤ n && n < 0xe000

def ofPair (a b : Nat) : Char := Char.ofNat (0x10000 + (a - 0xd800) * 0x400 + (b - 0xdc00))

/-- Joins surrogate pairs; none if half of one stands alone. -/
def joinPieces : List Piece → Option (List Char)
  | [] => some []
  | .char c :: ps => (joinPieces ps).map (c :: ·)
  | .unit a :: .unit b :: ps =>
    if isLeading a then
      if isTrailing b then (joinPieces ps).map (ofPair a b :: ·) else none
    else if isTrailing a then none
    else (joinPieces (.unit b :: ps)).map (Char.ofNat a :: ·)
  | .unit a :: ps =>
    if isLeading a ∨ isTrailing a then none else (joinPieces ps).map (Char.ofNat a :: ·)

def readText (cs : List Char) : Option (Text × List Char) := do
  let (ps, cs) ← readPieces cs
  pure ((joinPieces ps).map String.ofList, cs)

mutual

def readValue : Nat → List Char → Option (Document × List Char)
  | 0, _ => none
  | fuel+1, cs =>
    match skipBlank cs with
    | 'n' :: 'u' :: 'l' :: 'l' :: cs => some (.null, cs)
    | 't' :: 'r' :: 'u' :: 'e' :: cs => some (.bool true, cs)
    | 'f' :: 'a' :: 'l' :: 's' :: 'e' :: cs => some (.bool false, cs)
    | '"' :: cs => do let (t, cs) ← readText cs; pure (.text t, cs)
    | '[' :: cs =>
      match skipBlank cs with
      | ']' :: cs => some (.array [], cs)
      | cs => do let (xs, cs) ← readItems fuel cs; pure (.array xs, cs)
    | '{' :: cs =>
      match skipBlank cs with
      | '}' :: cs => some (.object [], cs)
      | cs => do let (ms, cs) ← readMembers fuel cs; pure (.object ms, cs)
    | cs => do let (n, cs) ← readNumber cs; pure (.number n, cs)

def readItems : Nat → List Char → Option (List Document × List Char)
  | 0, _ => none
  | fuel+1, cs => do
    let (x, cs) ← readValue fuel cs
    match skipBlank cs with
    | ',' :: cs => do let (xs, cs) ← readItems fuel cs; pure (x :: xs, cs)
    | ']' :: cs => some ([x], cs)
    | _ => none

def readMembers : Nat → List Char → Option (List (Text × Document) × List Char)
  | 0, _ => none
  | fuel+1, cs =>
    match skipBlank cs with
    | '"' :: cs => do
      let (k, cs) ← readText cs
      match skipBlank cs with
      | ':' :: cs => do
        let (v, cs) ← readValue fuel cs
        match skipBlank cs with
        | ',' :: cs => do let (ms, cs) ← readMembers fuel cs; pure ((k, v) :: ms, cs)
        | '}' :: cs => some ([(k, v)], cs)
        | _ => none
      | _ => none
    | _ => none

end

/-- A document is never deeper than twice its length. -/
def read? (cs : List Char) : Option Document := do
  let (j, cs) ← readValue (2 * cs.length + 1) cs
  if skipBlank cs = [] then some j else none

def parse? (s : String) : Option Document := read? s.toList

end Inkwell.Document
