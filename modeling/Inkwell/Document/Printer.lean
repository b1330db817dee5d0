import Inkwell.Document
import Inkwell.Octets
set_option autoImplicit false

/-! The compact text of a document. -/

namespace Inkwell.Document

def unitDigits (n : Nat) : List Char :=
  [n / 4096 % 16, n / 256 % 16, n / 16 % 16, n % 16].map Octets.hexDigit

/-- A character inside a string: quotes, backslashes and control characters are escaped. -/
def printChar (c : Char) : List Char :=
  if c = '"' then ['\\', '"']
  else if c = '\\' then ['\\', '\\']
  else if c = '\x08' then ['\\', 'b']
  else if c = '\x09' then ['\\', 't']
  else if c = '\x0a' then ['\\', 'n']
  else if c = '\x0c' then ['\\', 'f']
  else if c = '\x0d' then ['\\', 'r']
  else if c.toNat < 32 then '\\' :: 'u' :: unitDigits c.toNat
  else [c]

def printString (s : String) : List Char := '"' :: s.toList.flatMap printChar ++ ['"']

def printText : Text → List Char
  | some s => printString s
  | none => '"' :: '\\' :: 'u' :: unitDigits 0xd800 ++ ['"']

def printNat (n : Nat) : List Char := Nat.toDigits 10 n

def printInt : Int → List Char
  | .ofNat n => printNat n
  | .negSucc n => '-' :: printNat (n + 1)

def printSign (negative : Bool) : List Char := if negative then ['-'] else []

def printNumber : Number → List Char
  | .whole negative digits => printSign negative ++ printNat digits
  | .scaled negative digits scale => printSign negative ++ printNat digits ++ 'e' :: printInt scale

mutual

def print : Document → List Char
  | .null => ['n', 'u', 'l', 'l']
  | .bool true => ['t', 'r', 'u', 'e']
  | .bool false => ['f', 'a', 'l', 's', 'e']
  | .number n => printNumber n
  | .text t => printText t
  | .array [] => ['[', ']']
  | .array (x :: xs) => '[' :: x.print ++ printItems xs
  | .object [] => ['{', '}']
  | .object ((k, v) :: ms) => '{' :: printText k ++ ':' :: v.print ++ printMembers ms

def printItems : List Document → List Char
  | [] => [']']
  | x :: xs => ',' :: x.print ++ printItems xs

def printMembers : List (Text × Document) → List Char
  | [] => ['}']
  | (k, v) :: ms => ',' :: printText k ++ ':' :: v.print ++ printMembers ms

end

def render (j : Document) : String := String.ofList j.print

end Inkwell.Document
