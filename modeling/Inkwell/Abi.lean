import Inkwell.Keccak
set_option autoImplicit false

/-! The binary form of contract calls, their answers, errors and events: a selector, then words. -/

namespace Inkwell.Abi

def selectorOf (signature : String) : Octets :=
  (Keccak.digest (Octets.ofText signature)).take 4

def topicOf (signature : String) : Word := keccak (Octets.ofText signature)

def number (n : Nat) : Word := BitVec.ofNat 256 n

def flag (b : Bool) : Word := if b then 1 else 0

def words (ws : List Word) : Octets := ws.flatMap Word.octets

def wordList (ws : List Word) : Octets := words (number 32 :: number ws.length :: ws)

def error (signature : String) (args : List Word) : Octets := selectorOf signature ++ words args

/-- The first argument of a call; what follows it is not looked at. -/
def firstWord? (args : Octets) : Option Word := (Octets.slice? 0 32 args).map Word.ofOctets

end Inkwell.Abi
