import Inkwell.Keccak
set_option autoImplicit false

/-! The addresses that new accounts get, and the way addresses are written for people. -/

namespace Inkwell.Address

def minimalOctets (n : Nat) : Octets := (Octets.ofNat 32 n).dropWhile (· = 0)

/-- A byte string as an item of a list: small bytes stand for themselves, other strings of less
than fifty-six bytes follow their length. -/
def listItem (bs : Octets) : Octets :=
  match bs with
  | [b] => if b < 0x80 then [b] else [0x81, b]
  | bs => UInt8.ofNat (0x80 + bs.length) :: bs

def itemList (items : List Octets) : Octets :=
  let body := items.flatMap listItem
  UInt8.ofNat (0xc0 + body.length) :: body

def created (creator : Address) (nonce : UInt64) : Address :=
  ofWord (keccak (itemList [creator.octets, minimalOctets nonce.toNat]))

/-- The address that depends on a salt and on the code that creates the account. -/
def createdWithSalt (creator : Address) (salt initCodeHash : Word) : Address :=
  ofWord (keccak (0xff :: creator.octets ++ salt.octets ++ initCodeHash.octets))

def halves (bs : Octets) : List Nat := bs.flatMap fun b => [b.toNat / 16, b.toNat % 16]

/-- Hexadecimal digits, in upper case where the hash of the text has a half byte from eight on. -/
def checksummed (a : Address) : String :=
  let digits := a.octets.toHex
  let hash := halves (Keccak.digest (Octets.ofText digits))
  "0x" ++ String.ofList (List.zipWith (fun c h => if 8 ≤ h then c.toUpper else c) digits.toList hash)

end Inkwell.Address
