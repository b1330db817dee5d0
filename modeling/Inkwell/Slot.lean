import Inkwell.Keccak
set_option autoImplicit false

/-! Where things lie in an account's storage. Storage is divided into spaces, each named by a
word; the zero word names the whole. -/

namespace Inkwell.Slot

/-- What the name of a space adds in front of everything hashed in it. -/
def scope (space : Word) : Octets := if space = 0 then [] else space.octets

def within (space : Word) (index : Octets) : Word := keccak (scope space ++ index)

/-- The slot of a key in a space. Keys that differ in their last byte only lie side by side. -/
def ofKey (space key : Word) : Word :=
  Word.ofOctets
    ((Keccak.digest (scope space ++ key.octets.take 31)).take 31 ++ key.octets.drop 31)

end Inkwell.Slot
