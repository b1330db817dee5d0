import Inkwell.Clamp
set_option autoImplicit false

/-! The price of memory pages: linear in the pages newly open beyond the free ones, plus a ramp
over the most pages ever open in a transaction. -/

namespace Inkwell

def ramp : List Nat :=
  [1, 1, 1, 1, 1, 1, 2, 2, 2, 3, 3, 4, 5, 5, 6, 7, 8, 9, 11, 12, 14, 17, 19, 22, 25, 29, 33, 38,
   43, 50, 57, 65, 75, 85, 98, 112, 128, 147, 168, 193, 221, 253, 289, 331, 379, 434, 497, 569,
   651, 745, 853, 976, 1117, 1279, 1463, 1675, 1917, 2194, 2511, 2874, 3290, 3765, 4309, 4932,
   5645, 6461, 7395, 8464, 9687, 11087, 12689, 14523, 16621, 19024, 21773, 24919, 28521, 32642,
   37359, 42758, 48938, 56010, 64104, 73368, 83971, 96106, 109994, 125890, 144082, 164904, 188735,
   216010, 247226, 282953, 323844, 370643, 424206, 485509, 555672, 635973, 727880, 833067, 953456,
   1091243, 1248941, 1429429, 1636000, 1872423, 2143012, 2452704, 2807151, 3212820, 3677113,
   4208502, 4816684, 5512756, 6309419, 7221210, 8264766, 9459129, 10826093, 12390601, 14181199,
   16230562, 18576084, 21260563, 24332984, 27849408, 31873999]

/-- What having had so many pages open costs in all; beyond the ramp, more than there is. -/
def rampAt (pages : Nat) : Nat := ramp.getD pages max64

structure PagePrice where
  free : Nat
  perPage : Nat
  deriving DecidableEq, Repr

namespace PagePrice

def maxPages : Nat := 65535

/-- Gas for opening `new` pages when `now` are open and `ever` were at most. -/
def cost (p : PagePrice) (new now ever : Nat) : Nat :=
  let opened := min (now + new) maxPages
  let most := max ever opened
  if most ≤ p.free then 0
  else
    let linear := ((opened - p.free) - (now - p.free)) * p.perPage
    clamp64 (linear + (rampAt most - rampAt ever))

end PagePrice
end Inkwell
