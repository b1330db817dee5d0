import Inkwell.Octets
set_option autoImplicit false

/-! Code that, run by a creation, leaves given code in the new account. -/

namespace Inkwell.InitCode

/-- Sets the free memory pointer, and reverts if the creation carries value. -/
def prologue : Octets :=
  [0x60, 0x80, 0x60, 0x40, 0x52, 0x34, 0x80, 0x15, 0x61, 0x00, 0x10, 0x57, 0x60, 0x00, 0x80, 0xfd,
   0x5b, 0x50]

def pushLength : UInt8 := 0x61

/-- Copies the code, which starts behind these instructions, to memory and returns it. -/
def epilogue : Octets := [0x80, 0x61, 0x00, 0x20, 0x60, 0x00, 0x39, 0x60, 0x00, 0xf3, 0xfe]

def maxLength : Nat := 65535

/-- None for code that is too long. -/
def ofCode? (code : Octets) : Option Octets :=
  if code.length ≤ maxLength then
    some (prologue ++ pushLength :: Octets.ofNat 2 code.length ++ epilogue ++ code)
  else none

end Inkwell.InitCode
