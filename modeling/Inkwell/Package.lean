import Inkwell.Brotli.Decode
import Inkwell.Brotli.Stored
set_option autoImplicit false

/-! A module as account code: a mark of four bytes, the last of which names the dictionary, then
a Brotli stream. -/

namespace Inkwell.Package

inductive Error where
  | noMark
  | corrupt (fault : Brotli.Fault)
  | tooLarge (limit : Nat)
  deriving DecidableEq, Repr

def faultText : Brotli.Fault → String
  | .truncated => "corrupted brotli stream"
  | .violation => "brotli error"

def Error.message : Error → String
  | .noMark => "code does not start with the Stylus discriminant"
  | .corrupt f => "corrupt brotli payload: " ++ faultText f
  | .tooLarge limit => s!"decompressed program exceeds {limit} bytes"

/-- Marks account code as a program, whatever its dictionary. -/
def discriminant : Octets := [0xef, 0xf0, 0x00]

def mark : Octets := discriminant ++ [0x00]

def isProgram (code : Octets) : Bool := discriminant.isPrefixOf code

def complete (o : Brotli.Outcome) : Except Error Octets :=
  match o.fault with
  | some f => .error (.corrupt f)
  | none => .ok o.delivered

/-- All that a stream yields under a limit: more bytes are refused before a later fault is seen. -/
def completeWithin (limit : Nat) (o : Brotli.Outcome) : Except Error Octets :=
  if limit < o.delivered.length then .error (.tooLarge limit) else complete o

def decompress (bs : Octets) : Except Error Octets := complete (Brotli.decode bs)

def body? (code : Octets) : Except Error Octets :=
  if mark.isPrefixOf code then .ok (code.drop mark.length) else .error .noMark

def unpack (code : Octets) : Except Error Octets := do decompress (← body? code)

def unpackWithin (limit : Nat) (code : Octets) : Except Error Octets := do
  completeWithin limit (Brotli.decode (← body? code))

/-- The module in an account's code; none if the code is no program. -/
def module? (limit : Nat) (code : Octets) : Except Error (Option Octets) :=
  if isProgram code then (unpackWithin limit code).map some else .ok none

def pack (wasm : Octets) : Octets := mark ++ Brotli.encodeStored wasm

end Inkwell.Package
