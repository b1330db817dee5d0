import Inkwell.Brotli.Words
set_option autoImplicit false

/-! References into the static dictionary: a word of the asked length, changed in one of 121 ways. -/

namespace Inkwell.Brotli.Dictionary

inductive Edit where
  | keep | capitalFirst | capitalAll
  | dropFirst (n : Nat)
  | dropLast (n : Nat)
  deriving DecidableEq, Repr

structure Transform where
  before : String
  edit : Edit
  after : String
  deriving Repr

def transforms : Array Transform :=
  #[⟨"", .keep, ""⟩, ⟨"", .keep, " "⟩, ⟨" ", .keep, " "⟩, ⟨"", .dropFirst 1, ""⟩,
    ⟨"", .capitalFirst, " "⟩, ⟨"", .keep, " the "⟩, ⟨" ", .keep, ""⟩, ⟨"s ", .keep, " "⟩,
    ⟨"", .keep, " of "⟩, ⟨"", .capitalFirst, ""⟩, ⟨"", .keep, " and "⟩, ⟨"", .dropFirst 2, ""⟩,
    ⟨"", .dropLast 1, ""⟩, ⟨", ", .keep, " "⟩, ⟨"", .keep, ", "⟩, ⟨" ", .capitalFirst, " "⟩,
    ⟨"", .keep, " in "⟩, ⟨"", .keep, " to "⟩, ⟨"e ", .keep, " "⟩, ⟨"", .keep, "\""⟩,
    ⟨"", .keep, "."⟩, ⟨"", .keep, "\">"⟩, ⟨"", .keep, "\n"⟩, ⟨"", .dropLast 3, ""⟩,
    ⟨"", .keep, "]"⟩, ⟨"", .keep, " for "⟩, ⟨"", .dropFirst 3, ""⟩, ⟨"", .dropLast 2, ""⟩,
    ⟨"", .keep, " a "⟩, ⟨"", .keep, " that "⟩, ⟨" ", .capitalFirst, ""⟩, ⟨"", .keep, ". "⟩,
    ⟨".", .keep, ""⟩, ⟨" ", .keep, ", "⟩, ⟨"", .dropFirst 4, ""⟩, ⟨"", .keep, " with "⟩,
    ⟨"", .keep, "'"⟩, ⟨"", .keep, " from "⟩, ⟨"", .keep, " by "⟩, ⟨"", .dropFirst 5, ""⟩,
    ⟨"", .dropFirst 6, ""⟩, ⟨" the ", .keep, ""⟩, ⟨"", .dropLast 4, ""⟩, ⟨"", .keep, ". The "⟩,
    ⟨"", .capitalAll, ""⟩, ⟨"", .keep, " on "⟩, ⟨"", .keep, " as "⟩, ⟨"", .keep, " is "⟩,
    ⟨"", .dropLast 7, ""⟩, ⟨"", .dropLast 1, "ing "⟩, ⟨"", .keep, "\n\t"⟩, ⟨"", .keep, ":"⟩,
    ⟨" ", .keep, ". "⟩, ⟨"", .keep, "ed "⟩, ⟨"", .dropFirst 9, ""⟩, ⟨"", .dropFirst 7, ""⟩,
    ⟨"", .dropLast 6, ""⟩, ⟨"", .keep, "("⟩, ⟨"", .capitalFirst, ", "⟩, ⟨"", .dropLast 8, ""⟩,
    ⟨"", .keep, " at "⟩, ⟨"", .keep, "ly "⟩, ⟨" the ", .keep, " of "⟩, ⟨"", .dropLast 5, ""⟩,
    ⟨"", .dropLast 9, ""⟩, ⟨" ", .capitalFirst, ", "⟩, ⟨"", .capitalFirst, "\""⟩,
    ⟨".", .keep, "("⟩, ⟨"", .capitalAll, " "⟩, ⟨"", .capitalFirst, "\">"⟩, ⟨"", .keep, "=\""⟩,
    ⟨" ", .keep, "."⟩, ⟨".com/", .keep, ""⟩, ⟨" the ", .keep, " of the "⟩,
    ⟨"", .capitalFirst, "'"⟩, ⟨"", .keep, ". This "⟩, ⟨"", .keep, ","⟩, ⟨".", .keep, " "⟩,
    ⟨"", .capitalFirst, "("⟩, ⟨"", .capitalFirst, "."⟩, ⟨"", .keep, " not "⟩,
    ⟨" ", .keep, "=\""⟩, ⟨"", .keep, "er "⟩, ⟨" ", .capitalAll, " "⟩, ⟨"", .keep, "al "⟩,
    ⟨" ", .capitalAll, ""⟩, ⟨"", .keep, "='"⟩, ⟨"", .capitalAll, "\""⟩,
    ⟨"", .capitalFirst, ". "⟩, ⟨" ", .keep, "("⟩, ⟨"", .keep, "ful "⟩,
    ⟨" ", .capitalFirst, ". "⟩, ⟨"", .keep, "ive "⟩, ⟨"", .keep, "less "⟩,
    ⟨"", .capitalAll, "'"⟩, ⟨"", .keep, "est "⟩, ⟨" ", .capitalFirst, "."⟩,
    ⟨"", .capitalAll, "\">"⟩, ⟨" ", .keep, "='"⟩, ⟨"", .capitalFirst, ","⟩, ⟨"", .keep, "ize "⟩,
    ⟨"", .capitalAll, "."⟩, ⟨"\u00a0", .keep, ""⟩, ⟨" ", .keep, ","⟩, ⟨"", .capitalFirst, "=\""⟩,
    ⟨"", .capitalAll, "=\""⟩, ⟨"", .keep, "ous "⟩, ⟨"", .capitalAll, ", "⟩,
    ⟨"", .capitalFirst, "='"⟩, ⟨" ", .capitalFirst, ","⟩, ⟨" ", .capitalAll, "=\""⟩,
    ⟨" ", .capitalAll, ", "⟩, ⟨"", .capitalAll, ","⟩, ⟨"", .capitalAll, "("⟩,
    ⟨"", .capitalAll, ". "⟩, ⟨" ", .capitalAll, "."⟩, ⟨"", .capitalAll, "='"⟩,
    ⟨" ", .capitalAll, ". "⟩, ⟨" ", .capitalFirst, "=\""⟩, ⟨" ", .capitalAll, "='"⟩,
    ⟨" ", .capitalFirst, "='"⟩]

/-- Switches the case of the first character, told by its lead byte, and gives the rest. -/
def capitalize : Octets → Octets × Octets
  | [] => ([], [])
  | a :: rest =>
    if a < 0xc0 then ([if 0x61 ≤ a ∧ a ≤ 0x7a then a ^^^ 0x20 else a], rest)
    else if a < 0xe0 then match rest with
      | b :: rest => ([a, b ^^^ 0x20], rest)
      | [] => ([a], [])
    else match rest with
      | b :: c :: rest => ([a, b, c ^^^ 5], rest)
      | _ => (a :: rest, [])

def capitalizeAll : (n : Nat) → Octets → Octets
  | 0, bs => bs
  | n+1, bs => let (head, rest) := capitalize bs; head ++ capitalizeAll n rest

def Edit.apply : Edit → Octets → Octets
  | .keep, w => w
  | .capitalFirst, w => let (head, rest) := capitalize w; head ++ rest
  | .capitalAll, w => capitalizeAll w.length w
  | .dropFirst n, w => w.drop n
  | .dropLast n, w => w.take (w.length - n)

def Transform.apply (t : Transform) (w : Octets) : Octets :=
  Octets.ofText t.before ++ t.edit.apply w ++ Octets.ofText t.after

def indexBits : List Nat :=
  [0, 0, 0, 0, 10, 10, 11, 11, 10, 10, 10, 10, 10, 9, 9, 8, 7, 7, 8, 7, 7, 6, 6, 5, 5]

def offset (n : Nat) : Nat :=
  ((indexBits.zipIdx.take n).map fun p => if p.1 = 0 then 0 else p.2 * 2 ^ p.1).sum

def word (length index : Nat) : Octets :=
  (words.extract (offset length + index * length) (offset length + (index + 1) * length)).toList

/-- The low bits of the address number a word of the copy length, the rest a transform. -/
def lookup (length address : Nat) : Option Octets :=
  if 4 ≤ length ∧ length ≤ 24 then
    let bits := indexBits.getD length 0
    transforms[address / 2 ^ bits]?.map fun t => t.apply (word length (address % 2 ^ bits))
  else none

end Inkwell.Brotli.Dictionary
