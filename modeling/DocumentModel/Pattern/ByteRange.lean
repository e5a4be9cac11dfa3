/-
The byte sequences of characters.

A range of characters becomes a few sequences of byte ranges: a sequence stands for all characters
whose bytes lie in its ranges, one by one.  A range is cut until its ends differ only in bytes that
run through all their values.
-/
import DocumentModel.Text.CharSet

namespace DocumentModel.Pattern

open DocumentModel.Text

def bytesOf (c : Char) : List Nat :=
  (String.utf8EncodeChar c).map UInt8.toNat

/-- The last code points that take one, two and three bytes. -/
def lengthLimits : List Nat := [0x7F, 0x7FF, 0xFFFF]

/-- The numbers of characters that share all bytes but the last one, two or three. -/
def blockSizes : List Nat := [0x40, 0x1000, 0x40000]

/-- Where to cut a range whose ends lie in different blocks, unless it consists of whole blocks:
before its first whole block, or after its last. -/
def blockCut? (first last block : Nat) : Option Nat :=
  if first / block = last / block then none
  else if first % block ≠ 0 then some (first - first % block + block - 1)
  else if last % block ≠ block - 1 then some (last - last % block - 1)
  else none

/-- The last code point of the first part, if a range has to be cut. -/
def cut? (first last : Nat) : Option Nat :=
  match lengthLimits.find? fun n => first ≤ n && n < last with
  | some n => some n
  | none =>
      if last < 0x80 then none
      else blockSizes.findSome? (blockCut? first last)

/-- The sequences for the characters from `first` to `last`. -/
def byteSequences (first last : Nat) : List (List (Nat × Nat)) :=
  match cut? first last with
  | some n =>
      if _h : first ≤ n ∧ n < last then byteSequences first n ++ byteSequences (n + 1) last else []
  | none => [(bytesOf (Char.ofNat first)).zip (bytesOf (Char.ofNat last))]
termination_by last - first

/-- The sequences for the members of a set. -/
def sequencesOf (set : CharSet) : List (List (Nat × Nat)) :=
  set.ranges.toList.flatMap fun r => byteSequences r.1 r.2

end DocumentModel.Pattern
