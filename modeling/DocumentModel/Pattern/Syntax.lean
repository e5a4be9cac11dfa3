/-
Patterns as trees, and the functions that build them.

The building functions keep a tree in a plain form: sequences and alternatives are flat, neighbouring
characters make one literal, alternatives of single characters are a set, and what all alternatives
start with stands before them.
-/
import DocumentModel.Text.CharSet

namespace DocumentModel.Pattern

open DocumentModel.Text

/-- The places beside a word that can be asked for. -/
inductive WordPlace where
  | boundary
  | noBoundary
  | start
  | finish
  /-- No word character before the place. -/
  | startHalf
  /-- No word character after the place. -/
  | finishHalf
deriving DecidableEq, Repr

/-- A condition on a place in the text. -/
inductive Look where
  | textStart
  | textEnd
  /-- The start of a line; with `crlf` a carriage return ends a line too. -/
  | lineStart (crlf : Bool)
  | lineEnd (crlf : Bool)
  | word (place : WordPlace) (unicode : Bool)
deriving DecidableEq, Repr

/-- How often a part of a pattern is repeated: from `least` to `most?` times, or any number of times
from `least` on. -/
structure Count where
  least : Nat
  most? : Option Nat
  /-- Are more times better than fewer? -/
  greedy : Bool
deriving DecidableEq, Repr

inductive Regex where
  | empty
  /-- Some characters, one after the other. -/
  | literal (text : List Char)
  /-- A character of a set; `bytes` marks a set of single bytes. -/
  | chars (set : CharSet) (bytes : Bool)
  | look (look : Look)
  | seq (parts : List Regex)
  | alt (parts : List Regex)
  | repeated (r : Regex) (count : Count)
  /-- A group that is remembered under its number. -/
  | group (number : Nat) (r : Regex)

namespace Regex

def fail : Regex := .chars .empty true

/-- A character of a set. -/
def ofSet (set : CharSet) (bytes : Bool) : Regex :=
  if set.isEmpty then fail
  else match set.only? with
    | some c => .literal [c]
    | none => .chars set bytes

mutual

def same : Regex → Regex → Bool
  | .empty, .empty => true
  | .literal a, .literal b => a = b
  | .chars s x, .chars t y => s = t && x = y
  | .look a, .look b => a = b
  | .seq as, .seq bs => sameAll as bs
  | .alt as, .alt bs => sameAll as bs
  | .repeated a m, .repeated b n => m = n && same a b
  | .group m a, .group n b => m = n && same a b
  | _, _ => false

def sameAll : List Regex → List Regex → Bool
  | [], [] => true
  | a :: as, b :: bs => same a b && sameAll as bs
  | _, _ => false

end

mutual

/-- The length of the longest match in bytes, if there is one. -/
def longest? : Regex → Option Nat
  | .empty => some 0
  | .literal text => some (text.map Char.utf8Size).sum
  | .chars set _ => set.ranges.back?.map fun r => (Char.ofNat r.2).utf8Size
  | .look _ => some 0
  | .seq parts => longestOfAll? parts
  | .alt parts => longestOfAny? parts
  | .repeated r count =>
      match count.most?, longest? r with
      | some most, some n => some (most * n)
      | _, _ => none
  | .group _ r => longest? r

def longestOfAll? : List Regex → Option Nat
  | [] => some 0
  | r :: rs =>
      match longest? r, longestOfAll? rs with
      | some m, some n => some (m + n)
      | _, _ => none

def longestOfAny? : List Regex → Option Nat
  | [] => some 0
  | r :: rs =>
      match longest? r, longestOfAny? rs with
      | some m, some n => some (max m n)
      | _, _ => none

end

mutual

/-- The length of the shortest match in bytes, if there is one. -/
def shortest? : Regex → Option Nat
  | .empty => some 0
  | .literal text => some (text.map Char.utf8Size).sum
  | .chars set _ => set.ranges[0]?.map fun r => (Char.ofNat r.1).utf8Size
  | .look _ => some 0
  | .seq parts => shortestOfAll? parts
  | .alt parts => shortestOfAny? parts
  | .repeated r count => (shortest? r).map (count.least * ·)
  | .group _ r => shortest? r

def shortestOfAll? : List Regex → Option Nat
  | [] => some 0
  | r :: rs =>
      match shortest? r, shortestOfAll? rs with
      | some m, some n => some (m + n)
      | _, _ => none

def shortestOfAny? : List Regex → Option Nat
  | [] => none
  | [r] => shortest? r
  | r :: rs =>
      match shortest? r, shortestOfAny? rs with
      | some m, some n => some (min m n)
      | _, _ => none

end

/-- Does every match take no character at all? -/
def isWeightless (r : Regex) : Bool := r.longest? = some 0

/-- The parts of a sequence; a pattern of another kind is the only part of itself. -/
def partsOfSeq : Regex → List Regex
  | .seq parts => parts
  | .empty => []
  | r => [r]

def partsOfAlt : Regex → List Regex
  | .alt parts => parts
  | r => [r]

/-- Neighbouring literals as one. -/
def joinLiterals : List Regex → List Regex
  | [] => []
  | r :: rs =>
      match r, joinLiterals rs with
      | .literal a, .literal b :: more => .literal (a ++ b) :: more
      | r, rest => r :: rest

def concat (parts : List Regex) : Regex :=
  match joinLiterals (parts.flatMap partsOfSeq) with
  | [] => .empty
  | [r] => r
  | parts => .seq parts

/-- A pattern repeated.  What takes no character is not repeated more than once. -/
def rep (r : Regex) (count : Count) : Regex :=
  let count :=
    if r.isWeightless then
      { count with least := min count.least 1, most? := some (min (count.most?.getD 1) 1) }
    else count
  if count.least = 0 ∧ count.most? = some 0 then .empty
  else if count.least = 1 ∧ count.most? = some 1 then r
  else .repeated r count

def onlyChar? : Regex → Option Char
  | .literal [c] => some c
  | _ => none

/-- The set of a pattern that is one. -/
def set? : Regex → Option CharSet
  | .chars set _ => some set
  | _ => none

/-- Flat alternatives as one set, if all of them are characters or all of them are sets. -/
def setOfAlternatives? (parts : List Regex) : Option Regex :=
  ((parts.mapM onlyChar?).map fun chars => ofSet (.ofList chars) false).or
    ((parts.mapM set?).map fun sets => ofSet (.unionAll sets) false)

/-- The number of parts in which two sequences agree from their starts on. -/
def agreement : List Regex → List Regex → Nat
  | a :: as, b :: bs => if same a b then 1 + agreement as bs else 0
  | _, _ => 0

/-- The parts of a pattern that is a sequence. -/
def sequence? : Regex → Option (List Regex)
  | .seq parts => some parts
  | _ => none

/-- What some sequences all start with, and what is left of each. -/
def commonStart? (parts : List Regex) : Option (List Regex × List Regex) := do
  let sequences ← parts.mapM sequence?
  match sequences with
  | [] => none
  | first :: others =>
      let n := others.foldl (fun n s => min n (agreement first s)) first.length
      if n = 0 then none else some (first.take n, sequences.map fun s => concat (s.drop n))

/-- Alternatives that have no common start. -/
def oneOfDistinct (parts : List Regex) : Regex :=
  let parts := parts.flatMap partsOfAlt
  (setOfAlternatives? parts).getD (.alt parts)

def oneOf (parts : List Regex) : Regex :=
  match parts.flatMap partsOfAlt with
  | [] => fail
  | [r] => r
  | parts =>
      match setOfAlternatives? parts, commonStart? parts with
      | some r, _ => r
      | none, some (start, rests) => concat (start ++ [oneOfDistinct rests])
      | none, none => .alt parts

end Regex

end DocumentModel.Pattern
