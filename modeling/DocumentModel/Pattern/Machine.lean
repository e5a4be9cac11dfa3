/-
How large the machines of a pattern are.

A pattern is run by two machines that read the bytes of a text: one forwards, which remembers
groups, and one backwards.  A machine has states of one size, and some states keep a list besides:
of byte ranges, or of the states they branch to.  Nothing here runs a machine; its states are
counted as they would be made, and a pattern whose machines would take too many bytes is refused.
-/
import DocumentModel.Pattern.ByteRange
import DocumentModel.Pattern.Syntax
import Std.Data.HashMap

namespace DocumentModel.Pattern

open DocumentModel.Text

/-- How much of a machine has been made. -/
structure Extent where
  states : Nat
  /-- The bytes of the lists that states keep. -/
  listed : Nat

namespace Extent

def stateSize : Nat := 32

def rangeSize : Nat := 8

def branchSize : Nat := 4

/-- The size of everything made so far. -/
def bytes (e : Extent) : Nat := stateSize * e.states + e.listed

/-- The size up to which a machine is accepted. -/
def limit : Nat := 10 * 1024 * 1024

end Extent

/-- Counting the states of part of a machine; there is no result once the machine is too large. -/
abbrev Sizing := StateT Extent Option

namespace Sizing

/-- Some more states, with so many bytes in their lists. -/
def grow (states listed : Nat) : Sizing Unit := fun e =>
  let e := ⟨e.states + states, e.listed + listed⟩
  if e.bytes ≤ Extent.limit then some ((), e) else none

def state (listed : Nat) : Sizing Nat := fun e => do
  let (_, e') ← grow 1 listed e
  return (e.states, e')

/-- Lead from a state to some others; `branching` says whether it keeps them in a list. -/
def lead (branching : Bool) (branches : Nat) : Sizing Unit :=
  if branching then grow 0 (Extent.branchSize * branches) else pure ()

end Sizing

open Sizing

inductive Direction where
  | forward
  | backward
deriving DecidableEq

/-- Places for what was made last, found by a number computed from it.  What comes to a place that
is taken drives out what was there. -/
abbrev Places := Std.HashMap Nat (List Nat × Nat)

namespace Places

/-- The number of places for states that are read forwards. -/
def forwardSize : Nat := 10000

/-- The number of places for states that are read backwards. -/
def backwardSize : Nat := 1000

/-- The place, among so many, of a list of numbers: they are mixed one by one into a word of 64
bits. -/
def placeOf (size : Nat) (key : List Nat) : Nat :=
  let mixed := key.foldl (fun (h : UInt64) n => (h ^^^ n.toUInt64) * 1099511628211)
    14695981039346656037
  mixed.toNat % size

/-- What was made for `key`, if it is still in its place. -/
def find? (places : Places) (size : Nat) (key : List Nat) : Option Nat :=
  match places[placeOf size key]? with
  | some (other, made) => if other = key then some made else none
  | none => none

/-- Put what was made for `key` into its place. -/
def put (places : Places) (size : Nat) (key : List Nat) (made : Nat) : Places :=
  places.insert (placeOf size key) (key, made)

end Places

/-- Counting the states of a set of characters, with a memory of the states made before. -/
abbrev SizingSet := StateT Places Sizing

/-- The state for a key, made only if it is not at hand; `listed` is the size of its list. -/
def shared (size : Nat) (key : List Nat) (listed : Nat) : SizingSet Nat := do
  match (← get).find? size key with
  | some made => return made
  | none => do
      let made ← Sizing.state listed
      modify fun places => places.put size key made
      return made

/-- A byte position that is still open: its byte ranges with the states they lead to, and a last
range whose state is yet to be made. -/
structure OpenState where
  ranges : List (Nat × Nat × Nat)
  last? : Option (Nat × Nat)

namespace OpenState

/-- Let the last range lead to a state. -/
def close (s : OpenState) (next : Nat) : OpenState :=
  match s.last? with
  | none => s
  | some (a, b) => ⟨s.ranges ++ [(a, b, next)], none⟩

/-- The numbers by which the finished state is recognized. -/
def key (s : OpenState) : List Nat :=
  s.ranges.flatMap fun (a, b, next) => [a, b, next]

/-- Finish open states from the last byte position on; the answer is the state of the first. -/
def closeAll (target : Nat) : List OpenState → SizingSet Nat
  | [] => return target
  | s :: rest => do
      let s := s.close (← closeAll target rest)
      shared Places.forwardSize s.key (Extent.rangeSize * s.ranges.length)

/-- Add a byte sequence.  Sequences come in increasing order, so only the positions where it agrees
with the one before stay open. -/
def add (target : Nat) : List (Nat × Nat) → List OpenState → SizingSet (List OpenState)
  | [], states => return states
  | r :: rs, [] => return ⟨[], some r⟩ :: rs.map fun r => ⟨[], some r⟩
  | r :: rs, s :: rest => do
      if s.last? = some r then return s :: (← add target rs rest)
      else
        let s := s.close (← closeAll target rest)
        return { s with last? := some r } :: rs.map fun r => ⟨[], some r⟩

end OpenState

/-- The states of a set beyond ASCII, read forwards: what its sequences have in common at their ends
is made once. -/
def forwardSet (sequences : List (List (Nat × Nat))) : Sizing Unit := do
  let target ← Sizing.state 0
  let made : SizingSet Nat := do
    let states ← sequences.foldlM (fun states s => OpenState.add target s states) [⟨[], none⟩]
    OpenState.closeAll target states
  let _ ← made.run' ∅

/-- The states of a sequence read backwards, each a single byte range. -/
def backwardSequence : List (Nat × Nat) → (next : Nat) → SizingSet Nat
  | [], next => return next
  | (a, b) :: rest, next => do
      let next ← shared Places.backwardSize [next, a, b] 0
      backwardSequence rest next

/-- The states of a set beyond ASCII, read backwards. -/
def backwardSet (sequences : List (List (Nat × Nat))) : Sizing Unit := do
  grow 1 0
  let target ← Sizing.state 0
  let made : SizingSet Unit := sequences.forM fun s => do
    let _ ← backwardSequence s target
    lead true 1
  made.run' ∅

/-- Put a word's rest with the words that start like it. -/
def insertByHead (b : Nat) (tail : List Nat) :
    List (Nat × List (List Nat)) → List (Nat × List (List Nat))
  | [] => [(b, [tail])]
  | (c, tails) :: rest =>
      if b = c then (c, tail :: tails) :: rest else (c, tails) :: insertByHead b tail rest

/-- The words between those that end here.  `started` says whether a word went on before, and
`ended` whether one has ended. -/
def chunks (started ended : Bool) : List (List Nat) → List (List (Nat × List (List Nat)))
  | [] => [[]]
  | [] :: words =>
      if ended && !started then chunks started ended words else [] :: chunks started true words
  | (b :: tail) :: words =>
      match chunks true ended words with
      | [] => [[(b, [tail])]]
      | chunk :: more => insertByHead b tail chunk :: more

/-- The states of a tree of words, from some byte on: one for the first bytes of each chunk, and one
that branches to these and to the end.  The first argument bounds the length of the words. -/
def treeExtent : Nat → List (List Nat) → Extent
  | 0, _ => ⟨0, 0⟩
  | fuel + 1, words =>
      if words.all List.isEmpty then ⟨0, 0⟩
      else
        let chunks := chunks false false words
        let full := chunks.filter (!·.isEmpty)
        let children := (full.flatMap id).map fun (_, tails) => treeExtent fuel tails
        let ranges := (full.map fun chunk => if chunk.length = 1 then 0 else chunk.length).sum
        ⟨full.length + 1 + (children.map Extent.states).sum,
          Extent.rangeSize * ranges +
            Extent.branchSize * (full.length + (chunks.length - 1)) +
            (children.map Extent.listed).sum⟩

/-- The states of some words, which share how they start. -/
def wordTree (words : List (List Nat)) : Sizing Unit := do
  grow 1 0
  let extent := treeExtent ((words.map List.length).foldl max 0 + 1) words
  grow extent.states extent.listed

/-- A part made so many times more; `branching` tells of the end reached so far.  Every part answers
whether its open end keeps its branches in a list. -/
def again (part : Sizing Bool) : Nat → (branching : Bool) → Sizing Bool
  | 0, branching => return branching
  | n + 1, branching => do
      let next ← part
      lead branching 1
      again part n next

def exactly (part : Sizing Bool) : Nat → Sizing Bool
  | 0 => do
      grow 1 0
      return false
  | n + 1 => do again part n (← part)

/-- A part made so many times more, with a way out before each. -/
def upTo (part : Sizing Bool) : Nat → (branching : Bool) → Sizing Unit
  | 0, branching => lead branching 1
  | n + 1, branching => do
      grow 1 0
      let next ← part
      lead branching 1
      lead true 2
      upTo part n next

/-- A part repeated any number of times from `least` on. -/
def atLeast (part : Sizing Bool) (neverEmpty : Bool) : (least : Nat) → Sizing Bool
  | 0 =>
      if neverEmpty then do
        grow 1 0
        let branching ← part
        lead true 1
        lead branching 1
        return true
      else do
        let branching ← part
        grow 3 0
        lead branching 1
        lead true 4
        return false
  | 1 => do
      let branching ← part
      grow 1 0
      lead branching 1
      lead true 1
      return true
  | n + 2 => do
      let before ← exactly part (n + 1)
      let branching ← part
      grow 1 0
      lead before 1
      lead branching 1
      lead true 1
      return true

def repeating (part : Sizing Bool) (neverEmpty : Bool) (count : Count) : Sizing Bool :=
  match count.least, count.most? with
  | least, none => atLeast part neverEmpty least
  | 0, some 1 => do
      grow 1 0
      let branching ← part
      grow 1 0
      lead true 2
      lead branching 1
      return false
  | least, some most =>
      if least = most then exactly part least
      else do
        let branching ← exactly part least
        grow 1 0
        upTo part (most - least) branching
        return false

namespace Regex

/-- The bytes of a literal. -/
def literalBytes? : Regex → Option (List Nat)
  | .literal text => some (text.flatMap bytesOf)
  | _ => none

mutual

/-- The states of a pattern.  The answer says whether the open end keeps its branches in a list. -/
def extent (d : Direction) : Regex → Sizing Bool
  | .empty => do
      grow 1 0
      return false
  | .literal text => do
      grow (text.map Char.utf8Size).sum 0
      return false
  | .chars set _ =>
      let sequences := sequencesOf set
      do
        if set.isAscii then grow 2 (Extent.rangeSize * set.ranges.size)
        else match d with
          | .forward => forwardSet sequences
          | .backward => backwardSet sequences
        return false
  | .look _ => do
      grow 1 0
      return false
  | .seq parts => extentAll d parts
  | .alt parts =>
      match parts.mapM literalBytes? with
      | some words => do
          wordTree (match d with
            | .forward => words
            | .backward => words.map List.reverse)
          return false
      | none => extentAny d parts
  | .repeated r count =>
      repeating (extent d r) (r.shortest?.any (0 < ·)) count
  | .group _ r =>
      match d with
      | .forward => do
          grow 1 0
          let branching ← extent d r
          grow 1 0
          lead branching 1
          return false
      | .backward => extent d r

/-- The states of some parts, in the order in which they are read. -/
def extentAll (d : Direction) : List Regex → Sizing Bool
  | [] => do
      grow 1 0
      return false
  | [r] => extent d r
  | r :: rs =>
      match d with
      | .forward => do
          let branching ← extent d r
          let last ← extentAll d rs
          lead branching 1
          return last
      | .backward => do
          let branching ← extentAll d rs
          let last ← extent d r
          lead branching 1
          return last

/-- The states of alternatives.  The first two come before the state that branches to them. -/
def extentAny (d : Direction) : List Regex → Sizing Bool
  | [] => do
      grow 1 0
      return false
  | [r] => extent d r
  | r :: rs => do
      let branching ← extent d r
      lead branching 1
      extentOthers d true rs
      lead true 1
      return false

/-- The alternatives after the first, and after the second the state that branches. -/
def extentOthers (d : Direction) (second : Bool) : List Regex → Sizing Unit
  | [] => return
  | r :: rs => do
      let branching ← extent d r
      if second then grow 2 0
      lead branching 1
      lead true 1
      extentOthers d false rs

end

mutual

/-- Can the pattern match only at the start of a text? -/
def startsText : Regex → Bool
  | .look .textStart => true
  | .seq parts => startsTextAll parts
  | .alt parts => startsTextAny parts
  | .repeated r count => 0 < count.least && startsText r
  | .group _ r => startsText r
  | _ => false

def startsTextAll : List Regex → Bool
  | [] => false
  | r :: rs => startsText r || (r.isWeightless && startsTextAll rs)

def startsTextAny : List Regex → Bool
  | [] => true
  | r :: rs => startsText r && startsTextAny rs

end

mutual

/-- Can the pattern match only at the end of a text? -/
def endsText : Regex → Bool
  | .look .textEnd => true
  | .seq parts => endsTextAll parts
  | .alt parts => endsTextAny parts
  | .repeated r count => 0 < count.least && endsText r
  | .group _ r => endsText r
  | _ => false

def endsTextAll : List Regex → Bool
  | [] => false
  | [r] => endsText r
  | r :: rs => endsTextAll rs || (rs.all isWeightless && endsText r)

def endsTextAny : List Regex → Bool
  | [] => true
  | r :: rs => endsText r && endsTextAny rs

end

/-- The states of the machine of a whole pattern.  Unless a match is bound to the end from which the machine
reads, the machine first passes over any bytes. -/
def machine (d : Direction) (r : Regex) : Sizing Unit := do
  let bound := match d with
    | .forward => r.startsText
    | .backward => r.endsText
  if bound then grow 1 0
  else
    grow 3 Extent.rangeSize
    lead true 1
  match d with
  | .forward => do
      let _ ← extent d (.group 0 r)
      grow 1 0
  | .backward => do
      let branching ← extent d r
      grow 1 0
      lead branching 1
  lead (!bound) 1

/-- The number of words from which on a choice among words needs no machine. -/
def wordListSize : Nat := 3000

/-- Is the pattern a choice among so many words that no machine is made for it? -/
def isWordList (r : Regex) : Bool :=
  match r with
  | .alt parts => wordListSize ≤ parts.length && (parts.mapM literalBytes?).isSome
  | _ => false

/-- Are the machines of a pattern small enough? -/
def fits (r : Regex) : Bool :=
  r.isWordList ||
    (((machine .forward r).run ⟨0, 0⟩).isSome && ((machine .backward r).run ⟨0, 0⟩).isSome)

end Regex

end DocumentModel.Pattern
