/-
Does a pattern match anywhere in a text?

A pattern maps the places where a match may start to the places where it may end.  Places are kept
in increasing order, so each of them is followed once, and no pattern takes more than a number of
rounds bounded by the length of the text for each repetition.
-/
import DocumentModel.Pattern.Syntax
import DocumentModel.Pattern.ClassName

namespace DocumentModel.Pattern

def merge : List Nat → List Nat → List Nat
  | [], bs => bs
  | as, [] => as
  | a :: as, b :: bs =>
      if a < b then a :: merge as (b :: bs)
      else if b < a then b :: merge (a :: as) bs
      else a :: merge as bs

/-- The members of the first increasing list that are not in the second. -/
def minus : List Nat → List Nat → List Nat
  | [], _ => []
  | as, [] => as
  | a :: as, b :: bs =>
      if a < b then a :: minus as (b :: bs)
      else if b < a then minus (a :: as) bs
      else minus as bs

def charBefore? (text : Array Char) (i : Nat) : Option Char :=
  if i = 0 then none else text[i - 1]?

namespace Look

/-- Does a place of the text meet the condition? -/
def holds (text : Array Char) (i : Nat) : Look → Bool
  | textStart => i = 0
  | textEnd => i = text.size
  | lineStart false => i = 0 || charBefore? text i = some '\n'
  | lineStart true =>
      i = 0 || charBefore? text i = some '\n' ||
        (charBefore? text i = some '\r' && text[i]? ≠ some '\n')
  | lineEnd false => i = text.size || text[i]? = some '\n'
  | lineEnd true =>
      i = text.size || text[i]? = some '\r' ||
        (text[i]? = some '\n' && charBefore? text i ≠ some '\r')
  | word place unicode =>
      let words := if unicode then Text.Property.word else asciiWord
      let before := (charBefore? text i).any words.contains
      let after := text[i]?.any words.contains
      match place with
      | .boundary => before != after
      | .noBoundary => before == after
      | .start => !before && after
      | .finish => before && !after
      | .startHalf => !before
      | .finishHalf => !after

end Look

/-- Apply a step a number of times.  A step that changes nothing ends it, since no later one would
change anything either. -/
def times (step : List Nat → List Nat) : Nat → List Nat → List Nat
  | 0, places => places
  | n + 1, places =>
      let next := step places
      if next = places then places else times step n next

/-- All places reached from `seen` in at most `rounds` steps.  Only the newest places, `frontier`,
are followed further. -/
def reach (step : List Nat → List Nat) : Nat → (seen frontier : List Nat) → List Nat
  | 0, seen, _ => seen
  | rounds + 1, seen, frontier =>
      let new := minus (step frontier) seen
      if new.isEmpty then seen else reach step rounds (merge seen new) new

/-- Does a text go on with some characters at a place? -/
def hasAt (text : Array Char) (i : Nat) : List Char → Bool
  | [] => true
  | c :: cs => text[i]? = some c && hasAt text (i + 1) cs

namespace Regex

mutual

/-- The places where a match can end that starts at one of `starts`. -/
def ends (text : Array Char) : Regex → (starts : List Nat) → List Nat
  | .empty, starts => starts
  | .literal word, starts =>
      (starts.filter fun i => hasAt text i word).map (· + word.length)
  | .chars set _, starts =>
      (starts.filter fun i => text[i]?.any set.contains).map (· + 1)
  | .look l, starts => starts.filter fun i => l.holds text i
  | .seq parts, starts => endsOfAll text parts starts
  | .alt parts, starts => endsOfAny text parts starts
  | .repeated r count, starts =>
      let first := times (ends text r) count.least starts
      match count.most? with
      | none => reach (ends text r) (text.size + 1) first first
      | some most => reach (ends text r) (min (most - count.least) (text.size + 1)) first first
  | .group _ r, starts => ends text r starts

/-- The places where a match of all parts in turn can end. -/
def endsOfAll (text : Array Char) : List Regex → (starts : List Nat) → List Nat
  | [], starts => starts
  | r :: rs, starts => endsOfAll text rs (ends text r starts)

/-- The places where a match of any of the parts can end. -/
def endsOfAny (text : Array Char) : List Regex → (starts : List Nat) → List Nat
  | [], _ => []
  | r :: rs, starts => merge (ends text r starts) (endsOfAny text rs starts)

end

/-- Does the pattern match somewhere in the text? -/
def matchesIn (r : Regex) (text : String) : Bool :=
  let chars := text.toList.toArray
  !(r.ends chars (List.range (chars.size + 1))).isEmpty

end Regex

end DocumentModel.Pattern
