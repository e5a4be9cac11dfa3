/-
Flags: what they let pass, and how they change what a set means.
-/
import DocumentModel.Text.Blank
import DocumentModel.Text.Folding

namespace DocumentModel.Pattern

open DocumentModel.Text

/-- What the flags say at some place of the pattern. -/
structure Flags where
  caseless : Bool := false
  multiLine : Bool := false
  dotAll : Bool := false
  unicode : Bool := true
  crlf : Bool := false
  spaced : Bool := false
  /-- Are repetitions reluctant unless they are marked? -/
  reluctant : Bool := false

/-- Drop blanks and comments; `comment` says whether the input starts inside a comment. -/
def dropSpace (comment : Bool) : List Char → List Char
  | [] => []
  | c :: rest =>
      if comment then dropSpace (c ≠ '\n') rest
      else if isBlank c then dropSpace false rest
      else if c = '#' then dropSpace true rest
      else c :: rest

/-- A set with the letters of ASCII that differ from a member by case alone. -/
def withOtherAscii (s : CharSet) : CharSet :=
  s.union (.ofList (("abcdefghijklmnopqrstuvwxyz".toList).flatMap fun c =>
    (if s.contains c then [c.toUpper] else []) ++ (if s.contains c.toUpper then [c] else [])))

namespace Flags

/-- Drop what the flags let pass. -/
def skip (f : Flags) (input : List Char) : List Char :=
  if f.spaced then dropSpace false input else input

/-- The next character that counts after the first one of the input. -/
def peek? (f : Flags) (input : List Char) : Option Char :=
  let rest := input.drop 1
  if f.spaced then
    match rest.dropWhile isBlank with
    | '#' :: rest => (rest.dropWhile isBlank).head?
    | rest => rest.head?
  else rest.head?

/-- A set, widened to both cases if case is ignored. -/
def fold (f : Flags) (s : CharSet) : CharSet :=
  if f.caseless then (if f.unicode then s.withVariants else withOtherAscii s) else s

/-- The characters that one character stands for. -/
def foldChar (f : Flags) (c : Char) : CharSet :=
  if f.caseless ∧ f.unicode then .ofList (c :: caseVariants c) else f.fold (.single c)

/-- A set or its complement.  The complement needs the flag `u`. -/
def negate? (f : Flags) (negated : Bool) (s : CharSet) : Option CharSet :=
  if !negated then some s
  else if f.unicode then some s.compl
  else none

end Flags

end DocumentModel.Pattern
