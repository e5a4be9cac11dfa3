/-
Escapes: what a character may stand for after a backslash.
-/
import DocumentModel.Pattern.ClassName
import DocumentModel.Pattern.Flags
import DocumentModel.Pattern.Syntax
import DocumentModel.Text.Hex

namespace DocumentModel.Pattern

open DocumentModel.Text

/-- What an escape or a plain character stands for. -/
inductive Atom where
  /-- A character; `byte` marks one written as `\x` and two digits. -/
  | literal (c : Char) (byte : Bool)
  | look (l : Look)
  | set (s : CharSet)

/-- The characters that mean something by themselves somewhere. -/
def isMeta (c : Char) : Bool :=
  "\\.+*?()|[]\x7b\x7d^$#&-~".toList.contains c

/-- May a character be escaped although it means nothing by itself? -/
def isEscapable (c : Char) : Bool :=
  c.toNat < 128 && !c.isAlphanum && c ≠ '<' && c ≠ '>'

def charOf? (n : Nat) : Option Char :=
  if n.isValidChar then some (Char.ofNat n) else none

def hexOf? (digits : List Char) : Option Nat :=
  digits.foldlM (fun acc c => (hexValue? c).map (acc * 16 + ·)) 0

def fixedHex? (f : Flags) : Nat → List Char → Option (List Char × List Char)
  | 0, input => some ([], input)
  | _ + 1, [] => none
  | n + 1, c :: rest => do
      let (digits, rest) ← fixedHex? f n (f.skip rest)
      return (c :: digits, rest)

/-- Hexadecimal digits up to a closing brace.  The first argument bounds their number. -/
def bracedHex? (f : Flags) : Nat → List Char → Option (List Char × List Char)
  | 0, _ => none
  | _ + 1, [] => none
  | n + 1, c :: rest =>
      if c = '\x7d' then some ([], f.skip rest)
      else do
        let (digits, rest) ← bracedHex? f n (f.skip rest)
        return (c :: digits, rest)

/-- A character by its code point; `width` digits, or any number of them in braces. -/
def hexEscape? (f : Flags) (width : Nat) (input : List Char) : Option (Char × List Char) := do
  let (digits, rest) ← match input with
    | '\x7b' :: rest => bracedHex? f (rest.length + 1) (f.skip rest)
    | _ => fixedHex? f width input
  if digits.isEmpty then none
  else
    let n ← hexOf? digits
    return (← charOf? n, rest)

/-- The first part of a text that ends before `separator`, and what follows it. -/
def cutAt? (separator : List Char) : List Char → Option (List Char × List Char)
  | [] => none
  | c :: rest =>
      if separator.isPrefixOf (c :: rest) then some ([], (c :: rest).drop separator.length)
      else (cutAt? separator rest).map fun (a, b) => (c :: a, b)

def bracedProperty? (body : List Char) : Option (CharSet × Bool) :=
  match cutAt? ['!', '='] body with
  | some (name, value) => (valueClass? name value).map (·, true)
  | none =>
      match (cutAt? [':'] body).or (cutAt? ['='] body) with
      | some (name, value) => (valueClass? name value).map (·, false)
      | none => (namedClass? body).map (·, false)

/-- The text up to a closing brace; blanks that the flags let pass are left out. -/
def bracedName? (f : Flags) : Nat → List Char → Option (List Char × List Char)
  | 0, _ => none
  | _ + 1, [] => none
  | n + 1, c :: rest =>
      if c = '\x7d' then some ([], rest)
      else do
        let (name, rest) ← bracedName? f n (f.skip rest)
        return (c :: name, rest)

/-- A property by its letter or in braces, and whether it is named by what it differs from. -/
def property? (f : Flags) (input : List Char) : Option ((CharSet × Bool) × List Char) :=
  match f.skip input with
  | '\x7b' :: rest => do
      let (body, rest) ← bracedName? f (rest.length + 1) (f.skip rest)
      let found ← bracedProperty? body
      return (found, rest)
  | '\\' :: _ => none
  | c :: rest => (namedClass? [c]).map fun s => ((s, false), f.skip rest)
  | [] => none

def propertyEscape? (f : Flags) (negated : Bool) (input : List Char) :
    Option (CharSet × List Char) := do
  let ((s, differs), rest) ← property? f input
  if !f.unicode then none
  else
    let s ← f.negate? (negated != differs) (f.fold s)
    return (s, rest)

/-- The words that may stand in braces after `\b`. -/
def wordPlace? (name : List Char) : Option WordPlace :=
  match String.ofList name with
  | "start" => some .start
  | "end" => some .finish
  | "start-half" => some .startHalf
  | "end-half" => some .finishHalf
  | _ => none

/-- The word in braces after `\b`: letters and hyphens, then the brace. -/
def placeName? (f : Flags) : Nat → List Char → Option (List Char × List Char)
  | 0, _ => none
  | _ + 1, [] => none
  | n + 1, c :: rest =>
      if c = '\x7d' then some ([], rest)
      else if c.isAlpha ∨ c = '-' then do
        let (name, rest) ← placeName? f n (f.skip rest)
        return (c :: name, rest)
      else none

/-- The place that `\b` asks for.  A brace that does not start a word is left for a repetition. -/
def boundary? (f : Flags) (input : List Char) : Option (WordPlace × List Char) :=
  match input with
  | '\x7b' :: rest =>
      match f.skip rest with
      | [] => none
      | c :: more =>
          if c.isAlpha ∨ c = '-' then do
            let (name, rest) ← placeName? f (more.length + 2) (c :: more)
            return (← wordPlace? name, rest)
          else some (.boundary, input)
  | _ => some (.boundary, input)

/-- What an escape stands for, after its backslash. -/
def escape? (f : Flags) (input : List Char) : Option (Atom × List Char) :=
  match input with
  | [] => none
  | c :: rest =>
      if isMeta c || isEscapable c then some (.literal c false, rest)
      else match c with
        | 'x' => do
            let input := f.skip rest
            let (c, rest) ← hexEscape? f 2 input
            return (.literal c (input.head? ≠ some '\x7b'), f.skip rest)
        | 'u' => (hexEscape? f 4 (f.skip rest)).map fun (c, rest) => (.literal c false, f.skip rest)
        | 'U' => (hexEscape? f 8 (f.skip rest)).map fun (c, rest) => (.literal c false, f.skip rest)
        | 'p' => (propertyEscape? f false rest).map fun (s, rest) => (.set s, rest)
        | 'P' => (propertyEscape? f true rest).map fun (s, rest) => (.set s, rest)
        | 'a' => some (.literal '\x07' false, rest)
        | 'f' => some (.literal '\x0c' false, rest)
        | 't' => some (.literal '\t' false, rest)
        | 'n' => some (.literal '\n' false, rest)
        | 'r' => some (.literal '\r' false, rest)
        | 'v' => some (.literal '\x0b' false, rest)
        | 'A' => some (.look .textStart, rest)
        | 'z' => some (.look .textEnd, rest)
        | 'b' => (boundary? f rest).map fun (place, rest) => (.look (.word place f.unicode), rest)
        | 'B' => some (.look (.word .noBoundary f.unicode), rest)
        | '<' => some (.look (.word .start f.unicode), rest)
        | '>' => some (.look (.word .finish f.unicode), rest)
        | _ => do
            let s ← letterClass? f.unicode c.toLower
            let s ← f.negate? c.isUpper s
            return (.set s, rest)

end DocumentModel.Pattern
